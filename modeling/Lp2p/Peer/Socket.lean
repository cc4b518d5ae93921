import Lp2p.Peer.Rates

/-!
# What the steps do to a session's socket

No step drops a socket. An inbound session is given its socket (`src/peer/inbound.js:45–75`)
and keeps it. An outbound one makes one on demand (`src/unnamed/part_003:53–67,101–106`). So a
session the pool created can always send.

The calls made on a socket only accumulate. The session's two `for await` loops, over the
`rpc-request` procedure and the `remote-message` receiver, only ever stop: when a handler
throws (`src/unnamed/part_003:162–172`, `src/peer/inbound.js:94–104`), or when `disconnect`
kills their streams (`src/peer/inbound.js:109–122`, `src/unnamed/part_003:176–192`). Once a
loop has stopped, every later frame on its stream is dropped, whatever happens after.

A request that reaches `_handleRawRPC` (`src/peer/base.js:146–183`) is answered on the socket
with `end` or `error` of its `P2PRequest` (`src/unnamed/part_000:18–74`). The session itself
answers three kinds of request:
- an invalid request, with the error;
- `updateMyself`, in `_handleUpdatePeerInfo` (`src/peer/base.js:454–466`);
- `status`, in `_handleGetNodeInfo` (`src/peer/base.js:468–473`).

The request is then handed to the application. Its `end` on a request already answered throws
in `enforceResponseNotAlreadySent` instead of answering twice. `_handleUpdatePeerInfo` emits
`failedPeerInfoUpdate` before `request.error`, so a listener that throws there leaves the
request unanswered and keeps it from the application. The outbound socket answers each ping
request with `pong` until `disconnect` kills its `ping` procedure
(`src/unnamed/part_003:155–159`). No other step answers anything. So over every run, a
session answers at most as many requests as reach it.
-/

namespace Lp2p

open Lp2p.Js

/-- Whether a call answers a request: `request.end` or `request.error`. -/
def SocketCall.isAnswer : SocketCall → Bool
  | .endRequest | .errorRequest => true
  | _ => false

/-- The answers made on a socket. -/
def Socket.answers (s : Socket) : Nat := s.calls.countP SocketCall.isAnswer

/-- Calls on a socket add the answers among them. -/
@[simp] theorem Socket.answers_callAll (s : Socket) (cs : List SocketCall) :
    (s.callAll cs).answers = s.answers + cs.countP SocketCall.isAnswer := by
  simp only [Socket.answers, Socket.callAll, List.countP_append]

/-- What a step may do to a socket it keeps: make calls on it, open or close it, and stop one of
its loops; never restart one. -/
structure Socket.Grows (s s' : Socket) : Prop where
  calls : s.calls <+: s'.calls
  rpc : s'.rpcConsumer → s.rpcConsumer
  message : s'.messageConsumer → s.messageConsumer

/-- A socket grows into itself. -/
theorem Socket.Grows.refl (s : Socket) : s.Grows s := ⟨List.prefix_refl _, id, id⟩

/-- Growing is transitive. -/
theorem Socket.Grows.trans {s s' s'' : Socket} (h₁ : s.Grows s') (h₂ : s'.Grows s'') :
    s.Grows s'' :=
  ⟨h₁.calls.trans h₂.calls, h₁.rpc ∘ h₂.rpc, h₁.message ∘ h₂.message⟩

/-- Calls on a socket only grow it. -/
theorem Socket.grows_callAll (s : Socket) (cs : List SocketCall) : s.Grows (s.callAll cs) :=
  ⟨List.prefix_append _ _, id, id⟩

/-- Opening or closing a socket only grows it. -/
theorem Socket.grows_setOpen (s : Socket) (b : Bool) : s.Grows { s with isOpen := b } :=
  ⟨List.prefix_refl _, id, id⟩

/-- Whether a step is a request of the remote peer: a request frame or a ping request. -/
def SessionStep.isRequest : SessionStep → Bool
  | .rpcFrame .. | .pingRequest => true
  | _ => false

namespace Peer

/-- The answers made on the session's socket; none without a socket. -/
def answers (p : Peer) : Nat := (p.socket.map Socket.answers).getD 0

/-- What an update does to a session's socket: a socket the session has is kept and grows, and
`k` answers are made on it. -/
structure SocketFrame (p q : Peer) (k : Nat) : Prop where
  keeps : ∀ s, p.socket = some s → ∃ s', q.socket = some s' ∧ s.Grows s'
  answered : q.answers = p.answers + k

namespace SocketFrame

/-- A session frames itself with no answer. -/
theorem refl (p : Peer) : SocketFrame p p 0 := ⟨fun s h => ⟨s, h, .refl s⟩, rfl⟩

/-- A frame keeps a socket that exists. -/
theorem isSome {p q : Peer} {k : Nat} (h : SocketFrame p q k) (hs : p.socket.isSome) :
    q.socket.isSome := by
  obtain ⟨s, hp⟩ := Option.isSome_iff_exists.1 hs
  obtain ⟨s', hq, -⟩ := h.keeps s hp
  simp [hq]

/-- A frame's count of answers can be restated. -/
theorem cast {p q : Peer} {k l : Nat} (h : SocketFrame p q k) (hk : k = l) : SocketFrame p q l :=
  hk ▸ h

/-- An update that maps the socket, making no answer. -/
theorem of_map {p q : Peer} {f : Socket → Socket} (h : q.socket = p.socket.map f)
    (hf : ∀ s, p.socket = some s → (f s).answers = s.answers ∧ s.Grows (f s)) :
    SocketFrame p q 0 := by
  refine ⟨fun s hs => ⟨f s, by simp [h, hs], (hf s hs).2⟩, ?_⟩
  cases hp : p.socket with
  | none => simp [answers, h, hp]
  | some s => simp [answers, h, hp, (hf s hp).1]

/-- A session with the same socket frames with no answer. -/
theorem of_socket {p q : Peer} (h : q.socket = p.socket) : SocketFrame p q 0 :=
  of_map (f := fun s => s) (by simp [h]) fun s _ => ⟨rfl, .refl s⟩

/-- One update after another. -/
theorem add {p q r : Peer} {k l : Nat} (h₁ : SocketFrame p q k) (h₂ : SocketFrame q r l) :
    SocketFrame p r (k + l) := by
  refine ⟨fun s hs => ?_, by rw [h₂.answered, h₁.answered, Nat.add_assoc]⟩
  obtain ⟨s', hq, hg⟩ := h₁.keeps s hs
  obtain ⟨s'', hr, hg'⟩ := h₂.keeps s' hq
  exact ⟨s'', hr, hg.trans hg'⟩

/-- An update, then one that answers nothing. -/
theorem trans {p q r : Peer} {k : Nat} (h₁ : SocketFrame p q k) (h₂ : SocketFrame q r 0) :
    SocketFrame p r k :=
  h₁.add h₂

/-- An update that answers nothing, then any, written from the later one, which fixes the state
between the two. -/
theorem after {p q r : Peer} {k : Nat} (h₂ : SocketFrame q r k) (h₁ : SocketFrame p q 0) :
    SocketFrame p r k :=
  (h₁.add h₂).cast (Nat.zero_add k)

end SocketFrame

/-- Calls that answer nothing. -/
theorem callAll_frame {p q : Peer} (cs : List SocketCall)
    (h : q.socket = p.socket.map (·.callAll cs)) (hcs : cs.all (!·.isAnswer)) :
    SocketFrame p q 0 :=
  .of_map h fun s _ => ⟨by
    simpa [List.countP_eq_zero] using fun c hc => by simpa using List.all_eq_true.1 hcs c hc,
    Socket.grows_callAll s cs⟩

/-- Calls on the socket the session has. -/
theorem callSocket_frame {p : Peer} (hs : p.socket.isSome) (cs : List SocketCall) :
    SocketFrame p (p.callSocket cs) (cs.countP SocketCall.isAnswer) := by
  obtain ⟨s, h⟩ := Option.isSome_iff_exists.1 hs
  refine ⟨fun s' hs' => ⟨s'.callAll cs, by simp [callSocket, hs'], Socket.grows_callAll s' cs⟩, ?_⟩
  simp [callSocket, answers, h]

/-! ### The steps that answer nothing -/

/-- `disconnect` answers nothing on the socket. -/
theorem disconnect_frame (p : Peer) (code : DisconnectCode) :
    SocketFrame p (p.disconnect code) 0 := by
  have hu : (unbindSocketCalls p.kind).all (!·.isAnswer) := by cases p.kind <;> rfl
  unfold disconnect disconnectBase
  split
  · exact (callAll_frame _ rfl hu).after (callAll_frame [.disconnect code] rfl rfl)
  · exact callAll_frame _ rfl hu

/-- `applyPenalty` answers nothing on the socket. -/
theorem applyPenalty_frame (p : Peer) (penalty : Int) :
    SocketFrame p (p.applyPenalty penalty).1 0 := by
  unfold applyPenalty banPeer
  dsimp only
  split
  · exact (disconnect_frame _ _).after (.of_socket rfl)
  · exact .of_socket rfl

/-- A rate tick answers nothing on the socket. -/
theorem rateTick_frame (p : Peer) : SocketFrame p p.rateTick.1 0 := by
  unfold rateTick
  split
  · dsimp only
    split
    · exact (applyPenalty_frame _ _).after (.of_socket rfl)
    · exact .of_socket rfl
  · exact .refl p

/-- Creating an outbound socket answers nothing on it. -/
theorem ensureOutboundSocket_frame (p : Peer) : SocketFrame p p.ensureOutboundSocket 0 := by
  unfold ensureOutboundSocket
  split
  · next h => exact ⟨fun s hs => by simp [h.2] at hs, by simp [answers, h.2, Socket.answers]⟩
  · exact .refl p

/-- `send` answers nothing on the socket. -/
theorem send_frame (p : Peer) : SocketFrame p p.send.1 0 := by
  refine (ensureOutboundSocket_frame p).trans ?_
  simp only [send]
  split
  · exact .refl _
  · next h => exact callAll_frame [.transmit remoteEventMessage] (by simp [h]) rfl

/-- `request` answers nothing on the socket. -/
theorem request_frame (p : Peer) (procedure : String) (caller : Caller) :
    SocketFrame p (p.request procedure caller).1 0 := by
  refine (ensureOutboundSocket_frame p).trans ?_
  simp only [request]
  split
  · exact .of_socket rfl
  · next h => exact callAll_frame [.invoke remoteEventRPCRequest] (by simp [h]) rfl

/-- `connect` answers nothing on the socket. -/
theorem connect_frame (p : Peer) : SocketFrame p p.connect.1 0 := by
  unfold connect
  split
  · exact .refl p
  · exact (ensureOutboundSocket_frame p).trans (callAll_frame [.connect] rfl rfl)

/-- `applyNodeInfo` answers nothing on the socket. -/
theorem applyNodeInfo_frame (p : Peer) (nodeInfo : NodeInfo) (caller : Caller) :
    SocketFrame p (p.applyNodeInfo nodeInfo caller).1 0 := by
  unfold applyNodeInfo
  dsimp only
  split
  · split
    · exact .of_socket rfl
    · next h => exact callAll_frame [.transmit remoteMessageNodeInfoChanged] (by simp [h]) rfl
  · exact (request_frame _ _ _).after (.of_socket rfl)

/-- Settling a request answers nothing on the socket. -/
theorem settleRequest_frame (p : Peer) (index : Nat) (outcome : InvokeOutcome) (now : Nat) :
    SocketFrame p (p.settleRequest index outcome now).1 0 := by
  unfold settleRequest
  split
  · exact .refl p
  · dsimp only
    split
    · exact (disconnect_frame _ _).after (.of_socket rfl)
    all_goals exact .of_socket rfl

/-- A message frame: only the message loop may stop, when the listener throws. -/
theorem receiveMessage_frame (p : Peer) (packet : MessagePacket) (onMessage : Reaction) :
    SocketFrame p (p.receiveMessage packet onMessage).1 0 := by
  unfold receiveMessage
  split
  · next s hp =>
    split
    · next hg =>
      rcases hm : p.handleRawMessage packet onMessage with ⟨q, events, thrown⟩
      have hq : q.socket = p.socket := by
        have := congrArg (·.1.socket) hm
        unfold handleRawMessage at this
        split at this <;> exact this.symm
      refine .of_map (f := fun s => { s with messageConsumer := thrown.isNone }) (by simp [hq])
        fun s' hs' => ?_
      cases hp.symm.trans hs'
      exact ⟨rfl, List.prefix_refl _, fun h => h, fun _ => hg.1⟩
    · exact .refl p
  · exact .refl p

/-! ### Answering a request -/

/-- Whether the session answers a valid request itself: `status` always, `updateMyself` unless
its data failed validation and a listener on `failedPeerInfoUpdate` threw before
`request.error`, no other procedure. -/
def selfAnswers (p : Peer) (procedure : String) (data : Except JsError PeerInfo)
    (onUpdated : Reaction) : Bool :=
  if procedure = remoteRPCUpdatePeerInfo then
    data.isOk || (p.throwsOn .failedPeerInfoUpdate onUpdated).isNone
  else procedure = remoteRPCGetNodeInfo

/-- Whether a request handed to `_handleRawRPC` is answered: an invalid one with its error; a
valid one if the session answers it itself, or if it is not `updateMyself` and the application
answers it. A listener that throws in `_handleUpdatePeerInfo` keeps `requestReceived` from
being emitted, so the application never sees that request. -/
def rpcAnswered (p : Peer) (packet : RpcPacket) (onUpdated onRequest : Reaction) : Bool :=
  match validateRPCRequest packet with
  | .error _ => true
  | .ok (procedure, data) =>
    p.selfAnswers procedure data onUpdated ||
      (procedure != remoteRPCUpdatePeerInfo && p.listens .requestReceived && onRequest == .respond)

/-- The session answers a request itself exactly when `selfAnswers` says so. -/
theorem answerRequest_sent (p : Peer) (procedure : String) (data : Except JsError PeerInfo)
    (onUpdated : Reaction) :
    (p.answerRequest procedure data onUpdated).sent = p.selfAnswers procedure data onUpdated := by
  unfold answerRequest handleUpdatePeerInfo selfAnswers
  split_ifs with h₁ h₂
  · cases data with
    | error => simp only [Except.isOk, Except.toBool]; split <;> simp_all
    | ok => rfl
  · simp [h₂]
  · simp [h₂]

/-- An exception escapes only from `_handleUpdatePeerInfo`; there the request is answered
unless the exception came first. -/
theorem answerRequest_thrown (p : Peer) (procedure : String) (data : Except JsError PeerInfo)
    (onUpdated : Reaction) :
    ((p.answerRequest procedure data onUpdated).thrown.isSome → procedure = remoteRPCUpdatePeerInfo) ∧
      (procedure = remoteRPCUpdatePeerInfo →
        (p.answerRequest procedure data onUpdated).sent ∨
          (p.answerRequest procedure data onUpdated).thrown.isSome) := by
  unfold answerRequest handleUpdatePeerInfo
  split_ifs with h₁ h₂
  · refine ⟨fun _ => h₁, fun _ => ?_⟩
    cases data with
    | error => dsimp only; split <;> simp
    | ok => simp
  · simp [h₁]
  · simp [h₁]

/-- `_handleUpdatePeerInfo` answers on the socket once when it sends its answer, and otherwise not
at all. -/
theorem handleUpdatePeerInfo_frame {p : Peer} (hs : p.socket.isSome)
    (data : Except JsError PeerInfo) (onUpdated : Reaction) :
    SocketFrame p (p.handleUpdatePeerInfo data onUpdated).peer
      (if (p.handleUpdatePeerInfo data onUpdated).sent then 1 else 0) := by
  cases data with
  | error =>
    cases h : p.throwsOn .failedPeerInfoUpdate onUpdated with
    | none => simpa [handleUpdatePeerInfo, h, SocketCall.isAnswer] using callSocket_frame hs _
    | some => simpa [handleUpdatePeerInfo, h] using SocketFrame.refl p
  | ok =>
    simpa [handleUpdatePeerInfo, SocketCall.isAnswer] using
      (callSocket_frame (p := p.updatePeerInfo _) hs [.endRequest]).after
        (SocketFrame.of_socket (p := p) rfl)

/-- Answering a request itself answers on the socket once when the session answers it, and otherwise
not at all. -/
theorem answerRequest_frame {p : Peer} (hs : p.socket.isSome) (procedure : String)
    (data : Except JsError PeerInfo) (onUpdated : Reaction) :
    SocketFrame p (p.answerRequest procedure data onUpdated).peer
      (if p.selfAnswers procedure data onUpdated then 1 else 0) := by
  rw [← answerRequest_sent]
  by_cases h₁ : procedure = remoteRPCUpdatePeerInfo
  · simpa only [answerRequest, if_pos h₁] using handleUpdatePeerInfo_frame hs data onUpdated
  by_cases h₂ : procedure = remoteRPCGetNodeInfo
  · simpa [answerRequest, h₁, h₂, SocketCall.isAnswer] using callSocket_frame hs [.endRequest]
  · simpa [answerRequest, h₁, h₂] using SocketFrame.refl p

/-- Answering a request leaves the listeners. -/
@[simp] theorem answerRequest_listens (p : Peer) (procedure : String)
    (data : Except JsError PeerInfo) (onUpdated : Reaction) :
    (p.answerRequest procedure data onUpdated).peer.listens = p.listens := by
  have h := congrArg Control.listeners (answerRequest_control p procedure data onUpdated)
  funext name
  exact congrArg (·.contains name) h

/-- Counting a request leaves the listeners. -/
@[simp] theorem updateRPCCounter_listens (p : Peer) (procedure : String) :
    (p.updateRPCCounter procedure).listens = p.listens := rfl

/-- Counting a request leaves which requests the session answers itself. -/
@[simp] theorem updateRPCCounter_selfAnswers (p : Peer) (procedure : String) :
    (p.updateRPCCounter procedure).selfAnswers = p.selfAnswers := rfl

/-- The application answers a request only if the session did not: a second `end` throws. -/
theorem reactToRequest_frame {p : Peer} (hs : p.socket.isSome) (procedure : String) (sent : Bool)
    (onRequest : Reaction) :
    SocketFrame p (p.reactToRequest procedure sent onRequest).1
      (if !sent && p.listens .requestReceived && onRequest == .respond then 1 else 0) := by
  unfold reactToRequest
  split
  · next hl =>
    split
    · simpa using SocketFrame.refl p
    · split
      · next h => simpa [h, hl] using SocketFrame.refl p
      · next h => simpa [h, hl, SocketCall.isAnswer] using callSocket_frame hs [.endRequest]
    · simpa using SocketFrame.refl p
  · next hl => simpa [hl] using SocketFrame.refl p

/-- A request handed to `_handleRawRPC` is answered once if `rpcAnswered` says so, and not at
all otherwise. -/
theorem handleRawRPC_frame {p : Peer} (hs : p.socket.isSome) (packet : RpcPacket)
    (onUpdated onRequest : Reaction) :
    SocketFrame p (p.handleRawRPC packet onUpdated onRequest).peer
      (if p.rpcAnswered packet onUpdated onRequest then 1 else 0) := by
  unfold handleRawRPC rpcAnswered
  cases hv : validateRPCRequest packet with
  | error => simpa [SocketCall.isAnswer] using callSocket_frame hs _
  | ok r =>
    obtain ⟨procedure, data⟩ := r
    dsimp only
    have ha := answerRequest_frame (p := p.updateRPCCounter procedure) hs procedure data onUpdated
    have hsent := answerRequest_sent (p.updateRPCCounter procedure) procedure data onUpdated
    obtain ⟨hthrown, hupdate⟩ := answerRequest_thrown (p.updateRPCCounter procedure) procedure
      data onUpdated
    simp only [updateRPCCounter_selfAnswers] at ha hsent
    split
    · next h =>
      have hu := hthrown (by simp [h])
      refine (ha.after (SocketFrame.of_socket (p := p) rfl)).cast ?_
      simp [hu]
    · next h =>
      refine ((ha.add (reactToRequest_frame (ha.isSome hs) procedure _ onRequest)).after
        (SocketFrame.of_socket (p := p) rfl)).cast ?_
      rw [hsent, answerRequest_listens]
      by_cases hu : procedure = remoteRPCUpdatePeerInfo
      · have hs' := hupdate hu
        simp only [h, Option.isSome_none, Bool.false_eq_true, or_false, hsent] at hs'
        subst hu
        simp [hs']
      · by_cases hb : p.selfAnswers procedure data onUpdated <;> simp [hb, hu]

/-- Whether the socket of an outbound session still answers ping requests. -/
def answersPing (p : Peer) : Bool :=
  p.kind == .outbound && (p.socket.map (!·.calls.contains (.killProcedure eventPing))).getD false

/-- A ping request is answered once while the outbound socket's `ping` procedure runs. -/
theorem handlePingRequest_frame (p : Peer) :
    SocketFrame p p.handlePingRequest (if p.answersPing then 1 else 0) := by
  have hg : ∀ s : Socket, s.Grows (s.answerPing p.kind) := fun s => by
    unfold Socket.answerPing; split
    · exact s.grows_callAll _
    · exact .refl s
  refine ⟨fun s hs => ⟨_, by simp [handlePingRequest, hs], hg s⟩, ?_⟩
  cases hs : p.socket with
  | none => simp [handlePingRequest, answers, answersPing, hs]
  | some s =>
    simp only [handlePingRequest, answers, answersPing, hs, Socket.answerPing, Option.map_some',
      Option.getD_some]
    split_ifs <;> simp_all [SocketCall.isAnswer]

/-- The answers a step makes: one for a request frame the session handles and that
`rpcAnswered` answers, one for a ping request the outbound socket answers; none for any other
step. -/
def stepAnswers (p : Peer) : SessionStep → Nat
  | .rpcFrame packet onUpdated onRequest =>
    if p.handlesRPC && p.rpcAnswered packet onUpdated onRequest then 1 else 0
  | .pingRequest => if p.answersPing then 1 else 0
  | _ => 0

/-- A step answers at most once, and only a request frame or a ping does. -/
theorem stepAnswers_le (p : Peer) (s : SessionStep) :
    p.stepAnswers s ≤ if s.isRequest then 1 else 0 := by
  unfold stepAnswers
  split
  case h_3 => exact Nat.zero_le _
  all_goals simp only [SessionStep.isRequest, if_true]; split <;> omega

/-- A request frame: only the request loop may stop, when a handler throws. -/
theorem receiveRPC_frame (p : Peer) (packet : RpcPacket) (onUpdated onRequest : Reaction) :
    SocketFrame p (p.receiveRPC packet onUpdated onRequest).1
      (p.stepAnswers (.rpcFrame packet onUpdated onRequest)) := by
  unfold receiveRPC stepAnswers handlesRPC
  split
  · next s hp =>
    have hs : p.socket.isSome := by simp [hp]
    split
    · next hg =>
      have h := handleRawRPC_frame hs packet onUpdated onRequest
      obtain ⟨s', hs', hg'⟩ := h.keeps s hp
      refine ⟨fun _ hp' => ?_, ?_⟩
      · cases hp.symm.trans hp'
        exact ⟨{ s' with rpcConsumer := (p.handleRawRPC packet onUpdated onRequest).thrown.isNone },
          by simp [hs'], hg'.calls, fun _ => hg.1, hg'.message⟩
      · simpa [answers, hs', hp, hg] using h.answered
    · next hg => simpa [hp, hg] using SocketFrame.refl p
  · next hp => simpa [hp] using SocketFrame.refl p

/-! ### Every step -/

/-- What each step does to the socket: a socket the session has is kept and grows, and only a
request frame or a ping request answers anything. -/
theorem step_frame (p : Peer) (s : SessionStep) : SocketFrame p (p.step s).1 (p.stepAnswers s) := by
  cases s with
  | applyPenalty => exact applyPenalty_frame _ _
  | rateTick => exact rateTick_frame _
  | productivityTick => simp only [step, productivityTick]; split <;> exact .of_socket rfl
  | request => exact request_frame _ _ _
  | settle => exact settleRequest_frame _ _ _ _
  | statusResponse data => cases data <;> exact .of_socket rfl
  | send => exact send_frame _
  | connect => exact connect_frame _
  | applyNodeInfo => exact applyNodeInfo_frame _ _ _
  | disconnect => exact disconnect_frame _ _
  | pingTimer =>
    simp only [step, sendPing]
    split
    · exact callAll_frame [.invoke eventPing] rfl rfl
    · exact .refl _
  | pingSettle => simp only [step, settlePing]; split <;> exact .of_socket rfl
  | socketOpen =>
    have ho :
        SocketFrame p { p with socket := p.socket.map fun s => { s with isOpen := true } } 0 :=
      .of_map rfl fun s _ => ⟨rfl, s.grows_setOpen true⟩
    simp only [step, handleSocketOpen]
    split
    · exact ho
    · split
      · exact ho.trans ((request_frame _ _ _).trans (request_frame _ _ _))
      · exact ho
  | socketClose =>
    simp only [step, handleSocketClose]
    split <;> exact .of_map rfl fun s _ => ⟨rfl, s.grows_setOpen false⟩
  | rpcFrame => exact receiveRPC_frame _ _ _ _
  | messageFrame => exact receiveMessage_frame _ _ _
  | wsMessage | socketError => exact .of_socket rfl
  | pingRequest => exact handlePingRequest_frame p

/-- Over every run, a socket the session has is kept and grows. -/
theorem run_frame (p : Peer) (steps : List SessionStep) :
    ∀ s, p.socket = some s → ∃ s', (p.run steps).1.socket = some s' ∧ s.Grows s' := by
  induction steps generalizing p with
  | nil => exact fun s h => ⟨s, h, .refl s⟩
  | cons step rest ih =>
    intro s hs
    obtain ⟨s', hs', hg⟩ := (step_frame p step).keeps s hs
    obtain ⟨s'', hs'', hg'⟩ := ih _ s' hs'
    exact ⟨s'', hs'', hg.trans hg'⟩

/-- No step drops a socket. -/
theorem step_socket_isSome (p : Peer) (s : SessionStep) (h : p.socket.isSome) :
    (p.step s).1.socket.isSome :=
  (step_frame p s).isSome h

/-! ### A session keeps its socket -/

/-- Whether `send` reaches a socket: an outbound session makes one if it has none. -/
def canSend (p : Peer) : Bool := p.kind == .outbound || p.socket.isSome

/-- `send` throws exactly when the session cannot send, and then changes nothing. -/
theorem send_eq_of_canSend_false {p : Peer} (h : p.canSend = false) :
    p.send = (p, .error socketDoesNotExist) := by
  have hk : p.kind ≠ .outbound := fun hk => by simp [canSend, hk] at h
  have hs : p.socket = none := by cases hs : p.socket <;> simp_all [canSend]
  simp [send, ensureOutboundSocket, hk, hs]

/-- A session that can send has a socket once one is ensured. -/
theorem ensureOutboundSocket_isSome_of_canSend {p : Peer} (h : p.canSend = true) :
    p.ensureOutboundSocket.socket.isSome := by
  simp only [canSend, Bool.or_eq_true, beq_iff_eq] at h
  unfold ensureOutboundSocket
  split
  · rfl
  · next hn =>
    exact h.elim (fun hk => Option.isSome_iff_ne_none.2 fun hs => hn ⟨hk, hs⟩) fun hs => hs

/-- `send` on a session that can send throws nothing. -/
theorem send_ok_of_canSend {p : Peer} (h : p.canSend = true) : p.send.2 = .ok () := by
  obtain ⟨s, hs⟩ := Option.isSome_iff_exists.1 (ensureOutboundSocket_isSome_of_canSend h)
  simp [send, hs]

/-- Sending keeps whether the session can send. -/
@[simp] theorem send_canSend (p : Peer) : p.send.1.canSend = p.canSend := by
  cases h : p.canSend
  · rw [send_eq_of_canSend_false h, h]
  · obtain ⟨s, hs⟩ := Option.isSome_iff_exists.1 (ensureOutboundSocket_isSome_of_canSend h)
    simp [send, hs, canSend]

/-- No step takes away that a session can send. -/
theorem step_canSend {p : Peer} (h : p.canSend) (s : SessionStep) : (p.step s).1.canSend := by
  have hk : (p.step s).1.kind = p.kind := congrArg PeerIdentity.kind (step_ident p s)
  simp only [canSend, Bool.or_eq_true, beq_iff_eq, hk] at h ⊢
  exact h.imp (fun hk => hk) (step_socket_isSome p s)

/-- A session that can send can send after every run. -/
theorem run_canSend_of_canSend {p : Peer} (h : p.canSend) (steps : List SessionStep) :
    (p.run steps).1.canSend := by
  induction steps generalizing p with
  | nil => exact h
  | cons s rest ih => exact ih (step_canSend h s)

/-- Every session the pool creates can send, over every run of its steps: an inbound session is
given its socket and no step drops a socket, and an outbound one makes one on demand. So `send`
never reports `failedToSendMessage` for a session the pool created. -/
theorem run_canSend {p : Peer}
    (hc : (∃ peerInfo socket peerConfig now, createInbound peerInfo socket peerConfig now = .ok p) ∨
      ∃ peerInfo peerConfig now, createOutbound peerInfo peerConfig now = .ok p)
    (steps : List SessionStep) : (p.run steps).1.canSend := by
  refine run_canSend_of_canSend ?_ steps
  rcases hc with ⟨_, _, _, _, hp⟩ | ⟨_, _, _, hp⟩ <;>
    obtain ⟨_, rfl⟩ := create_eq_init hp <;> rfl

/-- A new inbound session whose socket closes, which is then disconnected and asked to send. -/
theorem run_canSend_inbound :
    createInbound { ipAddress := "1.2.3.4", wsPort := 5000 } {} ⟨1000, 100, 10⟩ 0 =
        .ok (init .inbound { ipAddress := "1.2.3.4", wsPort := 5000 } ⟨1000, 100, 10⟩ (some {})
          .scheduled 0 "1.2.3.4:5000") ∧
      ((init .inbound { ipAddress := "1.2.3.4", wsPort := 5000 } ⟨1000, 100, 10⟩ (some {})
          .scheduled 0 "1.2.3.4:5000").run [.socketClose intentionalDisconnectStatusCode,
            .disconnect intentionalDisconnectStatusCode, .send]).1.canSend :=
  have h : createInbound { ipAddress := "1.2.3.4", wsPort := 5000 } {} ⟨1000, 100, 10⟩ 0 =
      .ok (init .inbound { ipAddress := "1.2.3.4", wsPort := 5000 } ⟨1000, 100, 10⟩ (some {})
        .scheduled 0 "1.2.3.4:5000") := rfl
  ⟨h, run_canSend (.inl ⟨_, _, _, _, h⟩) _⟩

/-! ### Each request is answered at most once -/

/-- A new inbound session, its socket attached, whose `requestReceived` events reach the
application. -/
def newInbound : Peer :=
  { init .inbound { ipAddress := "1.2.3.4", wsPort := 5000 } ⟨1000, 100, 10⟩ (some {})
      .scheduled 0 "1.2.3.4:5000" with listeners := [.requestReceived] }

/-- A `status` request. -/
def statusRequest : RpcPacket :=
  .request remoteRPCGetNodeInfo (.ok { ipAddress := "1.2.3.4", wsPort := 5000 })

/- The session answers the request once; the listeners' second `end` throws instead. -/
example : (newInbound.step (.rpcFrame statusRequest .returns .respond)).1.answers = 1 := by
  decide

/- An `updateMyself` with invalid data, on a session whose `failedPeerInfoUpdate` listener
throws: the exception comes before `request.error`, and the request is never answered. -/
example :
    ({ newInbound with listeners := [.failedPeerInfoUpdate] }.step
      (.rpcFrame (.request remoteRPCUpdatePeerInfo (.error (plainError "Invalid")))
        (.throws (plainError "listener")) .returns)).1.answers = 0 := by
  decide

/-- Once a session's request loop has stopped, because a handler threw or `disconnect` killed
its procedure, it never runs again: over every later run, whatever the steps, no request frame
reaches `_handleRawRPC`. The same holds of the message loop and `_handleRawMessage`. -/
theorem run_loops_stay_stopped (p : Peer) (hs : p.socket.isSome) (steps : List SessionStep) :
    (p.handlesRPC = false → (p.run steps).1.handlesRPC = false) ∧
      (p.handlesMessage = false → (p.run steps).1.handlesMessage = false) := by
  obtain ⟨s, hp⟩ := Option.isSome_iff_exists.1 hs
  obtain ⟨s', hq, hg⟩ := run_frame p steps s hp
  simp only [handlesRPC, handlesMessage, hp, hq, decide_eq_false_iff_not, not_and, not_not]
  exact ⟨fun h hc => hg.calls.subset (h (hg.rpc hc)),
    fun h hc => hg.calls.subset (h (hg.message hc))⟩

/-- `newInbound` after its listeners answered a `status` request a second time: the request loop
has stopped, and a later `status` request and a disconnect leave it stopped. -/
theorem run_loops_stay_stopped_status :
    (newInbound.step (.rpcFrame statusRequest .returns .respond)).1.socket.isSome ∧
      (newInbound.step (.rpcFrame statusRequest .returns .respond)).1.handlesRPC = false ∧
      ((newInbound.step (.rpcFrame statusRequest .returns .respond)).1.run
        [.rpcFrame statusRequest .returns .returns,
          .disconnect intentionalDisconnectStatusCode]).1.handlesRPC = false :=
  have hs : (newInbound.step (.rpcFrame statusRequest .returns .respond)).1.socket.isSome := by
    decide
  have hr : (newInbound.step (.rpcFrame statusRequest .returns .respond)).1.handlesRPC = false := by
    decide
  ⟨hs, hr, (run_loops_stay_stopped _ hs _).1 hr⟩

end Peer

end Lp2p
