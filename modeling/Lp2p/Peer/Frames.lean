import Lp2p.Peer.Base

/-!
# Incoming frames

Each socket of a session has two `for await` loops (`src/peer/inbound.js:94–104`,
`src/unnamed/part_003:161–172`): one passes every request of the `rpc-request` procedure
stream to `_handleRawRPC`, the other every packet of the `remote-message` receiver stream to
`_handleRawMessage` (`src/peer/base.js:146–213`). Neither loop catches: an exception thrown
while one frame is handled ends the loop, and the frames after it on that stream are never
handled.

A handler throws when a listener it runs throws. The pool's listeners on `requestReceived`,
`messageReceived` and `updatedPeerInfo` re-emit the event to the application's listeners, so
what those do is part of each frame: they return, answer the request with `end`, or throw.
The data of a request is kept only as the outcome `validatePeerInfo` gives on it
(`src/unnamed/part_001:112–121`), which is all `_handleUpdatePeerInfo` reads.
-/

namespace Lp2p

open Lp2p.Js

/-- A request on the `rpc-request` stream as `validateRPCRequest` sees it: falsy, without a
string `procedure`, or a procedure with the outcome of validating its data as peer info. -/
inductive RpcPacket
  | falsy
  | badProcedure
  | request (procedure : String) (peerInfo : Except JsError PeerInfo)
  deriving DecidableEq, Repr

/-- A packet on the `remote-message` stream as `validateProtocolMessage` sees it. -/
inductive MessagePacket
  | falsy
  | badEvent
  | message (event : String)
  deriving DecidableEq, Repr

/-- `validateRPCRequest`, `src/unnamed/part_001:146–157`. -/
def validateRPCRequest : RpcPacket → Except JsError (String × Except JsError PeerInfo)
  | .falsy => .error (invalidRPCRequestError "Invalid request")
  | .badProcedure => .error (invalidRPCRequestError "Request procedure name is not a string")
  | .request procedure data => .ok (procedure, data)

/-- `validateProtocolMessage`, `src/unnamed/part_001:159–170`. -/
def validateProtocolMessage : MessagePacket → Except JsError String
  | .falsy => .error (invalidProtocolMessageError "Invalid message")
  | .badEvent => .error (invalidProtocolMessageError "Protocol message is not a string")
  | .message event => .ok event

/-- What the application's listeners do with an event the pool re-emits to them: return,
answer the request they were given with `end` and return, or throw. -/
inductive Reaction
  | returns
  | respond
  | throws (error : JsError)
  deriving DecidableEq, Repr

/-- The error `enforceResponseNotAlreadySent` throws, `src/unnamed/part_000:28–36`. -/
def responseAlreadySent (procedure : String) : JsError :=
  rpcResponseAlreadySentError
    ("A response has already been sent for the request procedure <<" ++ procedure ++ ">>")

/-- Whether the pool's listener only re-emits an event: all but `banPeer`, which also arms
the unban timer (`src/peer_pool.js:192–201`), and the close events, which also remove the
session (`src/peer_pool.js:140–164`). -/
def PeerEvent.isRelay : PeerEvent → Bool
  | .banPeer _ | .closeInbound _ | .closeOutbound _ => false
  | _ => true

namespace Peer

/-- Make calls on the session's socket, if it has one. -/
def callSocket (p : Peer) (cs : List SocketCall) : Peer :=
  { p with socket := p.socket.map (·.callAll cs) }

/-- Whether the pool's listener for an event is bound on the session. -/
def listens (p : Peer) (name : PeerEventName) : Bool := p.listeners.contains name

/-- `_updateRPCCounter`, `src/peer/base.js:480–484`. -/
def updateRPCCounter (p : Peer) (procedure : String) : Peer :=
  { p with rpcCounter := p.rpcCounter.set procedure ((p.rpcCounter.get? procedure).getD 0 + 1) }

/-- `_updateMessageCounter`, `src/peer/base.js:492–496`. -/
def updateMessageCounter (p : Peer) (event : String) : Peer :=
  { p with messageCounter :=
    p.messageCounter.set event ((p.messageCounter.get? event).getD 0 + 1) }

/-- `(rates.get(key) || 0) * RATE_NORMALIZATION_FACTOR`. -/
def normalisedRate (rates : JsMap String JsNumber) (key : String) : JsNumber :=
  (((rates.get? key).filter JsNumber.truthy).getD (.finite 0)).mul rateNormalizationFactor

/-- `_getRPCRate`, `src/peer/base.js:486–490`. -/
def getRPCRate (p : Peer) (procedure : String) : JsNumber := normalisedRate p.rpcRates procedure

/-- `_getMessageRate`, `src/peer/base.js:498–502`. -/
def getMessageRate (p : Peer) (event : String) : JsNumber :=
  normalisedRate p.messageRates event

/-- `updatePeerInfo`, `src/peer/base.js:252–259`: the address fields are kept. -/
def updatePeerInfo (p : Peer) (newPeerInfo : PeerInfo) : Peer :=
  { p with peerInfo := { newPeerInfo with ipAddress := p.ipAddress, wsPort := p.wsPort } }

/-- The rest of `fetchStatus` once its `status` request returned, `src/peer/base.js:428–442`:
`_updateFromProtocolPeerInfo` validates the response data with the session's own `ip`
(`src/peer/base.js:445–452`). On success the peer info is updated and `updatedPeerInfo`
emitted; on failure `failedPeerInfoUpdate` is emitted and the session is left as it was. -/
def fetchStatusResponse (p : Peer) (data : Except JsError PeerInfo) : Peer × List PeerEvent :=
  match data with
  | .error error => (p, [.failedPeerInfoUpdate error])
  | .ok newPeerInfo =>
    let p := p.updatePeerInfo newPeerInfo
    (p, [.updatedPeerInfo p.peerInfo])

/-- What handling a frame leaves: the session, the events emitted, whether the request has
been answered, and the exception that escaped, if any. -/
structure Handled where
  peer : Peer
  events : List PeerEvent
  sent : Bool
  thrown : Option JsError

/-- The exception the application's listeners throw on an event the pool re-emits, if the
pool's listener `name` is bound and the reaction is to throw. -/
def throwsOn (p : Peer) (name : PeerEventName) : Reaction → Option JsError
  | .throws error => if p.listens name then some error else none
  | _ => none

/-- `_handleUpdatePeerInfo`, `src/peer/base.js:454–466`; `onUpdated` is what the application's
listeners do with the event it emits. On valid data update the peer info, answer, and emit
`updatedPeerInfo`. On invalid data emit `failedPeerInfoUpdate`, then answer with the error: a
listener that throws on `failedPeerInfoUpdate` leaves the request unanswered. -/
def handleUpdatePeerInfo (p : Peer) (data : Except JsError PeerInfo) (onUpdated : Reaction) :
    Handled :=
  match data with
  | .error error =>
    match p.throwsOn .failedPeerInfoUpdate onUpdated with
    | some thrown => ⟨p, [.failedPeerInfoUpdate error], false, some thrown⟩
    | none => ⟨p.callSocket [.errorRequest], [.failedPeerInfoUpdate error], true, none⟩
  | .ok newPeerInfo =>
    let p := (p.updatePeerInfo newPeerInfo).callSocket [.endRequest]
    ⟨p, [.updatedPeerInfo p.peerInfo], true, p.throwsOn .updatedPeerInfo onUpdated⟩

/-- The application's listeners on `requestReceived`, reached through the pool's: an `end`
on a request already answered throws `ResponseAlreadySentError`. -/
def reactToRequest (p : Peer) (procedure : String) (sent : Bool) (onRequest : Reaction) :
    Peer × Option JsError :=
  if p.listens .requestReceived then
    match onRequest with
    | .returns => (p, none)
    | .respond =>
      if sent then (p, some (responseAlreadySent procedure)) else (p.callSocket [.endRequest], none)
    | .throws error => (p, some error)
  else (p, none)

/-- The answers `_handleRawRPC` gives itself, `src/peer/base.js:175–179`: `updateMyself` goes
to `_handleUpdatePeerInfo`, `status` to `_handleGetNodeInfo`, which ends the request. -/
def answerRequest (p : Peer) (procedure : String) (data : Except JsError PeerInfo)
    (onUpdated : Reaction) : Handled :=
  if procedure = remoteRPCUpdatePeerInfo then p.handleUpdatePeerInfo data onUpdated
  else if procedure = remoteRPCGetNodeInfo then ⟨p.callSocket [.endRequest], [], true, none⟩
  else ⟨p, [], false, none⟩

/-- `_handleRawRPC`, `src/peer/base.js:146–183`: an invalid request is answered with the
error and reported; a valid one is counted, answered if the session answers it itself, and
emitted as `requestReceived`. -/
def handleRawRPC (p : Peer) (packet : RpcPacket) (onUpdated onRequest : Reaction) : Handled :=
  match validateRPCRequest packet with
  | .error _ => ⟨p.callSocket [.errorRequest], [.invalidRequestReceived p.id], true, none⟩
  | .ok (procedure, data) =>
    let p := p.updateRPCCounter procedure
    let rate := p.getRPCRate procedure
    let h := p.answerRequest procedure data onUpdated
    match h.thrown with
    | some _ => h
    | none =>
      let (q, thrown) := h.peer.reactToRequest procedure h.sent onRequest
      ⟨q, h.events ++ [.requestReceived procedure rate],
        h.sent || (h.peer.listens .requestReceived && onRequest == .respond), thrown⟩

/-- `_handleRawMessage`, `src/peer/base.js:189–212`: an invalid packet is reported; a valid
one is counted and `messageReceived` is emitted, whose listeners may throw. -/
def handleRawMessage (p : Peer) (packet : MessagePacket) (onMessage : Reaction) :
    Peer × List PeerEvent × Option JsError :=
  match validateProtocolMessage packet with
  | .error _ => (p, [.invalidMessageReceived p.id], none)
  | .ok event =>
    let p := p.updateMessageCounter event
    (p, [.messageReceived event (p.getMessageRate event)], p.throwsOn .messageReceived onMessage)

/-- A frame reaches `_handleRawRPC` while the socket's `rpc-request` loop runs and the stream
has not been killed; an exception ends the loop. -/
def receiveRPC (p : Peer) (packet : RpcPacket) (onUpdated onRequest : Reaction) :
    Peer × List PeerEvent :=
  match p.socket with
  | some s =>
    if s.rpcConsumer ∧ .killProcedure remoteEventRPCRequest ∉ s.calls then
      let h := p.handleRawRPC packet onUpdated onRequest
      ({ h.peer with
          socket := h.peer.socket.map fun s => { s with rpcConsumer := h.thrown.isNone } },
        h.events)
    else (p, [])
  | none => (p, [])

/-- A packet reaches `_handleRawMessage` while the socket's `remote-message` loop runs and the
stream has not been killed; an exception ends the loop. -/
def receiveMessage (p : Peer) (packet : MessagePacket) (onMessage : Reaction) :
    Peer × List PeerEvent :=
  match p.socket with
  | some s =>
    if s.messageConsumer ∧ .killReceiver remoteEventMessage ∉ s.calls then
      let (q, events, thrown) := p.handleRawMessage packet onMessage
      ({ q with socket := q.socket.map fun s => { s with messageConsumer := thrown.isNone } },
        events)
    else (p, [])
  | none => (p, [])

/-! ### Frames are traffic

Handling a frame changes the peer info, the counters and the socket, never a control field. -/

/-- Calls on the socket leave the control fields. -/
@[simp] theorem callSocket_control (p : Peer) (cs : List SocketCall) :
    (p.callSocket cs).control = p.control := rfl

/-- Counting a request leaves the control fields. -/
@[simp] theorem updateRPCCounter_control (p : Peer) (procedure : String) :
    (p.updateRPCCounter procedure).control = p.control := rfl

/-- Counting a message leaves the control fields. -/
@[simp] theorem updateMessageCounter_control (p : Peer) (event : String) :
    (p.updateMessageCounter event).control = p.control := rfl

/-- Updating the peer info leaves the control fields. -/
@[simp] theorem updatePeerInfo_control (p : Peer) (newPeerInfo : PeerInfo) :
    (p.updatePeerInfo newPeerInfo).control = p.control := rfl

/-- A status response leaves the control fields. -/
theorem fetchStatusResponse_control (p : Peer) (data : Except JsError PeerInfo) :
    (p.fetchStatusResponse data).1.control = p.control := by
  cases data <;> rfl

/-- `_handleUpdatePeerInfo` leaves the control fields. -/
theorem handleUpdatePeerInfo_control (p : Peer) (data : Except JsError PeerInfo)
    (onUpdated : Reaction) : (p.handleUpdatePeerInfo data onUpdated).peer.control = p.control := by
  unfold handleUpdatePeerInfo
  split
  · split <;> rfl
  · rfl

/-- Answering a request itself leaves the control fields. -/
theorem answerRequest_control (p : Peer) (procedure : String) (data : Except JsError PeerInfo)
    (onUpdated : Reaction) :
    (p.answerRequest procedure data onUpdated).peer.control = p.control := by
  unfold answerRequest
  split_ifs
  · exact handleUpdatePeerInfo_control p data onUpdated
  all_goals rfl

/-- The application's answer to a request leaves the control fields. -/
theorem reactToRequest_control (p : Peer) (procedure : String) (sent : Bool)
    (onRequest : Reaction) : (p.reactToRequest procedure sent onRequest).1.control = p.control := by
  unfold reactToRequest
  split
  · split
    · rfl
    · split <;> rfl
    · rfl
  · rfl

/-- `_handleRawRPC` leaves the control fields. -/
theorem handleRawRPC_control (p : Peer) (packet : RpcPacket) (onUpdated onRequest : Reaction) :
    (p.handleRawRPC packet onUpdated onRequest).peer.control = p.control := by
  unfold handleRawRPC
  split
  · rfl
  · dsimp only
    split
    · exact answerRequest_control _ _ _ onUpdated
    · exact (reactToRequest_control _ _ _ _).trans (answerRequest_control _ _ _ onUpdated)

/-- A request frame leaves the control fields. -/
theorem receiveRPC_control (p : Peer) (packet : RpcPacket) (onUpdated onRequest : Reaction) :
    (p.receiveRPC packet onUpdated onRequest).1.control = p.control := by
  simp only [receiveRPC]
  split
  · split
    · exact handleRawRPC_control p packet onUpdated onRequest
    · rfl
  · rfl

/-- A message frame leaves the control fields. -/
theorem receiveMessage_control (p : Peer) (packet : MessagePacket) (onMessage : Reaction) :
    (p.receiveMessage packet onMessage).1.control = p.control := by
  simp only [receiveMessage, handleRawMessage]
  repeat' split
  all_goals rfl

/-- Answering a request itself emits only events the pool relays. -/
theorem answerRequest_relay (p : Peer) (procedure : String) (data : Except JsError PeerInfo)
    (onUpdated : Reaction) :
    ∀ e ∈ (p.answerRequest procedure data onUpdated).events, e.isRelay := by
  unfold answerRequest handleUpdatePeerInfo
  split_ifs
  · split
    · split <;> simp [PeerEvent.isRelay]
    · simp [PeerEvent.isRelay]
  all_goals simp

/-- Handling a request emits only events the pool relays. -/
theorem receiveRPC_relay (p : Peer) (packet : RpcPacket) (onUpdated onRequest : Reaction) :
    ∀ e ∈ (p.receiveRPC packet onUpdated onRequest).2, e.isRelay := by
  unfold receiveRPC handleRawRPC
  split
  · split
    · split
      · simp [PeerEvent.isRelay]
      · dsimp only
        split
        · exact answerRequest_relay _ _ _ onUpdated
        · intro e he
          rcases List.mem_append.1 he with he | he
          · exact answerRequest_relay _ _ _ onUpdated e he
          · simp only [List.mem_singleton] at he; simp [he, PeerEvent.isRelay]
    · simp
  · simp

/-- Handling a message emits only events the pool relays. -/
theorem receiveMessage_relay (p : Peer) (packet : MessagePacket) (onMessage : Reaction) :
    ∀ e ∈ (p.receiveMessage packet onMessage).2, e.isRelay := by
  simp only [receiveMessage, handleRawMessage]
  repeat' split
  all_goals simp_all [PeerEvent.isRelay]

end Peer

end Lp2p
