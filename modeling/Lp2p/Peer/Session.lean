import Lp2p.Peer.Frames

/-!
# Runs of a session

Everything that can happen to one session: the calls the pool or an application makes on
it, the firings of its timers, and what its transport reports. `Peer.step` runs one of them
and `Peer.run` a sequence. The environment is not constrained beyond what the session's state
allows: a settled request must be in flight and a ping fires only when its timer is
scheduled, but a socket event can arrive at any time, which covers every order the transport
can deliver them in. For the same reason the rest of `fetchStatus`, which runs once its
`status` request has returned, is a step of its own that can come at any time.
-/

namespace Lp2p

open Lp2p.Js

/-- One thing that happens to a session. -/
inductive SessionStep
  | applyPenalty (penalty : Int)
  | rateTick
  | productivityTick (now : Nat)
  | wsMessage
  | request (procedure : String)
  | settle (index : Nat) (outcome : InvokeOutcome) (now : Nat)
  | statusResponse (data : Except JsError PeerInfo)
  | send
  | connect
  | applyNodeInfo (nodeInfo : NodeInfo)
  | disconnect (code : DisconnectCode)
  | pingTimer (now : Nat)
  | pingSettle (now : Nat)
  | socketOpen
  | socketClose (code : DisconnectCode)
  | socketError
  | pingRequest
  | rpcFrame (packet : RpcPacket) (onUpdated onRequest : Reaction)
  | messageFrame (packet : MessagePacket) (onMessage : Reaction)
  deriving DecidableEq, Repr

/-- The steps that are traffic on the session. -/
def SessionStep.IsTraffic : SessionStep → Prop
  | .wsMessage | .send | .connect | .socketError | .pingRequest | .rpcFrame .. | .messageFrame .. =>
    True
  | _ => False

/-- The steps that keep a session's core: all but penalties, settled requests and
`disconnect`. -/
def SessionStep.KeepsCore : SessionStep → Prop
  | .applyPenalty _ | .rateTick | .settle .. | .disconnect _ => False
  | _ => True

namespace Peer

/-- One step of a session: its new state and the events it emitted. A call that throws
leaves the state it reached; `applyNodeInfo` is the pool's call, awaited by
`_applyNodeInfoOnPeer`. -/
def step (p : Peer) : SessionStep → Peer × List PeerEvent
  | .applyPenalty penalty => p.applyPenalty penalty
  | .rateTick => p.rateTick
  | .productivityTick now => (p.productivityTick now, [])
  | .wsMessage => (p.handleWSMessage, [])
  | .request procedure => ((p.request procedure .application).1, [])
  | .settle index outcome now => ((p.settleRequest index outcome now).1, [])
  | .statusResponse data => p.fetchStatusResponse data
  | .send => (p.send.1, [])
  | .connect => (p.connect.1, [])
  | .applyNodeInfo nodeInfo => ((p.applyNodeInfo nodeInfo .pushNodeInfo).1, [])
  | .disconnect code => (p.disconnect code, [])
  | .pingTimer now => (p.sendPing now, [])
  | .pingSettle now => (p.settlePing now, [])
  | .socketOpen => p.handleSocketOpen
  | .socketClose code => p.handleSocketClose code
  | .socketError => (p, p.handleSocketError)
  | .pingRequest => (p.handlePingRequest, [])
  | .rpcFrame packet onUpdated onRequest => p.receiveRPC packet onUpdated onRequest
  | .messageFrame packet onMessage => p.receiveMessage packet onMessage

/-- A sequence of steps: the final state and every event emitted, in order. -/
def run (p : Peer) : List SessionStep → Peer × List PeerEvent
  | [] => (p, [])
  | s :: rest =>
    let (p', emitted) := p.step s
    let (p'', later) := p'.run rest
    (p'', emitted ++ later)

/-- An empty run leaves the session and emits nothing. -/
@[simp] theorem run_nil (p : Peer) : p.run [] = (p, []) := rfl

/-- A run is its first step, then the rest from the state it leaves. -/
@[simp] theorem run_cons (p : Peer) (s : SessionStep) (rest : List SessionStep) :
    p.run (s :: rest) = ((p.step s).1.run rest |>.1, (p.step s).2 ++ ((p.step s).1.run rest).2) :=
  rfl

/-- `disconnect` as one record update: the session ends inactive, the intervals and the
socket's `disconnect` only on the first call, the stream closes on every call. -/
theorem disconnect_eq (p : Peer) (code : DisconnectCode) :
    p.disconnect code =
      { p with active := false,
               counterResetInterval := p.counterResetInterval && !p.active,
               productivityResetInterval := p.productivityResetInterval && !p.active,
               socket := (if p.active then p.socket.map (·.callAll [.disconnect code])
                 else p.socket).map (·.callAll (unbindSocketCalls p.kind)) } := by
  cases h : p.active <;> simp [disconnect, disconnectBase, h, kind]

/-! ### Traffic

Sending, connecting, counting a WebSocket message, a socket error and the frames change no
control field of the session. -/

/-- Creating an outbound socket leaves the control fields. -/
@[simp] theorem ensureOutboundSocket_control (p : Peer) :
    p.ensureOutboundSocket.control = p.control := by
  unfold ensureOutboundSocket; split <;> rfl

/-- `send` leaves the control fields. -/
theorem send_control (p : Peer) : p.send.1.control = p.control := by
  simp only [send]; split <;> exact ensureOutboundSocket_control p

/-- `connect` leaves the control fields. -/
theorem connect_control (p : Peer) : p.connect.1.control = p.control := by
  simp only [connect]; split
  · rfl
  · exact ensureOutboundSocket_control p

/-! ### The core of a session

Identity, lifecycle flags, reputation and listeners change only on a penalty, a settled
request that timed out, and `disconnect`. -/

/-- The fields of a session that only penalties and `disconnect` change. -/
structure Core where
  ident : PeerIdentity
  active : Bool
  counterResetInterval : Bool
  productivityResetInterval : Bool
  reputation : Int
  listeners : List PeerEventName

/-- The core of a session. -/
def core (p : Peer) : Core :=
  ⟨p.ident, p.active, p.counterResetInterval, p.productivityResetInterval, p.reputation,
    p.listeners⟩

/-- Sessions with the same control fields have the same core. -/
theorem core_eq_of_control {p q : Peer} (h : p.control = q.control) : p.core = q.core := by
  simp only [control, Control.mk.injEq] at h
  simp only [core, h]

/-- Creating an outbound socket leaves the core. -/
@[simp] theorem ensureOutboundSocket_core (p : Peer) : p.ensureOutboundSocket.core = p.core :=
  core_eq_of_control (ensureOutboundSocket_control p)

/-- `request` leaves the core. -/
theorem request_core (p : Peer) (procedure : String) (caller : Caller) :
    (p.request procedure caller).1.core = p.core := by
  simp only [request]; split <;> exact ensureOutboundSocket_core p

/-- A run of two parts is the second part run from the state the first leaves. -/
theorem run_append (p : Peer) (xs ys : List SessionStep) :
    p.run (xs ++ ys) = ((p.run xs).1.run ys |>.1, (p.run xs).2 ++ ((p.run xs).1.run ys).2) := by
  induction xs generalizing p with
  | nil => simp
  | cons s xs ih => simp [ih, List.append_assoc]

/-- A traffic step changes no control field. -/
theorem step_control_of_traffic (p : Peer) (s : SessionStep) (hs : s.IsTraffic) :
    (p.step s).1.control = p.control := by
  cases s <;> simp only [SessionStep.IsTraffic] at hs
  case wsMessage | socketError | pingRequest => rfl
  case send => exact send_control p
  case connect => exact connect_control p
  case rpcFrame => exact receiveRPC_control p _ _ _
  case messageFrame => exact receiveMessage_control p _ _

/-- A step other than a penalty, a settled request or `disconnect` keeps the core. -/
theorem step_core (p : Peer) (s : SessionStep) (hs : s.KeepsCore) :
    (p.step s).1.core = p.core := by
  cases s <;> simp only [SessionStep.KeepsCore] at hs
  case productivityTick => simp only [step, productivityTick]; split <;> rfl
  case request => exact request_core p _ _
  case send => exact core_eq_of_control (send_control p)
  case connect => exact core_eq_of_control (connect_control p)
  case applyNodeInfo =>
    simp only [step, applyNodeInfo]; split
    · split <;> rfl
    · exact request_core _ _ _
  case pingTimer => simp only [step, sendPing]; split <;> rfl
  case pingSettle => simp only [step, settlePing]; split <;> rfl
  case socketOpen =>
    simp only [step, handleSocketOpen]; split
    · rfl
    · split
      · exact (request_core _ _ _).trans (request_core _ _ _)
      · rfl
  case socketClose => simp only [step, handleSocketClose]; split <;> rfl
  case statusResponse => exact core_eq_of_control (fetchStatusResponse_control p _)
  case rpcFrame => exact core_eq_of_control (receiveRPC_control p _ _ _)
  case messageFrame => exact core_eq_of_control (receiveMessage_control p _ _)
  all_goals rfl

end Peer

end Lp2p
