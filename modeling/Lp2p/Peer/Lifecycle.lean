import Lp2p.Peer.Session

/-!
# What `disconnect` stops

`disconnect` (`src/peer/base.js:315–324`) clears `_active` and the two intervals and
disconnects the socket; it does not drop the socket, and `send`, `request`, `applyNodeInfo`
and `connect` never read `_active`. An outbound session without a socket makes one on demand
(`src/unnamed/part_003:53–67, 101–106`). So a disconnected session stays inactive, but each
of those calls still reaches the transport, exactly as it would before the disconnect.

The ping loop of an inbound session (`src/peer/inbound.js:64–72`) is stopped only by the
close handler clearing a scheduled timer: a ping in flight when the socket closes schedules
the next one when it settles.
-/

namespace Lp2p

open Lp2p.Js

/-- The steps that leave the keep-alive alone: all but the ping timer, the ping settling and
the close event. -/
def SessionStep.KeepsPing : SessionStep → Prop
  | .pingTimer _ | .pingSettle _ | .socketClose _ => False
  | _ => True

namespace Peer

/-- The session is inactive and both of its intervals are cleared. -/
def Disconnected (p : Peer) : Prop :=
  p.active = false ∧ p.counterResetInterval = false ∧ p.productivityResetInterval = false

/-- An inactive session has both intervals cleared: only `disconnect` clears `_active`, and
it clears the intervals with it. -/
def ActiveInv (p : Peer) : Prop := p.active = false → p.Disconnected

/-- A new session is active. -/
theorem init_activeInv (kind : PeerKind) (peerInfo : PeerInfo) (peerConfig : PeerConfig)
    (socket : Option Socket) (ping : PingState) (now : Nat) (id : PeerId) :
    (init kind peerInfo peerConfig socket ping now id).ActiveInv := by
  simp [ActiveInv, init]

/-- `disconnect` leaves a session of the invariant disconnected. -/
theorem disconnect_disconnected (p : Peer) (code : DisconnectCode) (h : p.ActiveInv) :
    (p.disconnect code).Disconnected := by
  cases ha : p.active
  · obtain ⟨-, hc, hp⟩ := h ha
    simp [Disconnected, disconnect_eq, ha, hc, hp]
  · simp [Disconnected, disconnect_eq, ha]

/-- `_active` and the two intervals. -/
def liveness (p : Peer) : Bool × Bool × Bool :=
  (p.active, p.counterResetInterval, p.productivityResetInterval)

/-- What `disconnect` leaves of them: inactive, and an interval live only if it was live on a
session already inactive. -/
def disconnectedLiveness (p : Peer) : Bool × Bool × Bool :=
  (false, p.counterResetInterval && !p.active, p.productivityResetInterval && !p.active)

/-- `disconnect` leaves the liveness `disconnectedLiveness` says. -/
@[simp] theorem disconnect_liveness (p : Peer) (code : DisconnectCode) :
    (p.disconnect code).liveness = p.disconnectedLiveness := by
  simp [liveness, disconnectedLiveness, disconnect_eq]

/-- A session is disconnected exactly when it is inactive with both intervals cleared. -/
theorem disconnected_iff (p : Peer) : p.Disconnected ↔ p.liveness = (false, false, false) := by
  simp [Disconnected, liveness]

/-- A penalty leaves `_active` and the intervals alone, or bans and disconnects. -/
theorem applyPenalty_liveness (p : Peer) (n : Int) :
    (p.applyPenalty n).1.liveness = p.liveness ∨
      (p.applyPenalty n).1.liveness = p.disconnectedLiveness := by
  simp only [applyPenalty, banPeer]; split
  · exact .inr (disconnect_liveness _ _)
  · exact .inl rfl

/-- Only a penalty, a timed-out request and `disconnect` touch `_active` and the intervals, and
each of them either leaves them alone or disconnects. -/
theorem step_liveness (p : Peer) (s : SessionStep) :
    (p.step s).1.liveness = p.liveness ∨ (p.step s).1.liveness = p.disconnectedLiveness := by
  by_cases hs : s.KeepsCore
  · have h := step_core p s hs
    simp only [core, Core.mk.injEq] at h
    exact .inl (by simp [liveness, h])
  cases s with
  | applyPenalty n => exact applyPenalty_liveness p n
  | rateTick =>
    simp only [step, rateTick]
    split_ifs
    · exact applyPenalty_liveness _ _
    · exact .inl rfl
    · exact .inl rfl
  | settle index outcome now =>
    simp only [step, settleRequest]
    split
    · exact .inl rfl
    · split
      · exact .inr (disconnect_liveness _ _)
      all_goals exact .inl rfl
  | disconnect code => exact .inr (disconnect_liveness p code)
  | _ => exact absurd trivial hs

/-- Every step keeps the invariant. -/
theorem step_activeInv (p : Peer) (s : SessionStep) (h : p.ActiveInv) :
    (p.step s).1.ActiveInv := by
  intro ha
  rw [disconnected_iff]
  rcases step_liveness p s with hl | hl <;> simp only [liveness, disconnectedLiveness,
    Prod.mk.injEq] at hl
  · have hpa : p.active = false := hl.1.symm.trans ha
    obtain ⟨-, hc, hr⟩ := h hpa
    simp [liveness, hl, hc, hr, hpa]
  · cases hp : p.active
    · obtain ⟨-, hc, hr⟩ := h hp
      simp [liveness, hl, hc, hr, hp]
    · simp [liveness, hl, hp]

/-- No step brings a disconnected session back. -/
theorem step_disconnected (p : Peer) (s : SessionStep) (h : p.Disconnected) :
    (p.step s).1.Disconnected := by
  rw [disconnected_iff] at h ⊢
  rcases step_liveness p s with hl | hl
  · rw [hl, h]
  · simp only [liveness, Prod.mk.injEq] at h
    simp [hl, disconnectedLiveness, h]

/-- Over any run, a disconnected session stays disconnected. -/
theorem run_disconnected (p : Peer) (steps : List SessionStep) (h : p.Disconnected) :
    (p.run steps).1.Disconnected := by
  induction steps generalizing p with
  | nil => exact h
  | cons s rest ih => exact ih _ (step_disconnected p s h)

/-- The calls that reach the transport whatever the session's state. -/
def IsTransportCall : SessionStep → Prop
  | .send | .request _ | .applyNodeInfo _ | .connect => True
  | _ => False

/-- The session with `_active` and the intervals set to `l`. -/
def setLiveness (p : Peer) (l : Bool × Bool × Bool) : Peer :=
  { p with active := l.1, counterResetInterval := l.2.1, productivityResetInterval := l.2.2 }

/-- Setting the liveness leaves the socket. -/
@[simp] theorem setLiveness_socket (p : Peer) (l : Bool × Bool × Bool) :
    (p.setLiveness l).socket = p.socket := rfl

/-- Setting the liveness leaves the kind. -/
@[simp] theorem setLiveness_kind (p : Peer) (l : Bool × Bool × Bool) :
    (p.setLiveness l).kind = p.kind := rfl

/-- Setting the liveness leaves the peer info. -/
@[simp] theorem setLiveness_peerInfo (p : Peer) (l : Bool × Bool × Bool) :
    (p.setLiveness l).peerInfo = p.peerInfo := rfl

/-- Creating an outbound socket commutes with setting the liveness. -/
theorem ensureOutboundSocket_setLiveness (p : Peer) (l : Bool × Bool × Bool) :
    (p.setLiveness l).ensureOutboundSocket = p.ensureOutboundSocket.setLiveness l := by
  unfold ensureOutboundSocket; split <;> split <;> simp_all [setLiveness, kind]

/-- `request` commutes with setting the liveness. -/
theorem request_setLiveness (p : Peer) (l : Bool × Bool × Bool) (procedure : String)
    (caller : Caller) :
    (p.setLiveness l).request procedure caller =
      ((p.request procedure caller).1.setLiveness l, (p.request procedure caller).2) := by
  simp only [request, ensureOutboundSocket_setLiveness]
  cases h : p.ensureOutboundSocket.socket <;> simp only [setLiveness_socket, h] <;> rfl

/-- `send`, `request`, `applyNodeInfo` and `connect` read neither `_active` nor the intervals:
on a session in any such state they do what they do on the same session live. -/
theorem step_transportCall_liveness (p : Peer) (s : SessionStep) (hs : IsTransportCall s)
    (l : Bool × Bool × Bool) :
    (p.setLiveness l).step s = ((p.step s).1.setLiveness l, (p.step s).2) := by
  cases s <;> simp only [IsTransportCall] at hs
  case request => exact congrArg (·.1, []) (request_setLiveness p l _ _)
  case send =>
    simp only [step, send, ensureOutboundSocket_setLiveness]
    cases h : p.ensureOutboundSocket.socket
    · simp only [setLiveness_socket, h]
    · simp only [setLiveness_socket, h]; rfl
  case connect =>
    simp only [step, connect, ensureOutboundSocket_setLiveness, setLiveness_kind]
    cases p.kind <;> rfl
  case applyNodeInfo nodeInfo =>
    simp only [step, applyNodeInfo, setLiveness_peerInfo, setLiveness_socket]
    split
    · split <;> rfl
    · exact congrArg (·.1, []) (request_setLiveness { p with nodeInfo := some nodeInfo } l _ _)

/-- `send` transmits on the session's socket, which an outbound session makes if it has none:
it fails only on a session of the base class without socket. -/
theorem send_transmits (p : Peer) (h : p.kind = .outbound ∨ p.socket.isSome) :
    (p.step .send).1.socket =
      some ((p.socket.getD {}).callAll [.transmit remoteEventMessage]) := by
  rcases h with h | h
  · cases hs : p.socket <;> simp [step, send, ensureOutboundSocket, h, hs]
  · obtain ⟨s, hs⟩ := Option.isSome_iff_exists.mp h
    simp [step, send, ensureOutboundSocket, hs]

/-- An outbound session disconnected before it had a socket makes one for a later `send`, and
transmits on it. -/
theorem send_after_disconnect :
    (do
      let p ← createOutbound { ipAddress := "1.2.3.4", wsPort := 5000 } ⟨1000, 100, 10⟩ 0
      pure ((p.run [.disconnect intentionalDisconnectStatusCode, .send]).1.socket)) =
      .ok (some { isOpen := false, calls := [.transmit remoteEventMessage] }) := by
  decide

/-- Setting a session's own liveness leaves it. -/
theorem setLiveness_liveness (p : Peer) : p.setLiveness p.liveness = p := rfl

/-- The last liveness set wins. -/
@[simp] theorem setLiveness_setLiveness (p : Peer) (l l' : Bool × Bool × Bool) :
    (p.setLiveness l).setLiveness l' = p.setLiveness l' := rfl

/-- After `disconnect` a session stays inactive with both intervals cleared, over every run.
But `send`, `request`, `applyNodeInfo` and `connect` on it do what they do on the same session
live, and `send` on an outbound session transmits, on a socket it makes if it has none. -/
theorem disconnect_leaves_transport_open (p : Peer) (code : DisconnectCode)
    (steps : List SessionStep) (h : p.ActiveInv) :
    let q := ((p.disconnect code).run steps).1
    q.Disconnected ∧
      (∀ s, IsTransportCall s →
        q.step s = (((q.setLiveness (true, true, true)).step s).1.setLiveness (false, false, false),
          ((q.setLiveness (true, true, true)).step s).2)) ∧
      (q.kind = .outbound →
        (q.step .send).1.socket = some ((q.socket.getD {}).callAll [.transmit remoteEventMessage])) := by
  intro q
  have hq : q.Disconnected := run_disconnected _ steps (disconnect_disconnected p code h)
  have hl : q = (q.setLiveness (true, true, true)).setLiveness (false, false, false) := by
    rw [setLiveness_setLiveness, ← (disconnected_iff q).1 hq, setLiveness_liveness]
  refine ⟨hq, fun s hs => ?_, fun hk => send_transmits q (.inl hk)⟩
  conv_lhs => rw [hl]
  exact step_transportCall_liveness _ s hs _

/-- A new outbound session, disconnected, then asked to send. -/
theorem disconnect_leaves_transport_open_outbound :
    (init .outbound { ipAddress := "1.2.3.4", wsPort := 5000 } ⟨1000, 100, 10⟩ none .idle 0
      "1.2.3.4:5000").ActiveInv ∧
    let q := (((init .outbound { ipAddress := "1.2.3.4", wsPort := 5000 } ⟨1000, 100, 10⟩ none
      .idle 0 "1.2.3.4:5000").disconnect intentionalDisconnectStatusCode).run [.send]).1
    q.Disconnected ∧
      (∀ s, IsTransportCall s →
        q.step s = (((q.setLiveness (true, true, true)).step s).1.setLiveness (false, false, false),
          ((q.setLiveness (true, true, true)).step s).2)) ∧
      (q.kind = .outbound →
        (q.step .send).1.socket = some ((q.socket.getD {}).callAll [.transmit remoteEventMessage])) :=
  ⟨init_activeInv _ _ _ _ _ _ _,
    disconnect_leaves_transport_open _ _ _ (init_activeInv _ _ _ _ _ _ _)⟩

/-- `request` leaves the ping state. -/
theorem request_ping (p : Peer) (procedure : String) (caller : Caller) :
    (p.request procedure caller).1.ping = p.ping := by
  have h := congrArg Control.ping (ensureOutboundSocket_control p)
  simp only [request]; split <;> exact h

/-- Only the ping timer, the ping settling and the close event touch the keep-alive. -/
theorem step_ping (p : Peer) (s : SessionStep) (hs : s.KeepsPing) :
    (p.step s).1.ping = p.ping := by
  by_cases ht : s.IsTraffic
  · exact congrArg Control.ping (step_control_of_traffic p s ht)
  cases s with
  | applyPenalty n => simp only [step, applyPenalty, banPeer]; split <;> simp [disconnect_eq]
  | rateTick =>
    simp only [step, rateTick, applyPenalty, banPeer]
    split_ifs <;> simp [disconnect_eq]
  | productivityTick now => simp only [step, productivityTick]; split <;> rfl
  | request procedure => exact request_ping p _ _
  | settle index outcome now =>
    simp only [step, settleRequest]; split
    · rfl
    · split <;> simp [disconnect_eq]
  | applyNodeInfo nodeInfo =>
    simp only [step, applyNodeInfo]; split
    · split <;> rfl
    · exact request_ping _ _ _
  | disconnect code => simp [step, disconnect_eq]
  | socketOpen =>
    simp only [step, handleSocketOpen]; split
    · rfl
    · split
      · exact (request_ping _ _ _).trans (request_ping _ _ _)
      · rfl
  | pingTimer _ | pingSettle _ | socketClose _ => exact hs.elim
  | statusResponse data => exact congrArg Control.ping (fetchStatusResponse_control p data)
  | _ => exact absurd trivial ht

/-- A session whose ping timer is cleared never pings again. -/
theorem step_ping_idle (p : Peer) (s : SessionStep) (h : p.ping = .idle) :
    (p.step s).1.ping = .idle := by
  cases s
  case pingTimer => simp [step, sendPing, h]
  case pingSettle => simp [step, settlePing, h]
  case socketClose => simp only [step, handleSocketClose]; split <;> simp [h]
  all_goals exact (step_ping p _ (by trivial)).trans h

/-- A ping in flight when the close event is handled survives the close and the disconnect:
when it settles the next ping is scheduled, and when that fires `ping` is invoked again on the
closed socket. -/
theorem ping_after_close :
    (do
      let p ← createInbound { ipAddress := "1.2.3.4", wsPort := 5000 } {} ⟨1000, 100, 10⟩ 0
      let q := (p.run [.pingTimer 25000, .socketClose intentionalDisconnectStatusCode,
        .disconnect intentionalDisconnectStatusCode, .pingSettle 25100, .pingTimer 50000]).1
      pure (q.ping, q.socket.map Socket.calls)) =
      .ok (PingState.inFlight 50000, some ([SocketCall.invoke eventPing,
        .disconnect intentionalDisconnectStatusCode] ++ unbindSocketCalls .inbound ++
        [.invoke eventPing])) := by
  decide

end Peer

end Lp2p
