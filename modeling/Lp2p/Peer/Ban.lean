import Lp2p.Peer.Session

/-!
# Penalties and bans

`applyPenalty` (`src/peer/base.js:265–270`) lowers the reputation and calls `_banPeer` when
it is at most 0; the rate tick applies `wsMaxMessageRatePenalty` when the measured message
rate is above `wsMaxMessageRate`. Nothing records that a session was banned: every penalty
that leaves the reputation at or below 0 emits `banPeer` again. Over a whole run, the
`banPeer` events are exactly those of `banTrace` over the penalties the run applies.
-/

namespace Lp2p

open Lp2p.Js

/-- Whether an event is `banPeer`. -/
def PeerEvent.isBan : PeerEvent → Bool
  | .banPeer _ => true
  | _ => false

namespace Peer

/-- The penalty a step applies: its own for `applyPenalty`; for a rate tick while the
interval is live, `wsMaxMessageRatePenalty` when the measured rate is above the maximum. -/
def penaltyOf (p : Peer) : SessionStep → Option Int
  | .applyPenalty penalty => some penalty
  | .rateTick =>
    if p.counterResetInterval ∧ p.measuredRate.gtFinite p.peerConfig.wsMaxMessageRate then
      some p.peerConfig.wsMaxMessageRatePenalty
    else none
  | _ => none

/-- The penalties a run applies, in order. -/
def penalties (p : Peer) : List SessionStep → List Int
  | [] => []
  | s :: rest => (p.penaltyOf s).toList ++ (p.step s).1.penalties rest

/-- `disconnect` keeps the identity and the reputation. -/
@[simp] theorem disconnect_ident (p : Peer) (code : DisconnectCode) :
    (p.disconnect code).ident = p.ident := by
  simp [disconnect_eq]

/-- `disconnect` leaves the reputation. -/
@[simp] theorem disconnect_reputation (p : Peer) (code : DisconnectCode) :
    (p.disconnect code).reputation = p.reputation := by
  simp [disconnect_eq]

/-- `disconnect` leaves the listeners. -/
@[simp] theorem disconnect_listeners (p : Peer) (code : DisconnectCode) :
    (p.disconnect code).listeners = p.listeners := by
  simp [disconnect_eq]

/-- `disconnect` always leaves the session inactive. -/
@[simp] theorem disconnect_active (p : Peer) (code : DisconnectCode) :
    (p.disconnect code).active = false := by
  simp [disconnect_eq]

/-- The socket of a disconnected session receives `disconnect(code)` if the session was still
active, then the stream closes and kills of its kind. -/
theorem disconnect_socket (p : Peer) (code : DisconnectCode) :
    (p.disconnect code).socket = p.socket.map (·.callAll
      ((if p.active then [.disconnect code] else []) ++ unbindSocketCalls p.kind)) := by
  cases hs : p.socket <;> cases h : p.active <;>
    simp [disconnect_eq, h, hs, Socket.callAll, Bool.and_assoc]

/-- `applyPenalty` leaves the identity. -/
@[simp] theorem applyPenalty_ident (p : Peer) (n : Int) :
    (p.applyPenalty n).1.ident = p.ident := by
  simp only [applyPenalty, banPeer]; split <;> simp

/-- `applyPenalty` subtracts the penalty from the reputation. -/
@[simp] theorem applyPenalty_reputation (p : Peer) (n : Int) :
    (p.applyPenalty n).1.reputation = p.reputation - n := by
  simp only [applyPenalty, banPeer]; split <;> simp

/-- A penalty emits `banPeer` exactly when it leaves the reputation at most 0. -/
@[simp] theorem applyPenalty_emitted (p : Peer) (n : Int) :
    (p.applyPenalty n).2 = if p.reputation - n ≤ 0 then [.banPeer p.id] else [] := by
  simp only [applyPenalty, banPeer]; split <;> rfl

/-- A penalty that bans leaves the session disconnected with `FORBIDDEN_CONNECTION`. -/
theorem applyPenalty_of_ban (p : Peer) (n : Int) (h : p.reputation - n ≤ 0) :
    (p.applyPenalty n).1 =
      ({ p with reputation := p.reputation - n }).disconnect .forbiddenConnection := by
  simp [applyPenalty, banPeer, h]

/-- A step that keeps the core applies no penalty. -/
theorem penaltyOf_of_keepsCore (p : Peer) (s : SessionStep) (hs : s.KeepsCore) :
    p.penaltyOf s = none := by
  cases s <;> simp_all [SessionStep.KeepsCore, penaltyOf]

/-- A step that keeps the core emits no `banPeer`. -/
theorem step_bans_of_keepsCore (p : Peer) (s : SessionStep) (hs : s.KeepsCore) :
    (p.step s).2.filter PeerEvent.isBan = [] := by
  have relay_not_ban : ∀ e : PeerEvent, e.isRelay → e.isBan = false := by
    intro e; cases e <;> simp [PeerEvent.isRelay, PeerEvent.isBan]
  cases s <;> simp only [SessionStep.KeepsCore] at hs
  case rpcFrame =>
    exact List.filter_eq_nil_iff.2 fun e he => by
      simp [relay_not_ban e (receiveRPC_relay p _ _ _ e he)]
  case messageFrame =>
    exact List.filter_eq_nil_iff.2 fun e he => by
      simp [relay_not_ban e (receiveMessage_relay p _ _ e he)]
  case socketOpen => simp only [step, handleSocketOpen]; split <;> (try split) <;> rfl
  case socketClose => simp only [step, handleSocketClose]; split <;> rfl
  case socketError => simp only [step, handleSocketError]; split <;> (try split) <;> rfl
  case statusResponse => simp only [step, fetchStatusResponse]; split <;> rfl
  all_goals rfl

/-- Settling a request keeps the identity and the reputation. -/
theorem settleRequest_ident_reputation (p : Peer) (index : Nat) (outcome : InvokeOutcome)
    (now : Nat) :
    (p.settleRequest index outcome now).1.ident = p.ident ∧
      (p.settleRequest index outcome now).1.reputation = p.reputation := by
  simp only [settleRequest]; split
  · exact ⟨rfl, rfl⟩
  · split <;> simp

/-- What a rate tick does: nothing while the interval is cleared; otherwise it records the
measured rate, then applies the penalty or rotates the counters. -/
theorem rateTick_eq (p : Peer) :
    (p.rateTick.1.ident = p.ident) ∧
      p.rateTick.1.reputation = p.reputation - (p.penaltyOf .rateTick).getD 0 ∧
      p.rateTick.2 = match p.penaltyOf .rateTick with
        | some n => if p.reputation - n ≤ 0 then [.banPeer p.id] else []
        | none => [] := by
  simp only [rateTick, penaltyOf]
  split_ifs <;> simp_all [id]

/-- What a step does to the reputation: it subtracts the penalty the step applies. -/
theorem step_reputation (p : Peer) (s : SessionStep) :
    (p.step s).1.reputation = p.reputation - (p.penaltyOf s).getD 0 := by
  by_cases hs : s.KeepsCore
  · rw [penaltyOf_of_keepsCore p s hs]
    simpa using congrArg Core.reputation (step_core p s hs)
  cases s with
  | applyPenalty => simp [step, penaltyOf]
  | rateTick => exact (rateTick_eq p).2.1
  | settle => simp [step, penaltyOf, settleRequest_ident_reputation]
  | disconnect => simp [step, penaltyOf]
  | _ => exact absurd trivial hs

/-- No step changes the identity. -/
@[simp] theorem step_ident (p : Peer) (s : SessionStep) : (p.step s).1.ident = p.ident := by
  by_cases hs : s.KeepsCore
  · exact congrArg Core.ident (step_core p s hs)
  cases s with
  | applyPenalty => simp [step]
  | rateTick => exact (rateTick_eq p).1
  | settle => exact (settleRequest_ident_reputation p _ _ _).1
  | disconnect => simp [step]
  | _ => exact absurd trivial hs

/-- No step changes the listeners. -/
@[simp] theorem step_listeners (p : Peer) (s : SessionStep) :
    (p.step s).1.listeners = p.listeners := by
  by_cases hs : s.KeepsCore
  · exact congrArg Core.listeners (step_core p s hs)
  cases s with
  | applyPenalty => simp only [step, applyPenalty, banPeer]; split <;> simp [disconnect_eq]
  | rateTick =>
    simp only [step, rateTick, applyPenalty, banPeer]
    split_ifs <;> simp [disconnect_eq]
  | settle =>
    simp only [step, settleRequest]; split
    · rfl
    · split <;> simp [disconnect_eq]
  | disconnect => simp [step, disconnect_eq]
  | _ => exact absurd trivial hs

/-- No step changes the id. -/
@[simp] theorem step_id (p : Peer) (s : SessionStep) : (p.step s).1.id = p.id := by
  simp [id]

/-- The `banPeer` events of one step: one exactly when the step applies a penalty that leaves
the reputation at most 0. -/
theorem step_bans (p : Peer) (s : SessionStep) :
    (p.step s).2.filter PeerEvent.isBan =
      match p.penaltyOf s with
      | some n => if p.reputation - n ≤ 0 then [.banPeer p.id] else []
      | none => [] := by
  by_cases hs : s.KeepsCore
  · rw [penaltyOf_of_keepsCore p s hs, step_bans_of_keepsCore p s hs]
  cases s with
  | applyPenalty => simp only [step, penaltyOf, applyPenalty_emitted]; split <;> rfl
  | rateTick =>
    rw [step, (rateTick_eq p).2.2]
    split
    · split <;> rfl
    · rfl
  | settle | disconnect => rfl
  | _ => exact absurd trivial hs

/-- A step that emits `banPeer` then disconnects the session with `FORBIDDEN_CONNECTION`: it
ends inactive, and its socket receives `disconnect(FORBIDDEN_CONNECTION)` unless an earlier
`disconnect` already made it inactive, then the stream closes and kills of its kind. -/
theorem step_ban_disconnects (p : Peer) (s : SessionStep)
    (h : (p.step s).2.filter PeerEvent.isBan ≠ []) :
    (p.step s).1.active = false ∧
      (p.step s).1.socket = p.socket.map (·.callAll
        ((if p.active then [.disconnect .forbiddenConnection] else []) ++
          unbindSocketCalls p.kind)) := by
  have hban : ∀ (q : Peer) (n : Int), q.reputation - n ≤ 0 →
      (q.applyPenalty n).1.active = false ∧
        (q.applyPenalty n).1.socket = q.socket.map (·.callAll
          ((if q.active then [.disconnect .forbiddenConnection] else []) ++
            unbindSocketCalls q.kind)) := fun q n hq => by
    rw [applyPenalty_of_ban q n hq]
    exact ⟨disconnect_active _ _, disconnect_socket _ _⟩
  obtain ⟨n, hs, hn⟩ : ∃ n, p.penaltyOf s = some n ∧ p.reputation - n ≤ 0 := by
    rw [step_bans] at h
    revert h
    cases p.penaltyOf s with
    | none => simp
    | some n => dsimp only; split_ifs with hn <;> simp [hn]; omega
  cases s with
  | applyPenalty => cases hs; exact hban p n hn
  | rateTick =>
    simp only [penaltyOf] at hs
    split_ifs at hs with hr
    cases hs
    simp only [step, rateTick, hr.1, hr.2, if_true]
    exact hban _ _ hn
  | _ => simp [penaltyOf] at hs

/-- The `banPeer` events of a session whose reputation is `r` and which is dealt the penalties
`ns`, in order: one for each penalty after which the reputation is at most 0. -/
def banTrace (id : PeerId) : Int → List Int → List PeerEvent
  | _, [] => []
  | r, n :: ns => (if r - n ≤ 0 then [.banPeer id] else []) ++ banTrace id (r - n) ns

/-- Over any run, the `banPeer` events are exactly `banTrace` of the penalties applied. -/
theorem run_bans (p : Peer) (steps : List SessionStep) :
    (p.run steps).2.filter PeerEvent.isBan = banTrace p.id p.reputation (p.penalties steps) := by
  induction steps generalizing p with
  | nil => rfl
  | cons s rest ih =>
    rw [run_cons, List.filter_append, step_bans, ih, step_id, step_reputation, penalties]
    cases p.penaltyOf s <;> simp [banTrace]

/-- The reputation after a run is the starting one less every penalty applied. -/
theorem run_reputation (p : Peer) (steps : List SessionStep) :
    (p.run steps).1.reputation = p.reputation - (p.penalties steps).sum := by
  induction steps generalizing p with
  | nil => simp [penalties]
  | cons s rest ih =>
    rw [run_cons, ih, step_reputation, penalties]
    cases p.penaltyOf s <;> simp [Int.sub_sub]

end Peer

end Lp2p
