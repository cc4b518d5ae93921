import Lp2p.Peer.Ban
import Mathlib.Algebra.Order.Field.Basic

/-!
# Productivity

`request` counts a request before its `invoke` (`src/peer/base.js:337`), and only a truthy
response updates `responseCounter` and recomputes `responseRate` as
`responseCounter / requestCounter` (`src/peer/base.js:368–373`). The reset interval
(`src/peer/base.js:134–142`) zeroes all counters, whether requests are in flight or not.

`ProductivityInv` bounds the responses and the requests in flight by the requests counted,
and keeps the rate a finite value in `[0, 1]`. Every step keeps it except a reset that fires
while a request is in flight: the response to that request then counts one response against
zero requests and divides by zero.
-/

namespace Lp2p

open Lp2p.Js

/-- The steps that leave productivity and the requests in flight alone: all but requests,
settling, resets, pushing node info and the transport's `connect` event. -/
def SessionStep.KeepsProductivity : SessionStep → Prop
  | .request _ | .settle .. | .productivityTick _ | .applyNodeInfo _ | .socketOpen => False
  | _ => True

namespace Peer

/-- Responses and requests in flight never outnumber the requests counted, and the response
rate is a finite value in `[0, 1]`. -/
def ProductivityInv (p : Peer) : Prop :=
  p.productivity.responseCounter + p.inFlight.length ≤ p.productivity.requestCounter ∧
    ∃ q : ℚ, p.productivity.responseRate = .finite q ∧ 0 ≤ q ∧ q ≤ 1

/-- A step that is a productivity reset firing while a request is in flight. -/
def resetsInFlight (p : Peer) : SessionStep → Prop
  | .productivityTick now =>
    (p.productivityResetInterval ∧
      p.productivity.lastResponded < now - defaultProductivityResetInterval) ∧ p.inFlight ≠ []
  | _ => False

/-- A run in which no productivity reset fires while a request is in flight. -/
def NoResetInFlight (p : Peer) : List SessionStep → Prop
  | [] => True
  | s :: rest => ¬ p.resetsInFlight s ∧ (p.step s).1.NoResetInFlight rest

/-- A new session has counted nothing and rates 0. -/
theorem init_productivityInv (kind : PeerKind) (peerInfo : PeerInfo) (peerConfig : PeerConfig)
    (socket : Option Socket) (ping : PingState) (now : Nat) (id : PeerId) :
    (init kind peerInfo peerConfig socket ping now id).ProductivityInv :=
  ⟨le_refl _, 0, rfl, le_refl _, zero_le_one⟩

/-- `disconnect` leaves the productivity record. -/
@[simp] theorem disconnect_productivity (p : Peer) (code : DisconnectCode) :
    (p.disconnect code).productivity = p.productivity := by
  simp [disconnect_eq]

/-- `disconnect` leaves the requests in flight. -/
@[simp] theorem disconnect_inFlight (p : Peer) (code : DisconnectCode) :
    (p.disconnect code).inFlight = p.inFlight := by
  simp [disconnect_eq]

/-- `request` counts one request and puts at most one in flight. -/
theorem request_productivity (p : Peer) (procedure : String) (caller : Caller) :
    (p.request procedure caller).1.productivity =
        { p.productivity with requestCounter := p.productivity.requestCounter + 1 } ∧
      (p.request procedure caller).1.inFlight.length ≤ p.inFlight.length + 1 := by
  simp only [request, ensureOutboundSocket]
  repeat' split
  all_goals simp_all

/-- Settling a request takes it out of flight; only a truthy response changes productivity. -/
theorem settleRequest_productivity (p : Peer) (index : Nat) (outcome : InvokeOutcome)
    (now : Nat) (h : index < p.inFlight.length) :
    (p.settleRequest index outcome now).1.inFlight.length = p.inFlight.length - 1 ∧
      ((p.settleRequest index outcome now).1.productivity = p.productivity ∨
        (outcome = .response true ∧
          (p.settleRequest index outcome now).1.productivity =
            { p.productivity with
              lastResponded := now, responseCounter := p.productivity.responseCounter + 1,
              responseRate := (JsNumber.finite (p.productivity.responseCounter + 1 : Nat)).div
                p.productivity.requestCounter })) := by
  simp only [settleRequest, List.getElem?_eq_getElem h]
  split <;> simp [List.length_eraseIdx, h]

/-- A truthy response under the invariant divides by a positive request count, and the rounded
quotient stays in `[0, 1]`. -/
theorem responseRate_bounded {resp req : Nat} (h : resp + 1 ≤ req) :
    ∃ q : ℚ, (JsNumber.finite ((resp + 1 : Nat) : ℚ)).div (req : ℚ) = .finite q ∧ 0 ≤ q ∧ q ≤ 1 := by
  rw [JsNumber.div_natCast _ (by omega)]
  exact roundFrac_mem_unit (by omega) (by omega) (by exact_mod_cast h)

/-- A request keeps the invariant. -/
theorem request_productivityInv (p : Peer) (procedure : String) (caller : Caller)
    (h : p.ProductivityInv) : (p.request procedure caller).1.ProductivityInv := by
  obtain ⟨hc, q, hq, hq0, hq1⟩ := h
  obtain ⟨hp, hl⟩ := request_productivity p procedure caller
  exact ⟨by rw [hp]; simp only at hl ⊢; omega, q, by rw [hp]; exact hq, hq0, hq1⟩

/-- The productivity invariant reads only the productivity record and the requests in flight. -/
theorem productivityInv_of_eq {p q : Peer} (h : p.ProductivityInv)
    (he : q.productivity = p.productivity ∧ q.inFlight = p.inFlight) : q.ProductivityInv := by
  rw [ProductivityInv, he.1, he.2]; exact h

/-- Steps other than requests, settling, resets, pushing node info and the outbound `connect`
event leave productivity and the requests in flight alone. -/
theorem step_productivity_inFlight (p : Peer) (s : SessionStep) (hs : s.KeepsProductivity) :
    (p.step s).1.productivity = p.productivity ∧ (p.step s).1.inFlight = p.inFlight := by
  by_cases ht : s.IsTraffic
  · have h := step_control_of_traffic p s ht
    exact ⟨congrArg Control.productivity h, congrArg Control.inFlight h⟩
  cases s with
  | applyPenalty n => simp only [step, applyPenalty, banPeer]; split <;> simp
  | rateTick => simp only [step, rateTick, applyPenalty, banPeer]; split_ifs <;> simp
  | disconnect code => simp [step]
  | pingTimer now => simp only [step, sendPing]; split <;> exact ⟨rfl, rfl⟩
  | pingSettle now => simp only [step, settlePing]; split <;> exact ⟨rfl, rfl⟩
  | socketClose code => simp only [step, handleSocketClose]; split <;> exact ⟨rfl, rfl⟩
  | request | settle | productivityTick | applyNodeInfo | socketOpen => exact hs.elim
  | statusResponse data =>
    have h := fetchStatusResponse_control p data
    exact ⟨congrArg Control.productivity h, congrArg Control.inFlight h⟩
  | _ => exact absurd trivial ht

/-- Every step keeps the invariant, except a reset that fires while a request is in flight. -/
theorem step_productivityInv (p : Peer) (s : SessionStep) (h : p.ProductivityInv)
    (hs : ¬ p.resetsInFlight s) : (p.step s).1.ProductivityInv := by
  cases s with
  | request procedure => exact request_productivityInv p procedure .application h
  | applyNodeInfo nodeInfo =>
    simp only [step, applyNodeInfo]
    split
    · split <;> exact h
    · exact request_productivityInv _ _ _ h
  | socketOpen =>
    simp only [step, handleSocketOpen]
    split
    · exact h
    · split
      · exact request_productivityInv _ _ _ (request_productivityInv _ _ _ h)
      · exact h
  | settle index outcome now =>
    obtain ⟨hc, q, hq, hq0, hq1⟩ := h
    by_cases hi : index < p.inFlight.length
    · obtain ⟨hl, hp | ⟨-, hp⟩⟩ := settleRequest_productivity p index outcome now hi
      · exact ⟨by simp only [step, hp, hl]; omega, q, by simp [step, hp, hq], hq0, hq1⟩
      · obtain ⟨q', hq', hq'0, hq'1⟩ := responseRate_bounded
          (show p.productivity.responseCounter + 1 ≤ p.productivity.requestCounter by omega)
        refine ⟨by simp only [step, hp, hl]; omega, q', ?_, hq'0, hq'1⟩
        simp only [step, hp]; exact_mod_cast hq'
    · simpa [step, settleRequest, List.getElem?_eq_none (Nat.le_of_not_lt hi)]
        using ⟨hc, q, hq, hq0, hq1⟩
  | productivityTick now =>
    simp only [resetsInFlight, not_and, not_not] at hs
    simp only [step, productivityTick]
    split
    · next hr => simp [ProductivityInv, hs hr, defaultProductivity]
    · exact h
  | _ => exact productivityInv_of_eq h (step_productivity_inFlight p _ (by trivial))

/-- What a step does to the response rate: nothing, a reset to 0, or a new ratio with a
positive numerator. -/
theorem step_responseRate (p : Peer) (s : SessionStep) :
    (p.step s).1.productivity.responseRate = p.productivity.responseRate ∨
      (p.step s).1.productivity.responseRate = .finite 0 ∨
      ∃ (n : Nat) (d : ℚ),
        (p.step s).1.productivity.responseRate = (JsNumber.finite ((n + 1 : Nat) : ℚ)).div d := by
  cases s with
  | request procedure => exact .inl (by simp [step, (request_productivity p procedure _).1])
  | applyNodeInfo nodeInfo =>
    refine .inl ?_
    simp only [step, applyNodeInfo]
    split
    · split <;> rfl
    · simp [(request_productivity _ _ _).1]
  | socketOpen =>
    refine .inl ?_
    simp only [step, handleSocketOpen]
    split
    · rfl
    · split
      · simp [(request_productivity _ _ _).1]
      · rfl
  | settle index outcome now =>
    by_cases hi : index < p.inFlight.length
    · obtain ⟨-, hp | ⟨-, hp⟩⟩ := settleRequest_productivity p index outcome now hi
      · exact .inl (by simp only [step, hp])
      · exact .inr (.inr ⟨_, _, by simp only [step, hp]; norm_cast⟩)
    · exact .inl (by simp [step, settleRequest, List.getElem?_eq_none (Nat.le_of_not_lt hi)])
  | productivityTick now =>
    simp only [step, productivityTick]
    split
    · exact .inr (.inl rfl)
    · exact .inl rfl
  | _ => exact .inl (congrArg Productivity.responseRate
      (step_productivity_inFlight p _ (by trivial)).1)

/-- No step makes the response rate `NaN`. -/
theorem step_responseRate_ne_nan (p : Peer) (s : SessionStep)
    (h : p.productivity.responseRate ≠ .nan) : (p.step s).1.productivity.responseRate ≠ .nan := by
  rcases step_responseRate p s with h' | h' | ⟨n, d, h'⟩ <;> rw [h']
  · exact h
  · exact nofun
  · exact JsNumber.div_succ_ne_nan n d

/-- Over every run without a reset firing while a request is in flight, the invariant holds
in every state reached. -/
theorem run_productivityInv (p : Peer) (steps : List SessionStep) (h : p.ProductivityInv)
    (hr : p.NoResetInFlight steps) : (p.run steps).1.ProductivityInv := by
  induction steps generalizing p with
  | nil => exact h
  | cons s rest ih => exact ih _ (step_productivityInv p s h hr.1) hr.2

/-- A request answered in turn keeps the invariant. -/
theorem run_productivityInv_request_response :
    ((init .outbound { ipAddress := "1.2.3.4", wsPort := 5000 } ⟨1000, 100, 10⟩ none .idle 0
        "1.2.3.4:5000").run [.request "status", .settle 0 (.response true) 5]).1.ProductivityInv :=
  run_productivityInv _ _ (init_productivityInv _ _ _ _ _ _ _)
    (by simp [NoResetInFlight, resetsInFlight])

/-- A reset fires while the first request of a session is in flight; its response then counts
one response against zero requests, and the rate divides by zero. -/
theorem productivity_reset_in_flight :
    (do
      let p ← createOutbound { ipAddress := "1.2.3.4", wsPort := 5000 } ⟨1000, 100, 10⟩ 0
      pure (p.run [.request "status", .productivityTick 20001,
        .settle 0 (.response true) 20002]).1.productivity) =
      .ok ⟨0, 1, .infinity true, 20002⟩ := by
  decide

end Peer

end Lp2p
