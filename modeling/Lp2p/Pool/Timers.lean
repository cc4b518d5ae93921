import Lp2p.Pool.Reachable

/-!
# The pool's timers

The pool runs two kinds of timers. `_handleBanPeer` arms an unban timer for each `banPeer` it
re-emits, and `_handleUnbanPeer` emits `unbanPeer` when one fires (`src/peer_pool.js:192–205`);
the model keeps the pending timers in `unbanTimers`, in the order they were armed, and a firing
is a step that picks one. The shuffle interval is started by the constructor and cleared by
`removeAllPeers` (`src/peer_pool.js:109–111,419–423`), and nothing starts it again.

Every operation keeps the account of unban timers: what was pending before it and what it
armed is, up to order, what is pending after it and what fired. So over every run, whatever the
interleaving of the application's calls, the sessions' steps and the timers' firings, the pool
emits `unbanPeer` once for each timer a ban armed that has fired, and never for anything else.
-/

namespace Lp2p

open Lp2p.Js Lp2p.Address

/-- The id of an `unbanPeer` event the pool emits. -/
def PoolEvent.unbannedId? : PoolEvent → Option PeerId
  | .unbanPeer peerId => some peerId
  | _ => none

namespace PeerPool

/-- The ids of the `unbanPeer` events among `events`, in order. -/
def unbannedIds (events : List PoolEvent) : List PeerId := events.filterMap PoolEvent.unbannedId?

/-- The ids unbanned by two lists of events, in order. -/
@[simp] theorem unbannedIds_append (a b : List PoolEvent) :
    unbannedIds (a ++ b) = unbannedIds a ++ unbannedIds b :=
  List.filterMap_append _ _ _

/-- What an operation from `P` that leaves `r` does to the pool's timers: the unban timers
pending before it and those it armed are, up to order, those pending after it and those that
fired; and it does not start the shuffle interval. -/
structure KeepsTimers (P : PeerPool) (r : PoolResult) : Prop where
  /-- No unban timer is lost or made up. -/
  unban : (P.unbanTimers ++ bannedIds r.events).Perm (r.pool.unbanTimers ++ unbannedIds r.events)
  /-- The shuffle interval is not started again. -/
  shuffle : r.pool.outboundShuffleInterval = true → P.outboundShuffleInterval = true

namespace KeepsTimers

/-- An operation that leaves both timers as they were and emits neither `banPeer` nor
`unbanPeer`. -/
theorem of_quiet {P : PeerPool} {r : PoolResult} (ht : r.pool.unbanTimers = P.unbanTimers)
    (hs : r.pool.outboundShuffleInterval = P.outboundShuffleInterval)
    (hb : bannedIds r.events = []) (hu : unbannedIds r.events = []) : KeepsTimers P r :=
  ⟨by rw [ht, hb, hu], fun h => hs ▸ h⟩

/-- Only the timers of the pool an operation starts from matter. -/
theorem of_start {P P' : PeerPool} {r : PoolResult} (h : KeepsTimers P' r)
    (ht : P'.unbanTimers = P.unbanTimers)
    (hs : P'.outboundShuffleInterval = true → P.outboundShuffleInterval = true) :
    KeepsTimers P r :=
  ⟨ht ▸ h.unban, hs ∘ h.shuffle⟩

/-- One operation after another. -/
theorem seq {P : PeerPool} {r r' : PoolResult} (h : KeepsTimers P r) (h' : KeepsTimers r.pool r')
    (error : Option JsError) : KeepsTimers P ⟨r'.pool, r.events ++ r'.events, error⟩ := by
  refine ⟨List.perm_iff_count.2 fun a => ?_, h.shuffle ∘ h'.shuffle⟩
  have h1 := List.perm_iff_count.1 h.unban a
  have h2 := List.perm_iff_count.1 h'.unban a
  simp only [List.count_append, bannedIds_append, unbannedIds_append] at *
  omega

/-- `andThen` keeps the timers when its second operation keeps them from any pool. -/
theorem andThen {P : PeerPool} {r : PoolResult} {f : PeerPool → PoolResult}
    (h : KeepsTimers P r) (hf : ∀ P', KeepsTimers P' (f P')) : KeepsTimers P (r.andThen f) := by
  unfold PoolResult.andThen
  split
  · exact h
  · exact h.seq (hf r.pool) _

end KeepsTimers

/-! ### Every operation keeps the account -/

/-- Replacing a map leaves the unban timers. -/
@[simp] theorem setPeerMap_unbanTimers (P : PeerPool) (kind : PeerKind) (m : JsMap PeerId Nat) :
    (P.setPeerMap kind m).unbanTimers = P.unbanTimers := by
  cases kind <;> rfl

/-- Replacing a map leaves the shuffle interval. -/
@[simp] theorem setPeerMap_outboundShuffleInterval (P : PeerPool) (kind : PeerKind)
    (m : JsMap PeerId Nat) :
    (P.setPeerMap kind m).outboundShuffleInterval = P.outboundShuffleInterval := by
  cases kind <;> rfl

/-- Detaching a session leaves the shuffle interval. -/
@[simp] theorem detachPeer_outboundShuffleInterval (P : PeerPool) (kind : PeerKind)
    (peerId : PeerId) (code : DisconnectCode) :
    (P.detachPeer kind peerId code).outboundShuffleInterval = P.outboundShuffleInterval := by
  unfold detachPeer
  split
  · split <;> rfl
  · rfl

/-- Removing a session keeps the timers. -/
theorem keepsTimers_removePeerOf (P : PeerPool) (kind : PeerKind) (peerId : PeerId)
    (code : DisconnectCode) : KeepsTimers P (P.removePeerOf kind peerId code).2 := by
  rw [removePeerOf_eq]
  exact .of_quiet (by simp [PoolResult.ok]) (by simp [PoolResult.ok]) rfl rfl

/-- Handling a session's event keeps the timers: a `banPeer` arms the timer it emits. -/
theorem keepsTimers_handlePeerEvent (P : PeerPool) (event : PeerEvent) :
    KeepsTimers P (P.handlePeerEvent event) := by
  cases event with
  | banPeer peerId =>
    exact ⟨by simp [handlePeerEvent, PoolResult.ok, bannedIds, unbannedIds,
      PoolEvent.bannedId?, PoolEvent.unbannedId?], id⟩
  | closeOutbound packet | closeInbound packet =>
    simp only [handlePeerEvent]
    split
    · exact .of_quiet rfl rfl rfl rfl
    · exact (keepsTimers_removePeerOf _ _ _ _).andThen fun P' => .of_quiet rfl rfl rfl rfl
  | _ => exact .of_quiet rfl rfl rfl rfl

/-- Handling a session's events in order keeps the timers. -/
theorem keepsTimers_dispatch (P : PeerPool) (ref : Nat) (events : List PeerEvent) :
    KeepsTimers P (P.dispatch ref events) := by
  induction events generalizing P with
  | nil => exact .of_quiet rfl rfl rfl rfl
  | cons event rest ih =>
    unfold dispatch
    split
    · exact (keepsTimers_handlePeerEvent P event).andThen ih
    · exact ih P

/-- A failed push emits no `unbanPeer`. -/
theorem unbannedIds_pushFailure (p : Peer) (s : SessionStep) :
    unbannedIds (pushFailure p s) = [] := by
  unfold pushFailure
  split
  · split <;> rfl
  · rfl

/-- A session step, with its events handled, keeps the timers. -/
theorem keepsTimers_sessionStep (P : PeerPool) (ref : Nat) (s : SessionStep) :
    KeepsTimers P (P.sessionStep ref s) := by
  unfold sessionStep
  split
  · exact .of_quiet rfl rfl rfl rfl
  · exact ((keepsTimers_dispatch _ ref _).andThen fun P' => .of_quiet rfl rfl
      (bannedIds_pushFailure _ _) (unbannedIds_pushFailure _ _)).of_start rfl id

/-- Pushing node info to a session keeps the timers. -/
theorem keepsTimers_applyNodeInfoOnPeer (P : PeerPool) (ref : Nat) (nodeInfo : NodeInfo) :
    KeepsTimers P (P.applyNodeInfoOnPeer ref nodeInfo) := by
  unfold applyNodeInfoOnPeer
  split
  · exact .of_quiet rfl rfl rfl rfl
  · split <;> exact .of_quiet rfl rfl rfl rfl

/-- Adding a session to a map keeps the timers. -/
theorem keepsTimers_insertPeer (P : PeerPool) (kind : PeerKind) (p : Peer) :
    KeepsTimers P (P.insertPeer kind p) := by
  unfold insertPeer
  dsimp only
  split
  · exact (keepsTimers_applyNodeInfoOnPeer _ _ _).of_start (setPeerMap_unbanTimers _ _ _)
      fun h => by simpa using h
  · exact .of_quiet (setPeerMap_unbanTimers _ _ _) (setPeerMap_outboundShuffleInterval _ _ _)
      rfl rfl

/-- `_evictPeer` keeps the timers. -/
theorem keepsTimers_evictPeer (P : PeerPool) (kind : PeerKind) (choice : Nat) :
    KeepsTimers P (P.evictPeer kind choice) := by
  unfold evictPeer
  split
  · exact .of_quiet rfl rfl rfl rfl
  · split
    · exact .of_quiet rfl rfl rfl rfl
    · split
      · exact keepsTimers_removePeerOf _ _ _ _
      · exact .of_quiet rfl rfl rfl rfl

/-- `addInboundPeer` keeps the timers. -/
theorem keepsTimers_addInboundPeer (P : PeerPool) (peerInfo : PeerInfo) (socket : Socket)
    (now choice : Nat) : KeepsTimers P (P.addInboundPeer peerInfo socket now choice) := by
  unfold addInboundPeer
  refine KeepsTimers.andThen ?_ fun P => ?_
  · split
    · exact keepsTimers_evictPeer _ _ _
    · exact .of_quiet rfl rfl rfl rfl
  · split
    · exact .of_quiet rfl rfl rfl rfl
    · split
      · exact .of_quiet rfl rfl rfl rfl
      · exact keepsTimers_insertPeer _ _ _

/-- `addOutboundPeer` keeps the timers. -/
theorem keepsTimers_addOutboundPeer (P : PeerPool) (peerId : PeerId) (peerInfo : PeerInfo)
    (now : Nat) : KeepsTimers P (P.addOutboundPeer peerId peerInfo now) := by
  unfold addOutboundPeer
  split
  · exact .of_quiet rfl rfl rfl rfl
  · split
    · exact .of_quiet rfl rfl rfl rfl
    · exact keepsTimers_insertPeer _ _ _

/-- Adding outbound peers one by one keeps the timers. -/
theorem keepsTimers_addOutboundPeers (now : Nat) (P : PeerPool) (peers : List PeerInfo) :
    KeepsTimers P (addOutboundPeers now P peers) := by
  induction peers generalizing P with
  | nil => exact .of_quiet rfl rfl rfl rfl
  | cons peerInfo rest ih =>
    unfold addOutboundPeers
    split
    · exact .of_quiet rfl rfl rfl rfl
    · exact (keepsTimers_addOutboundPeer _ _ _ _).andThen ih

/-- Removing every listed session of a kind keeps the timers. -/
theorem keepsTimers_removeAllOf (kind : PeerKind) (P : PeerPool) (keys : List PeerId) :
    KeepsTimers P (removeAllOf kind P keys) := by
  induction keys generalizing P with
  | nil => exact .of_quiet rfl rfl rfl rfl
  | cons key rest ih =>
    unfold removeAllOf
    split
    · exact (keepsTimers_removePeerOf _ _ _ _).andThen ih
    · exact ih P

/-- `applyNodeInfo` keeps the timers. -/
theorem keepsTimers_applyNodeInfo (P : PeerPool) (nodeInfo : NodeInfo) :
    KeepsTimers P (P.applyNodeInfo nodeInfo) := by
  have hfold : ∀ (refs : List Nat) (r : PoolResult), KeepsTimers P r →
      KeepsTimers P (refs.foldl (fun r ref => r.andThen (·.applyNodeInfoOnPeer ref nodeInfo)) r) := by
    intro refs
    induction refs with
    | nil => exact fun _ hr => hr
    | cons ref rest ih =>
      exact fun r hr => ih _ (hr.andThen fun P' => keepsTimers_applyNodeInfoOnPeer P' _ _)
  exact hfold _ _ (.of_quiet rfl rfl rfl rfl)

/-- `sendToPeer` changes no timer and emits nothing. -/
theorem sendToPeer_quiet (P : PeerPool) (peerId : PeerId) :
    (P.sendToPeer peerId).pool.unbanTimers = P.unbanTimers ∧
      (P.sendToPeer peerId).pool.outboundShuffleInterval = P.outboundShuffleInterval ∧
      (P.sendToPeer peerId).events = [] := by
  unfold sendToPeer
  split
  · exact ⟨rfl, rfl, rfl⟩
  · split
    · exact ⟨rfl, rfl, rfl⟩
    · split <;> exact ⟨rfl, rfl, rfl⟩

/-- `send` keeps the timers. -/
theorem keepsTimers_send (P : PeerPool) (peers : List PeerInfo) : KeepsTimers P (P.send peers) := by
  induction peers generalizing P with
  | nil => exact .of_quiet rfl rfl rfl rfl
  | cons peerInfo rest ih =>
    unfold send
    split
    · exact .of_quiet rfl rfl rfl rfl
    · obtain ⟨ht, hs, he⟩ := sendToPeer_quiet P ‹_›
      refine KeepsTimers.andThen ?_ ih
      split
      · exact .of_quiet ht hs (by simp [PoolResult.ok, he]; rfl) (by simp [PoolResult.ok, he]; rfl)
      · exact .of_quiet ht hs (by rw [he]; rfl) (by rw [he]; rfl)

/-- `request` keeps the timers. -/
theorem keepsTimers_request (P : PeerPool) (selectedPeers : List PeerInfo) (procedure : String) :
    KeepsTimers P (P.request selectedPeers procedure) := by
  unfold request requestFromPeer
  split
  · exact .of_quiet rfl rfl rfl rfl
  · split
    · exact .of_quiet rfl rfl rfl rfl
    · split
      · exact .of_quiet rfl rfl rfl rfl
      · exact keepsTimers_sessionStep _ _ _

/-- `applyPenalty` keeps the timers: a ban arms the timer it emits. -/
theorem keepsTimers_applyPenalty (P : PeerPool) (peerId : PeerId) (penalty : Int) :
    KeepsTimers P (P.applyPenalty peerId penalty) := by
  have hpenalise : ∀ (ref : Option Nat) (P : PeerPool),
      KeepsTimers P (match ref with
        | some ref => P.sessionStep ref (.applyPenalty penalty)
        | none => PoolResult.ok P) := fun ref P => by
    cases ref with
    | none => exact .of_quiet rfl rfl rfl rfl
    | some ref => exact keepsTimers_sessionStep _ _ _
  unfold applyPenalty
  split
  · exact .of_quiet rfl rfl rfl rfl
  · exact (hpenalise _ _).andThen (hpenalise _)

/-- A firing removes the timer it fires and emits `unbanPeer` under its id. -/
theorem keepsTimers_unbanTimer (P : PeerPool) (index : Nat) :
    KeepsTimers P (P.unbanTimer index) := by
  unfold unbanTimer
  split
  · next peerId h =>
    obtain ⟨hi, rfl⟩ := List.getElem?_eq_some_iff.1 h
    refine ⟨?_, id⟩
    simp only [PoolResult.ok, bannedIds, unbannedIds, List.filterMap_cons, List.filterMap_nil,
      PoolEvent.bannedId?, PoolEvent.unbannedId?, List.append_nil]
    calc List.Perm P.unbanTimers (P.unbanTimers[index] :: P.unbanTimers.erase P.unbanTimers[index])
          := List.perm_cons_erase (List.getElem_mem hi)
      List.Perm _ (P.unbanTimers[index] :: P.unbanTimers.eraseIdx index) :=
          (List.erase_getElem hi).cons _
      List.Perm _ (P.unbanTimers.eraseIdx index ++ [P.unbanTimers[index]]) :=
          (List.perm_append_singleton _ _).symm
  · exact .of_quiet rfl rfl rfl rfl

/-- `removeAllPeers` keeps the unban timers and stops, never starts, the shuffle interval. -/
theorem keepsTimers_removeAllPeers (P : PeerPool) : KeepsTimers P P.removeAllPeers := by
  unfold removeAllPeers
  exact ((keepsTimers_removeAllOf _ _ _).andThen fun P' => keepsTimers_removeAllOf _ _ _).of_start
    rfl nofun

/-- Every pool step keeps the timers. -/
theorem keepsTimers_step (P : PeerPool) (s : PoolStep) : KeepsTimers P (P.step s) := by
  cases s with
  | addInboundPeer => exact keepsTimers_addInboundPeer _ _ _ _ _
  | addOutboundPeer => exact keepsTimers_addOutboundPeer _ _ _ _
  | triggerNewConnections =>
    simp only [step, triggerNewConnections]
    split
    · exact .of_quiet rfl rfl rfl rfl
    · exact keepsTimers_addOutboundPeers _ _ _
  | removeInboundPeer | removeOutboundPeer => exact keepsTimers_removePeerOf _ _ _ _
  | removeAllPeers => exact keepsTimers_removeAllPeers _
  | shuffleTick =>
    simp only [step, shuffleTick]
    split
    · exact keepsTimers_evictPeer _ _ _
    · exact .of_quiet rfl rfl rfl rfl
  | applyPenalty => exact keepsTimers_applyPenalty _ _ _
  | applyNodeInfo => exact keepsTimers_applyNodeInfo _ _
  | send => exact keepsTimers_send _ _
  | request => exact keepsTimers_request _ _ _
  | unbanTimer => exact keepsTimers_unbanTimer _ _
  | session => exact keepsTimers_sessionStep _ _ _

/-! ### Runs -/

/-- Every run keeps the timers. -/
theorem keepsTimers_run (P : PeerPool) (steps : List PoolStep) :
    KeepsTimers P ⟨(P.run steps).1, (P.run steps).2, none⟩ := by
  induction steps generalizing P with
  | nil => exact .of_quiet rfl rfl rfl rfl
  | cons s rest ih => exact (keepsTimers_step P s).seq (ih _) none

/-- Over every run of a pool, whatever its steps, no unban timer is lost or made up and the
shuffle interval is never started again. The timers pending at the start and the ids of the
`banPeer` events the pool re-emits are, up to order, the timers pending at the end and the ids
of the `unbanPeer` events it emits. -/
theorem run_keeps_unban_timers (P : PeerPool) (steps : List PoolStep) :
    (P.unbanTimers ++ bannedIds (P.run steps).2).Perm
        ((P.run steps).1.unbanTimers ++ unbannedIds (P.run steps).2) ∧
      ((P.run steps).1.outboundShuffleInterval = true → P.outboundShuffleInterval = true) :=
  ⟨(keepsTimers_run P steps).unban, (keepsTimers_run P steps).shuffle⟩

/-- `removeAllPeers` clears the shuffle interval and no later step starts it again: whatever
happens after it, the interval's firing evicts no outbound session and emits nothing. -/
theorem shuffleTick_after_removeAllPeers (P : PeerPool) (steps : List PoolStep) (choice : Nat) :
    (P.removeAllPeers.pool.run steps).1.shuffleTick choice =
      .ok (P.removeAllPeers.pool.run steps).1 := by
  have hclear : P.removeAllPeers.pool.outboundShuffleInterval = false := by
    unfold removeAllPeers PoolResult.andThen
    dsimp only
    split
    · exact removeAllOf_outboundShuffleInterval _ _ _
    · exact (removeAllOf_outboundShuffleInterval _ _ _).trans
        (removeAllOf_outboundShuffleInterval _ _ _)
  have hoff : (P.removeAllPeers.pool.run steps).1.outboundShuffleInterval = false := by
    simpa [hclear] using (keepsTimers_run P.removeAllPeers.pool steps).shuffle
  simp [shuffleTick, hoff]

end PeerPool

end Lp2p
