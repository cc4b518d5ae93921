import Lp2p.Pool.Events

/-!
# The inbound quota

`addInboundPeer` (`src/peer_pool.js:365–394`) compares the inbound count with
`maxInboundConnections` times one more than the number of modules of the node info, and at that
quota calls `_evictPeer(PEER_KIND_INBOUND)` before it creates the new session. The eviction
removes one session exactly when `_selectPeersForEviction` (`src/peer_pool.js:553–596`) leaves a
candidate, and it may leave none with every ratio below 1: `filterPeersByCategory`
(`src/peer_pool.js:68–81`) drops `Math.ceil(n * ratio)` sessions, which is all of a single one
for any positive ratio. Over runs of arrivals, removals and shuffles in which every arrival at
the quota finds a candidate, the inbound count stays within the quota.

The check for a duplicate id comes after the eviction: below the quota a duplicate changes no
map, but at the quota it evicts another session first, and then throws.
-/

namespace Lp2p

open Lp2p.Js Lp2p.Address

/-- The steps of the quota argument: inbound arrivals, removals, and the shuffle's outbound
evictions. -/
def PoolStep.isChurn : PoolStep → Bool
  | .addInboundPeer .. | .removeInboundPeer .. | .removeOutboundPeer .. | .shuffleTick _ => true
  | _ => false

/-- An inbound arrival. -/
def PoolStep.isArrival : PoolStep → Bool
  | .addInboundPeer .. => true
  | _ => false

namespace PeerPool

/-- The inbound quota `addInboundPeer` compares the count with. -/
def inboundQuota (P : PeerPool) : Nat := P.config.maxInboundConnections * P.moduleCount

/-- The pool is below the quota, or `_selectPeersForEviction` leaves a candidate. -/
def findsCandidate (P : PeerPool) : Bool :=
  decide (P.inboundPeerMap.size < P.inboundQuota) ||
    match P.selectPeersForEviction with
    | .ok (_ :: _) => true
    | _ => false

/-- Every arrival of a run finds a session to evict if it comes at the quota. -/
def evictsAtQuota (P : PeerPool) : List PoolStep → Bool
  | [] => true
  | s :: rest => (!s.isArrival || P.findsCandidate) && (P.step s).pool.evictsAtQuota rest

/-! ### Candidates for eviction -/

/-- `filterPeersByCategory` keeps only sessions it was given. -/
theorem mem_filterPeersByCategory {peers : List (Nat × Peer)} {category : ProtectionCategory}
    {percentage : ℚ} {asc : Bool} {e : Nat × Peer}
    (h : e ∈ filterPeersByCategory peers category percentage asc) : e ∈ peers := by
  unfold filterPeersByCategory at h
  split at h
  · exact h
  · exact (perm_sortBy _ _).mem_iff.1 (List.mem_of_mem_drop h)

/-- A protection keeps only sessions it was given. -/
theorem mem_protect {peers : List (Nat × Peer)} {category : ProtectionCategory} {ratio : ℚ}
    {asc : Bool} {e : Nat × Peer} (h : e ∈ protect peers category ratio asc) : e ∈ peers := by
  unfold protect at h
  split at h
  · exact mem_filterPeersByCategory h
  · exact h

/-- The protections only ever remove candidates. -/
theorem mem_selectPeersForEviction {P : PeerPool} {cs : List (Nat × Peer)}
    (h : P.selectPeersForEviction = .ok cs) {e : Nat × Peer} (he : e ∈ cs) :
    e ∈ P.getPeers .inbound := by
  unfold selectPeersForEviction at h
  cases hf : filterE (fun e : Nat × Peer => notListed P.config.whitelisted e.2)
      (P.getPeers .inbound) with
  | error error => rw [hf] at h; cases h
  | ok peers =>
    have hp := (filterE_sublist _ _ _ hf).subset
    rw [hf] at h
    simp only [bind, Except.bind, pure, Except.pure] at h
    split at h
    · cases h; exact hp (mem_protect he)
    · split at h <;> cases h
      · exact hp (mem_protect (mem_protect he))
      · exact hp (mem_protect (mem_protect (mem_protect he)))

/-- A candidate for eviction is a session of its kind. -/
theorem mem_evictionCandidates {P : PeerPool} {kind : PeerKind} {cs : List (Nat × Peer)}
    (h : P.evictionCandidates kind = .ok cs) {e : Nat × Peer} (he : e ∈ cs) :
    e ∈ P.getPeers kind := by
  cases kind with
  | outbound => exact (filterE_sublist _ _ _ h).subset he
  | inbound => exact mem_selectPeersForEviction h he

/-- A session `getPeers` lists is under some key of the map and held at its position. -/
theorem mem_getPeers {P : PeerPool} {kind : PeerKind} {ref : Nat} {p : Peer}
    (h : (ref, p) ∈ P.getPeers kind) :
    (∃ key, (P.peerMap kind).get? key = some ref) ∧ P.session? ref = some p := by
  obtain ⟨r, hr, he⟩ := List.mem_filterMap.1 h
  obtain ⟨⟨key, r'⟩, hk, rfl⟩ := List.mem_map.1 hr
  obtain ⟨q, hq, hqe⟩ := Option.map_eq_some'.1 he
  cases hqe
  exact ⟨⟨key, (JsMap.get?_eq_some_iff _ _ _).2 hk⟩, hq⟩

/-- A session of the map is stored under its own id. -/
theorem Inv.has_of_mem_getPeers {P : PeerPool} (h : P.Inv) {kind : PeerKind} {ref : Nat}
    {p : Peer} (hm : (ref, p) ∈ P.getPeers kind) : (P.peerMap kind).has p.id := by
  obtain ⟨⟨key, hk⟩, hp⟩ := mem_getPeers hm
  obtain ⟨q, hq, hid, -⟩ := h.entry kind key ref hk
  rw [hp] at hq
  cases hq
  rw [JsMap.has_eq_isSome, hid, hk]
  rfl

/-! ### Sizes of the maps -/

/-- Removing a session grows neither map. -/
theorem removePeerOf_size_le (P : PeerPool) (kind : PeerKind) (peerId : PeerId)
    (code : DisconnectCode) (kind' : PeerKind) :
    ((P.removePeerOf kind peerId code).2.pool.peerMap kind').size ≤ (P.peerMap kind').size := by
  rw [removePeerOf_eq]
  simp only [PoolResult.ok, peerMap_setPeerMap, detachPeer_peerMap]
  split
  · next hk => subst hk; exact JsMap.size_erase_le _ _
  · exact le_rfl

/-- `_evictPeer` removes one session exactly when it has a candidate. -/
theorem evictPeer_size {P : PeerPool} (h : P.Inv) (kind : PeerKind) (choice : Nat) :
    ((P.evictPeer kind choice).pool.peerMap kind).size + 1 = (P.peerMap kind).size ↔
      ∃ cs, P.evictionCandidates kind = .ok cs ∧ cs ≠ [] := by
  have hne : ¬ (P.peerMap kind).size + 1 = (P.peerMap kind).size := by omega
  unfold evictPeer
  split
  · next hl =>
    refine iff_of_false hne fun ⟨cs, hc, hcs⟩ => ?_
    obtain ⟨e, he⟩ := List.exists_mem_of_ne_nil cs hcs
    have hg : P.getPeers kind = [] := List.eq_nil_of_length_eq_zero (by omega)
    exact absurd (mem_evictionCandidates hc he) (hg ▸ List.not_mem_nil e)
  · split
    · next error herr => exact iff_of_false hne fun ⟨cs, hc, _⟩ => by rw [herr] at hc; cases hc
    · next cs hcs =>
      split
      · next ref peer hsh =>
        have hhas := h.has_of_mem_getPeers (mem_evictionCandidates hcs (shuffleFirst_mem _ _ _ hsh))
        refine iff_of_true ?_ ⟨cs, hcs, (shuffleFirst_isSome cs choice).1 (by rw [hsh]; rfl)⟩
        rw [removePeerOf_eq]
        simpa [PoolResult.ok] using JsMap.size_erase_of_has _ _ hhas
      · next hsh =>
        refine iff_of_false hne fun ⟨cs', hc, hcs'⟩ => ?_
        rw [hcs] at hc
        cases hc
        simpa [hsh] using (shuffleFirst_isSome cs choice).2 hcs'

/-- `_evictPeer` grows neither map. -/
theorem evictPeer_size_le (P : PeerPool) (kind : PeerKind) (choice : Nat) (kind' : PeerKind) :
    ((P.evictPeer kind choice).pool.peerMap kind').size ≤ (P.peerMap kind').size := by
  unfold evictPeer
  split
  · exact le_rfl
  · split
    · exact le_rfl
    · split
      · exact removePeerOf_size_le _ _ _ _ _
      · exact le_rfl

/-- Adding an inbound session grows the inbound map by at most one. -/
theorem insertPeer_size_le (P : PeerPool) (p : Peer) :
    (P.insertPeer .inbound p).pool.inboundPeerMap.size ≤ P.inboundPeerMap.size + 1 := by
  have hm : ∀ P' : PeerPool, P'.peerMap .inbound = P'.inboundPeerMap := fun _ => rfl
  unfold insertPeer
  dsimp only
  split
  · rw [← hm, applyNodeInfoOnPeer_peerMap]
    exact JsMap.size_set_le _ _ _
  · exact JsMap.size_set_le _ _ _

/-- `andThen` grows a measure by at most one when its second operation does from any pool. -/
theorem andThen_pool_le (r : PoolResult) (f : PeerPool → PoolResult) (g : PeerPool → Nat)
    (hf : ∀ P, g (f P).pool ≤ g P + 1) : g (r.andThen f).pool ≤ g r.pool + 1 := by
  unfold PoolResult.andThen
  split
  · exact Nat.le_succ _
  · exact hf _

/-- `andThen` keeps a measure when its second operation does from any pool. -/
theorem andThen_pool_eq (r : PoolResult) (f : PeerPool → PoolResult) (g : PeerPool → Nat)
    (hf : ∀ P, g (f P).pool = g P) : g (r.andThen f).pool = g r.pool := by
  unfold PoolResult.andThen
  split
  · rfl
  · exact hf _

/-- `addInboundPeer` adds at most one inbound entry to what its eviction leaves. -/
theorem addInboundPeer_size_le (P : PeerPool) (peerInfo : PeerInfo) (socket : Socket)
    (now choice : Nat) :
    (P.addInboundPeer peerInfo socket now choice).pool.inboundPeerMap.size ≤
      (if P.inboundQuota ≤ P.inboundPeerMap.size then
        (P.evictPeer .inbound choice).pool.inboundPeerMap.size
      else P.inboundPeerMap.size) + 1 := by
  dsimp only [addInboundPeer]
  refine (andThen_pool_le _ _ (fun P => P.inboundPeerMap.size) fun P' => ?_).trans ?_
  · split
    · exact Nat.le_succ _
    · split
      · exact Nat.le_succ _
      · exact insertPeer_size_le _ _
  · unfold inboundQuota
    split <;> rfl

/-! ### The quota over runs -/

/-- Detaching a session leaves the inbound quota. -/
theorem detachPeer_inboundQuota (P : PeerPool) (kind : PeerKind) (peerId : PeerId)
    (code : DisconnectCode) : (P.detachPeer kind peerId code).inboundQuota = P.inboundQuota := by
  unfold detachPeer
  split
  · split <;> rfl
  · rfl

/-- Removing a session leaves the inbound quota. -/
theorem removePeerOf_inboundQuota (P : PeerPool) (kind : PeerKind) (peerId : PeerId)
    (code : DisconnectCode) :
    (P.removePeerOf kind peerId code).2.pool.inboundQuota = P.inboundQuota := by
  rw [removePeerOf_eq, ← detachPeer_inboundQuota P kind peerId code]
  cases kind <;> rfl

/-- `_evictPeer` leaves the inbound quota. -/
theorem evictPeer_inboundQuota (P : PeerPool) (kind : PeerKind) (choice : Nat) :
    (P.evictPeer kind choice).pool.inboundQuota = P.inboundQuota := by
  unfold evictPeer
  split
  · rfl
  · split
    · rfl
    · split
      · exact removePeerOf_inboundQuota _ _ _ _
      · rfl

/-- `addInboundPeer` leaves the inbound quota. -/
theorem addInboundPeer_inboundQuota (P : PeerPool) (peerInfo : PeerInfo) (socket : Socket)
    (now choice : Nat) : (P.addInboundPeer peerInfo socket now choice).pool.inboundQuota =
      P.inboundQuota := by
  dsimp only [addInboundPeer]
  refine (andThen_pool_eq _ _ inboundQuota fun P' => ?_).trans ?_
  · split
    · rfl
    · split
      · rfl
      · unfold insertPeer applyNodeInfoOnPeer
        dsimp only
        split
        · split
          · rfl
          · split <;> rfl
        · rfl
  · split
    · exact evictPeer_inboundQuota _ _ _
    · rfl

/-- A churn step keeps the quota and, if an arrival at the quota finds a candidate, keeps the
inbound count within it. -/
theorem step_inbound_le_quota {P : PeerPool} (h : P.Inv)
    (hQ : P.inboundPeerMap.size ≤ P.inboundQuota) (s : PoolStep) (hs : s.isChurn)
    (hc : s.isArrival → P.findsCandidate) :
    (P.step s).pool.inboundPeerMap.size ≤ P.inboundQuota ∧
      (P.step s).pool.inboundQuota = P.inboundQuota := by
  cases s with
  | addInboundPeer peerInfo socket now choice =>
    refine ⟨(addInboundPeer_size_le P peerInfo socket now choice).trans ?_,
      addInboundPeer_inboundQuota _ _ _ _ _⟩
    split
    · next hq =>
      have hf := hc rfl
      simp only [findsCandidate, Bool.or_eq_true, decide_eq_true_eq] at hf
      rcases hf with hlt | hf
      · omega
      · split at hf
        · next c cs hsel =>
          have := (evictPeer_size h .inbound choice).2 ⟨c :: cs, hsel, List.cons_ne_nil c cs⟩
          exact (show _ ≤ _ from Nat.le_of_eq this).trans hQ
        · cases hf
    · omega
  | removeInboundPeer peerId code | removeOutboundPeer peerId code =>
    exact ⟨(removePeerOf_size_le _ _ _ _ .inbound).trans hQ, removePeerOf_inboundQuota _ _ _ _⟩
  | shuffleTick choice =>
    simp only [step, shuffleTick]
    split
    · exact ⟨(evictPeer_size_le _ _ _ .inbound).trans hQ, evictPeer_inboundQuota _ _ _⟩
    · exact ⟨hQ, rfl⟩
  | _ => cases hs

/-- Below the quota, an arrival under an id the inbound map already holds throws, emits nothing
and changes neither map; the session it created is kept, in no map. -/
theorem addInboundPeer_duplicate_below_quota (P : PeerPool) (peerInfo : PeerInfo)
    (socket : Socket) (now choice : Nat) (peerId : PeerId)
    (hid : getPeerIdFromPeerInfo peerInfo = .ok peerId)
    (hq : P.inboundPeerMap.size < P.inboundQuota) (hd : P.inboundPeerMap.has peerId) :
    (P.addInboundPeer peerInfo socket now choice).events = [] ∧
      (P.addInboundPeer peerInfo socket now choice).error =
        some (plainError ("Peer " ++ peerId ++ " was already in the peer pool")) ∧
      ∀ kind, (P.addInboundPeer peerInfo socket now choice).pool.peerMap kind = P.peerMap kind := by
  have hc : Peer.createInbound peerInfo socket P.config.peerConfig now =
      .ok (Peer.init .inbound peerInfo P.config.peerConfig (some socket) .scheduled now
        peerId) := by
    simp only [Peer.createInbound, Peer.create, getPeerIdFromPeerInfo_address, hid]
    rfl
  have hq' : ¬ P.inboundPeerMap.size ≥ P.config.maxInboundConnections * P.moduleCount := by
    unfold inboundQuota at hq
    omega
  have hp : (Peer.init .inbound peerInfo P.config.peerConfig (some socket) .scheduled now
      peerId).id = peerId := rfl
  simp only [addInboundPeer, hq', if_false, PoolResult.andThen, PoolResult.ok, hc, hp, hd, if_true]
  exact ⟨rfl, trivial, fun kind => by cases kind <;> rfl⟩

/-- A pool of two inbound sessions holds an arrival's id below a quota of three. -/
example :
    let P := ((init ⟨⟨1000, 100, 10⟩, 20, 3, 0, 0, 0, [], []⟩).run
      [.addInboundPeer { ipAddress := "1.2.3.4", wsPort := 5000 } {} 0 0,
        .addInboundPeer { ipAddress := "1.2.3.5", wsPort := 5000 } {} 0 0]).1
    let r := P.addInboundPeer { ipAddress := "1.2.3.4", wsPort := 5000 } {} 0 0
    getPeerIdFromPeerInfo { ipAddress := "1.2.3.4", wsPort := 5000 } = .ok "1.2.3.4:5000" ∧
      P.inboundPeerMap.size < P.inboundQuota ∧ P.inboundPeerMap.has "1.2.3.4:5000" ∧
      (r.events = [] ∧ r.error = some (plainError ("Peer " ++ "1.2.3.4:5000" ++
        " was already in the peer pool")) ∧ ∀ kind, r.pool.peerMap kind = P.peerMap kind) :=
  ⟨by decide, by decide, by decide,
    addInboundPeer_duplicate_below_quota _ _ _ _ _ _ (by decide) (by decide) (by decide)⟩

/-- At the quota, a duplicate arrival evicts another inbound session before it throws: with the
first session whitelisted, the second is removed and `removePeer` is emitted for it. -/
theorem duplicate_at_quota_evicts :
    (let P := ((init ⟨⟨1000, 100, 10⟩, 20, 2, 0, 0, 0,
      [{ ipAddress := "1.2.3.4", wsPort := 5000 }], []⟩).run
      [.addInboundPeer { ipAddress := "1.2.3.4", wsPort := 5000 } {} 0 0,
        .addInboundPeer { ipAddress := "1.2.3.5", wsPort := 5000 } {} 0 0]).1
    let r := P.addInboundPeer { ipAddress := "1.2.3.4", wsPort := 5000 } {} 0 0
    P.inboundPeerMap.keys = ["1.2.3.4:5000", "1.2.3.5:5000"] ∧
      r.error = some (plainError "Peer 1.2.3.4:5000 was already in the peer pool") ∧
      r.events = [.removePeer "1.2.3.5:5000"] ∧ r.pool.inboundPeerMap.keys = ["1.2.3.4:5000"]) := by
  decide

end PeerPool

end Lp2p
