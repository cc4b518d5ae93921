import Lp2p.Pool.Reachable
import Lp2p.Pool.Quota
import Lp2p.Peer.Productivity

/-!
# Which session an eviction removes

`_selectPeersForEviction` (`src/peer_pool.js:553–596`) starts from the inbound sessions no
whitelisted peer info names and runs up to three protections. Each sorts its input with the
comparator `a[category] > b[category] ? sign : -sign` and keeps all but the first
`Math.ceil(n * ratio)` (`filterPeersByCategory`, `src/peer_pool.js:68–81`), the product
rounded to a double first, so that `5 * 0.2` is `1` and protects one session where the ratio
the double `0.2` denotes, a little above `1/5`, has `⌈5 * r⌉ = 2`. The comparator answers
`-sign` both ways on a tie, yet V8's sort still leaves the list ordered: by `<=` on latency and
connect time, by `>=` on the response rate as long as no rate is `NaN`, and no rate a session
computes is `NaN`: a response divides a positive count, and a reset sets it to 0.

So a candidate is outranked, at each stage that ran, by the sessions that stage protected.
`_evictPeer(INBOUND)` (`src/peer_pool.js:598–630`) removes the entry of one candidate or
nothing, and `_evictPeer(OUTBOUND)` never removes the entry under a fixed peer's id.
-/

namespace Lp2p

open Lp2p.Js Lp2p.Address

namespace PeerPool

/-! ### One protection -/

/-- At least `protectedCount n ratio` sessions of `peers` other than `c`, `n` the number of
`peers`, rank at or above `c`: what one protection guarantees of a session it keeps. -/
def Outranked (peers : List (Nat × Peer)) (ratio : ℚ) (c : Nat × Peer)
    (ranks : Peer → Peer → Prop) : Prop :=
  ∃ S : List (Nat × Peer), S.Nodup ∧ protectedCount peers.length ratio ≤ S.length ∧
    ∀ x ∈ S, x ∈ peers ∧ x ≠ c ∧ ranks x.2 c.2

/-- In a list ordered by `ranks`, an element after the first `k` is outranked by each of them. -/
theorem outranked_of_mem_drop {l peers : List (Nat × Peer)} (hperm : l.Perm peers)
    (hnd : peers.Nodup) {ranks : Peer → Peer → Prop} (hl : l.Pairwise fun a b => ranks a.2 b.2)
    {k : Nat} (hk : k ≤ peers.length) {c : Nat × Peer} (hc : c ∈ l.drop k) :
    ∃ S : List (Nat × Peer), S.Nodup ∧ S.length = k ∧ ∀ x ∈ S, x ∈ peers ∧ x ≠ c ∧ ranks x.2 c.2 := by
  have hnd' : (l.take k ++ l.drop k).Nodup := by
    rw [List.take_append_drop]; exact hperm.nodup_iff.2 hnd
  have hord : (l.take k ++ l.drop k).Pairwise fun a b => ranks a.2 b.2 := by
    rw [List.take_append_drop]; exact hl
  replace hord := List.pairwise_append.1 hord
  refine ⟨l.take k, (List.nodup_append.1 hnd').1, by simp [hperm.length_eq, hk],
    fun x hx => ⟨hperm.subset (List.mem_of_mem_take hx), ?_, hord.2.2 x hx c hc⟩⟩
  rintro rfl
  exact (List.nodup_append.1 hnd').2.2 hx hc

/-- A session a protection keeps is outranked by the `protectedCount n ratio` it drops, in any
transitive order its comparator agrees with on the sessions. -/
theorem outranked_of_mem_protect {peers : List (Nat × Peer)} (hnd : peers.Nodup)
    {category : ProtectionCategory} {ratio : ℚ} (hpos : 0 < ratio) (h1 : ratio ≤ 1) {asc : Bool}
    (ranks : Peer → Peer → Prop) (htrans : ∀ x y z, ranks x y → ranks y z → ranks x z)
    (hr : ∀ a ∈ peers, ∀ b ∈ peers, sortsBefore category asc a b → ranks a.2 b.2)
    (hnr : ∀ a ∈ peers, ∀ b ∈ peers, sortsBefore category asc a b = false → ranks b.2 a.2)
    {c : Nat × Peer} (hc : c ∈ protect peers category ratio asc) :
    Outranked peers ratio c ranks := by
  simp only [protect, ne_eq, hpos.ne', not_false_eq_true, if_true, filterPeersByCategory,
    gt_iff_lt, not_lt.2 h1, not_lt.2 hpos.le, or_self, if_false] at hc
  obtain ⟨S, hS, hlen, hx⟩ := outranked_of_mem_drop (perm_sortBy _ peers) hnd
    (pairwise_sortBy _ (fun x y z => htrans x.2 y.2 z.2) hr hnr) (sliceStart_le _ _) hc
  exact ⟨S, hS, hlen.ge, hx⟩

/-- A protection keeps no session twice. -/
theorem nodup_protect {peers : List (Nat × Peer)} (hnd : peers.Nodup)
    (category : ProtectionCategory) (ratio : ℚ) (asc : Bool) :
    (protect peers category ratio asc).Nodup := by
  unfold protect filterPeersByCategory
  split_ifs
  all_goals try dsimp only
  all_goals first
    | exact hnd
    | exact ((perm_sortBy _ peers).nodup_iff.2 hnd).sublist (List.drop_sublist _ _)

/-- The law of an ascending protection on a count: latency, connect time. -/
theorem outranked_asc {peers : List (Nat × Peer)} (hnd : peers.Nodup)
    {category : ProtectionCategory} (f : Peer → Nat)
    (hf : ∀ a b, categoryGt category a b = decide (f b < f a)) {ratio : ℚ} (hpos : 0 < ratio)
    (h1 : ratio ≤ 1) {c : Nat × Peer} (hc : c ∈ protect peers category ratio true) :
    Outranked peers ratio c fun x c => f x ≤ f c :=
  outranked_of_mem_protect hnd hpos h1 (fun x c => f x ≤ f c) (fun _ _ _ => le_trans)
    (fun a _ b _ h => by simpa [sortsBefore, hf] using h)
    (fun a _ b _ h => by simp only [sortsBefore, hf] at h; simp at h; exact h.le) hc

/-- The law of the descending protection on the response rate, when no rate is `NaN`. -/
theorem outranked_responseRate {peers : List (Nat × Peer)} (hnd : peers.Nodup)
    (hnan : ∀ e ∈ peers, e.2.productivity.responseRate ≠ .nan) {ratio : ℚ} (hpos : 0 < ratio)
    (h1 : ratio ≤ 1) {c : Nat × Peer} (hc : c ∈ protect peers .responseRate ratio false) :
    Outranked peers ratio c fun x c =>
      x.productivity.responseRate.ge c.productivity.responseRate = true :=
  outranked_of_mem_protect hnd hpos h1
    (fun x c => x.productivity.responseRate.ge c.productivity.responseRate = true)
    (fun _ _ _ => JsNumber.ge_trans)
    (fun a _ b _ h => JsNumber.ge_of_gt (by simpa [sortsBefore, categoryGt] using h))
    (fun a ha b hb h => JsNumber.ge_of_not_gt (hnan a ha) (hnan b hb)
      (by simpa [sortsBefore, categoryGt] using h)) hc

/-! ### The sessions the cascade starts from -/

/-- In a keyed pool, no session is listed twice. -/
theorem Keyed.nodup_getPeers {P : PeerPool} (hk : P.Keyed) (kind : PeerKind) :
    (P.getPeers kind).Nodup := by
  have hentry : ∀ x ∈ (P.peerMap kind).entries, ∃ p, P.session? x.2 = some p ∧ p.id = x.1 :=
    fun x hx => by
      obtain ⟨p, hp, hid, -⟩ := hk kind x.1 x.2 ((JsMap.get?_eq_some_iff _ _ _).2 hx)
      exact ⟨p, hp, hid⟩
  have hvalues : ((P.peerMap kind).entries.map Prod.snd).Nodup :=
    ((P.peerMap kind).nodup.of_map Prod.fst).map_on fun x hx y hy hxy => by
      obtain ⟨p, hp, hpx⟩ := hentry x hx
      obtain ⟨q, hq, hqy⟩ := hentry y hy
      rw [hxy, hq] at hp; cases hp
      exact Prod.ext (hpx.symm.trans hqy) hxy
  refine hvalues.filterMap fun a a' b hb hb' => ?_
  obtain ⟨_, -, rfl⟩ := Option.map_eq_some'.1 hb
  obtain ⟨_, -, he⟩ := Option.map_eq_some'.1 hb'
  exact (congrArg Prod.fst he).symm

/-- A session's response rate is never `NaN`. -/
def rateProp : SessionProp where
  holds p := p.productivity.responseRate ≠ .nan
  step p s h := Peer.step_responseRate_ne_nan p s h
  bind _ h := h
  unbind _ h := h
  create _ _ _ _ _ _ _ hp := by obtain ⟨_, rfl⟩ := Peer.create_eq_init hp; exact nofun

/-- In a reachable pool no inbound session has a `NaN` response rate. -/
theorem Reachable.responseRate_ne_nan {P : PeerPool} (hP : P.Reachable) :
    ∀ e ∈ P.getPeers .inbound, e.2.productivity.responseRate ≠ .nan := by
  obtain ⟨config, steps, rfl⟩ := hP
  have h : ((init config).run steps).1.AllSessions rateProp :=
    run_allSessions (init_allSessions config) steps
  exact fun ⟨ref, p⟩ he => h ref p (mem_getPeers he).2

/-- A session `notListed` keeps has an id no listed peer info computes to. -/
theorem notListed_eq_true {list : List PeerInfo} {peer : Peer}
    (h : notListed list peer = .ok true) : ∀ w ∈ list, getPeerIdFromPeerInfo w ≠ .ok peer.id := by
  intro w hw hid
  have hw' := everyE_eq_true h w hw
  simp [hid, bind, Except.bind, pure, Except.pure] at hw'

/-! ### The cascade -/

/-- What the cascade guarantees of a candidate `c` drawn from the non-whitelisted sessions
`peers`, under the latency, productivity and longevity ratios: each stage that ran kept `c`, and
`c` is outranked by the sessions that stage protected. -/
structure CascadeLaw (peers : List (Nat × Peer)) (rl rp rc : ℚ) (c : Nat × Peer) : Prop where
  /-- The latency stage kept `c`. -/
  latency_kept : c ∈ protect peers .latency rl true
  /-- `Math.ceil(n * rl)` other sessions have a latency at most `c`'s. -/
  latency : 0 < rl → Outranked peers rl c fun x c => x.latency ≤ c.latency
  /-- The productivity stage, run on more than one session, kept `c`. -/
  responseRate_kept : 1 < (protect peers .latency rl true).length →
    c ∈ protect (protect peers .latency rl true) .responseRate rp false
  /-- `Math.ceil(m * rp)` other sessions of that stage have a response rate `>=` `c`'s. -/
  responseRate : 1 < (protect peers .latency rl true).length → 0 < rp →
    Outranked (protect peers .latency rl true) rp c fun x c =>
      x.productivity.responseRate.ge c.productivity.responseRate = true
  /-- The longevity stage, run on more than one session, kept `c`. -/
  connectTime_kept : 1 < (protect peers .latency rl true).length →
    1 < (protect (protect peers .latency rl true) .responseRate rp false).length →
    c ∈ protect (protect (protect peers .latency rl true) .responseRate rp false) .connectTime rc true
  /-- `Math.ceil(k * rc)` other sessions of that stage have a connect time at most `c`'s. -/
  connectTime : 1 < (protect peers .latency rl true).length →
    1 < (protect (protect peers .latency rl true) .responseRate rp false).length → 0 < rc →
    Outranked (protect (protect peers .latency rl true) .responseRate rp false) rc c
      fun x c => x.ident.connectTime ≤ c.ident.connectTime

/-- A session every stage that ran kept is outranked at each, when the ratios are at most 1. -/
theorem cascadeLaw_of_kept {peers : List (Nat × Peer)} (hnd : peers.Nodup)
    (hnan : ∀ e ∈ peers, e.2.productivity.responseRate ≠ .nan) {rl rp rc : ℚ} (hl : rl ≤ 1)
    (hp : rp ≤ 1) (hc : rc ≤ 1) {c : Nat × Peer} (hL : c ∈ protect peers .latency rl true)
    (hR : 1 < (protect peers .latency rl true).length →
      c ∈ protect (protect peers .latency rl true) .responseRate rp false)
    (hC : 1 < (protect peers .latency rl true).length →
      1 < (protect (protect peers .latency rl true) .responseRate rp false).length →
      c ∈ protect (protect (protect peers .latency rl true) .responseRate rp false) .connectTime rc
        true) :
    CascadeLaw peers rl rp rc c := by
  have hndL := nodup_protect hnd .latency rl true
  refine ⟨hL, fun hpos => outranked_asc hnd Peer.latency (by intros; rfl) hpos hl hL, hR,
    fun h hpos => outranked_responseRate hndL (fun e he => hnan e (mem_protect he)) hpos hp (hR h),
    hC, fun h h' hpos => ?_⟩
  exact outranked_asc (nodup_protect hndL .responseRate rp false) (·.ident.connectTime)
    (by intros; rfl) hpos hc (hC h h')

/-- Every candidate of `_selectPeersForEviction` is a non-whitelisted inbound session that the
stages that ran kept, and that each outranks by the sessions it protected. -/
theorem selectPeersForEviction_law {P : PeerPool} (hk : P.Keyed)
    (hnan : ∀ e ∈ P.getPeers .inbound, e.2.productivity.responseRate ≠ .nan)
    (hl : P.config.latencyProtectionRatio ≤ 1) (hp : P.config.productivityProtectionRatio ≤ 1)
    (hc : P.config.longevityProtectionRatio ≤ 1) {cs : List (Nat × Peer)}
    (hsel : P.selectPeersForEviction = .ok cs) {c : Nat × Peer} (hcs : c ∈ cs) :
    ∃ peers, filterE (fun e : Nat × Peer => notListed P.config.whitelisted e.2)
        (P.getPeers .inbound) = .ok peers ∧ c ∈ peers ∧
      (∀ w ∈ P.config.whitelisted, getPeerIdFromPeerInfo w ≠ .ok c.2.id) ∧
      CascadeLaw peers P.config.latencyProtectionRatio P.config.productivityProtectionRatio
        P.config.longevityProtectionRatio c := by
  unfold selectPeersForEviction at hsel
  cases hf : filterE (fun e : Nat × Peer => notListed P.config.whitelisted e.2)
      (P.getPeers .inbound) with
  | error error => rw [hf] at hsel; cases hsel
  | ok peers =>
    rw [hf] at hsel
    simp only [bind, Except.bind, pure, Except.pure] at hsel
    have hsub := filterE_sublist _ _ _ hf
    -- the stages that ran kept `c`
    have hkept : c ∈ protect peers .latency P.config.latencyProtectionRatio true ∧
        (1 < (protect peers .latency P.config.latencyProtectionRatio true).length →
          c ∈ protect (protect peers .latency P.config.latencyProtectionRatio true) .responseRate
            P.config.productivityProtectionRatio false) ∧
        (1 < (protect peers .latency P.config.latencyProtectionRatio true).length →
          1 < (protect (protect peers .latency P.config.latencyProtectionRatio true) .responseRate
            P.config.productivityProtectionRatio false).length →
          c ∈ protect (protect (protect peers .latency P.config.latencyProtectionRatio true)
            .responseRate P.config.productivityProtectionRatio false) .connectTime
            P.config.longevityProtectionRatio true) := by
      split at hsel
      · cases hsel
        exact ⟨hcs, fun h => absurd h (by omega), fun h => absurd h (by omega)⟩
      · split at hsel <;> cases hsel
        · exact ⟨mem_protect hcs, fun _ => hcs, fun _ h => absurd h (by omega)⟩
        · exact ⟨mem_protect (mem_protect hcs), fun _ => mem_protect hcs, fun _ _ => hcs⟩
    have hpeers : c ∈ peers := mem_protect hkept.1
    exact ⟨peers, rfl, hpeers, notListed_eq_true (filterE_mem hf hpeers),
      cascadeLaw_of_kept ((hk.nodup_getPeers .inbound).sublist hsub)
        (fun e he => hnan e (hsub.subset he)) hl hp hc hkept.1 hkept.2.1 hkept.2.2⟩

/-! ### The eviction -/

/-- `_evictPeer(INBOUND)` leaves the outbound map, and removes from the inbound map the entry of
one candidate of `_selectPeersForEviction`, or nothing. -/
theorem evictPeer_inbound {P : PeerPool} (hk : P.Keyed) (choice : Nat) :
    (P.evictPeer .inbound choice).pool.peerMap .outbound = P.peerMap .outbound ∧
      ((P.evictPeer .inbound choice).pool.peerMap .inbound = P.peerMap .inbound ∨
        ∃ cs, P.selectPeersForEviction = .ok cs ∧ ∃ c ∈ cs,
          (P.peerMap .inbound).get? c.2.id = some c.1 ∧
          (P.evictPeer .inbound choice).pool.peerMap .inbound = (P.peerMap .inbound).erase c.2.id) := by
  unfold evictPeer
  split
  · exact ⟨rfl, .inl rfl⟩
  · split
    · exact ⟨rfl, .inl rfl⟩
    · next cs hcs =>
      split
      · next ref peer hsh =>
        have hmem := shuffleFirst_mem _ _ _ hsh
        obtain ⟨⟨key, hkey⟩, hp⟩ := mem_getPeers (mem_evictionCandidates hcs hmem)
        obtain ⟨q, hq, hid, -⟩ := hk .inbound key ref hkey
        rw [hp] at hq; cases hq
        exact ⟨by simp, .inr ⟨cs, hcs, (ref, peer), hmem, hid ▸ hkey, by simp⟩⟩
      · exact ⟨rfl, .inl rfl⟩

/-- `_evictPeer(OUTBOUND)` never removes the entry under a fixed peer's id. -/
theorem evictPeer_outbound_keeps_fixed (P : PeerPool) (choice : Nat) {f : PeerInfo}
    (hf : f ∈ P.config.fixedPeers) {id : PeerId} (hid : getPeerIdFromPeerInfo f = .ok id) :
    ((P.evictPeer .outbound choice).pool.peerMap .outbound).get? id =
      (P.peerMap .outbound).get? id := by
  unfold evictPeer
  split
  · rfl
  · split
    · rfl
    · next cs hcs =>
      split
      · next ref peer hsh =>
        simp only [evictionCandidates] at hcs
        have hne : id ≠ peer.id := fun h =>
          notListed_eq_true (filterE_mem hcs (shuffleFirst_mem _ _ _ hsh)) f hf (h ▸ hid)
        simp [hne]
      · rfl

/-! ### The law of eviction -/

/-- What `_selectPeersForEviction` and `_evictPeer` guarantee of a pool. -/
structure EvictionLaw (P : PeerPool) : Prop where
  /-- Every candidate is a non-whitelisted inbound session that the cascade kept and that
  each stage that ran outranks by the sessions it protected. -/
  candidates : ∀ cs, P.selectPeersForEviction = .ok cs → ∀ c ∈ cs,
    ∃ peers, filterE (fun e : Nat × Peer => notListed P.config.whitelisted e.2)
        (P.getPeers .inbound) = .ok peers ∧ c ∈ peers ∧
      (∀ w ∈ P.config.whitelisted, getPeerIdFromPeerInfo w ≠ .ok c.2.id) ∧
      CascadeLaw peers P.config.latencyProtectionRatio P.config.productivityProtectionRatio
        P.config.longevityProtectionRatio c
  /-- `_evictPeer(INBOUND)` removes the entry of one candidate, or nothing, and no outbound
  entry. -/
  inbound : ∀ choice, (P.evictPeer .inbound choice).pool.peerMap .outbound = P.peerMap .outbound ∧
    ((P.evictPeer .inbound choice).pool.peerMap .inbound = P.peerMap .inbound ∨
      ∃ cs, P.selectPeersForEviction = .ok cs ∧ ∃ c ∈ cs,
        (P.peerMap .inbound).get? c.2.id = some c.1 ∧
        (P.evictPeer .inbound choice).pool.peerMap .inbound = (P.peerMap .inbound).erase c.2.id)
  /-- `_evictPeer(OUTBOUND)` keeps the entry under every fixed peer's id. -/
  outbound : ∀ choice, ∀ f ∈ P.config.fixedPeers, ∀ id, getPeerIdFromPeerInfo f = .ok id →
    ((P.evictPeer .outbound choice).pool.peerMap .outbound).get? id =
      (P.peerMap .outbound).get? id

/-- In a pool whose entries hold the sessions of their own ids and whose inbound response rates
are not `NaN`, as in every pool a run reaches, with ratios at most 1, eviction keeps its law:
every candidate is non-whitelisted and outranked at each stage that ran by the sessions that
stage protected, `_evictPeer(INBOUND)` removes only a candidate's entry, and
`_evictPeer(OUTBOUND)` never the entry under a fixed peer's id. -/
theorem evictionLaw_of_keyed {P : PeerPool} (hk : P.Keyed)
    (hnan : ∀ e ∈ P.getPeers .inbound, e.2.productivity.responseRate ≠ .nan)
    (hl : P.config.latencyProtectionRatio ≤ 1) (hp : P.config.productivityProtectionRatio ≤ 1)
    (hc : P.config.longevityProtectionRatio ≤ 1) : P.EvictionLaw :=
  ⟨fun _ hsel _ hcs => selectPeersForEviction_law hk hnan hl hp hc hsel hcs,
    evictPeer_inbound hk, fun choice _ hf _ hid => evictPeer_outbound_keeps_fixed P choice hf hid⟩

/-- Two inbound sessions, `1.2.3.4:5000` then `1.2.3.5:5000`, in a pool with a productivity
ratio of one half and the other ratios 0. -/
def twoInboundPool : PeerPool :=
  ((init ⟨⟨1000, 100, 10⟩, 20, 20, 0, ⟨1, 2, by decide, by decide⟩, 0, [], []⟩).run
    [.addInboundPeer { ipAddress := "1.2.3.4", wsPort := 5000 } {} 0 0,
      .addInboundPeer { ipAddress := "1.2.3.5", wsPort := 5000 } {} 0 0]).1

/-- `twoInboundPool` meets every hypothesis of the eviction law, which then holds of it. -/
theorem evictionLaw_two_inbound :
    twoInboundPool.Keyed ∧
      (∀ e ∈ twoInboundPool.getPeers .inbound, e.2.productivity.responseRate ≠ .nan) ∧
      twoInboundPool.config.latencyProtectionRatio ≤ 1 ∧
      twoInboundPool.config.productivityProtectionRatio ≤ 1 ∧
      twoInboundPool.config.longevityProtectionRatio ≤ 1 ∧ twoInboundPool.EvictionLaw :=
  have hR : twoInboundPool.Reachable := ⟨_, _, rfl⟩
  ⟨hR.keyed_activeInv.1, hR.responseRate_ne_nan, by decide, by decide, by decide,
    evictionLaw_of_keyed hR.keyed_activeInv.1 hR.responseRate_ne_nan (by decide) (by decide)
      (by decide)⟩

/-- Five inbound sessions, connected at times 1 to 5, in a pool whose one protection is by
longevity, with the ratio `0.2` as a double: `3602879701896397 / 2^54`, a little above `1/5`. -/
def fiveInboundPool : PeerPool :=
  ((init ⟨⟨1000, 100, 10⟩, 20, 20, 0, 0, mkRat 3602879701896397 (2 ^ 54), [], []⟩).run
    [.addInboundPeer { ipAddress := "1.2.3.1", wsPort := 5000 } {} 1 0,
      .addInboundPeer { ipAddress := "1.2.3.2", wsPort := 5000 } {} 2 0,
      .addInboundPeer { ipAddress := "1.2.3.3", wsPort := 5000 } {} 3 0,
      .addInboundPeer { ipAddress := "1.2.3.4", wsPort := 5000 } {} 4 0,
      .addInboundPeer { ipAddress := "1.2.3.5", wsPort := 5000 } {} 5 0]).1

/-- The longevity protection of `fiveInboundPool` drops `Math.ceil(5 * 0.2)`: the product
rounds to `1`, though `⌈5 * r⌉ = 2` for the ratio `r` the pool holds. A candidate, the session
connected at time 2, has one other session connected no later. -/
theorem selectPeersForEviction_protects_rounded_count :
    fiveInboundPool.Reachable ∧ fiveInboundPool.config.whitelisted = [] ∧
      fiveInboundPool.config.latencyProtectionRatio = 0 ∧
      fiveInboundPool.config.productivityProtectionRatio = 0 ∧
      (fiveInboundPool.getPeers .inbound).length = 5 ∧
      ⌈(5 : ℚ) * fiveInboundPool.config.longevityProtectionRatio⌉ = 2 ∧
      protectedCount 5 fiveInboundPool.config.longevityProtectionRatio = 1 ∧
      ∃ c ∈ fiveInboundPool.selectPeersForEviction.toOption.getD [],
        ((fiveInboundPool.getPeers .inbound).filter fun x =>
          x.1 ≠ c.1 ∧ x.2.ident.connectTime ≤ c.2.ident.connectTime).length = 1 := by
  refine ⟨⟨_, _, rfl⟩, rfl, rfl, rfl, by decide, ?_, by decide, by decide⟩
  rw [show fiveInboundPool.config.longevityProtectionRatio = mkRat 3602879701896397 (2 ^ 54)
    from rfl, Rat.mkRat_eq_div, Int.ceil_eq_iff]
  norm_num

end PeerPool

end Lp2p
