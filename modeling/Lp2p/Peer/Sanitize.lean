import Lp2p.Address.PeerId
import Lp2p.Js.Array

/-!
# Sanitising peer infos and the configured peer lists

`sanitizePeerInfo` (`src/unnamed/part_001:204–210`) replaces the address of a peer info by the
text `normalizeAddress` returns and keeps the other fields. `sanitizePeerLists` (lines 212–280)
sanitises the seed, fixed, whitelisted and previous peers; it drops from each list the entries
whose sanitised address is written, as a text, in `blacklistedIPs`, and from the whitelist the
entries with the id of a kept fixed or seed peer. Its `nodeInfo` argument is not read.

A sanitised address text is normalised again to itself, so the id of a sanitised peer info is
always computed and the filter of the whitelist cannot throw: `sanitizePeerLists` is the
sanitising of the four lists followed by plain filters (`sanitizePeerLists_eq`).
-/

namespace Lp2p

open Lp2p.Js Lp2p.Address

/-- `sanitizePeerInfo`, `src/unnamed/part_001:204–210`. -/
def sanitizePeerInfo (peerInfo : PeerInfo) : Except JsError PeerInfo :=
  (normalizeAddress peerInfo.ipAddress).map fun normalized =>
    { peerInfo with ipAddress := normalized.address }

/-- The lists `sanitizePeerLists` reads. -/
structure PeerLists where
  seedPeers : List PeerInfo
  fixedPeers : List PeerInfo
  whitelisted : List PeerInfo
  previousPeers : List PeerInfo
  blacklistedIPs : List String
  deriving DecidableEq, Repr

/-- The lists `sanitizePeerLists` returns. -/
structure SanitizedPeerLists where
  seedPeers : List PeerInfo
  fixedPeers : List PeerInfo
  whitelisted : List PeerInfo
  previousPeers : List PeerInfo
  deriving DecidableEq, Repr

/-- The filter of the seed, fixed and previous peers: the address is not in the blacklist. -/
def notBlacklisted (blacklistedIPs : List String) (peerInfo : PeerInfo) : Bool :=
  !blacklistedIPs.contains peerInfo.ipAddress

/-- The filter of the whitelist, `src/unnamed/part_001:228–252`: not blacklisted, not the id
of a fixed peer, not the id of a seed peer. -/
def keepWhitelisted (blacklistedIPs : List String) (fixedPeers seedPeers : List PeerInfo)
    (peerInfo : PeerInfo) : Except JsError Bool :=
  if blacklistedIPs.contains peerInfo.ipAddress then .ok false
  else do
    let fixedIds ← fixedPeers.mapM getPeerIdFromPeerInfo
    let peerId ← getPeerIdFromPeerInfo peerInfo
    if fixedIds.contains peerId then pure false
    else do
      let seedIds ← seedPeers.mapM getPeerIdFromPeerInfo
      let peerId ← getPeerIdFromPeerInfo peerInfo
      pure (!seedIds.contains peerId)

/-- `sanitizePeerLists`, `src/unnamed/part_001:212–280`. -/
def sanitizePeerLists (lists : PeerLists) : Except JsError SanitizedPeerLists := do
  let blacklistedIPs := lists.blacklistedIPs
  let seedPeers :=
    (← lists.seedPeers.mapM sanitizePeerInfo).filter (notBlacklisted blacklistedIPs)
  let fixedPeers :=
    (← lists.fixedPeers.mapM sanitizePeerInfo).filter (notBlacklisted blacklistedIPs)
  let whitelisted ← filterE (keepWhitelisted blacklistedIPs fixedPeers seedPeers)
    (← lists.whitelisted.mapM sanitizePeerInfo)
  let previousPeers :=
    (← lists.previousPeers.mapM sanitizePeerInfo).filter (notBlacklisted blacklistedIPs)
  pure { seedPeers, fixedPeers, whitelisted, previousPeers }

/-! ## The filters cannot throw -/

/-- What `sanitizePeerInfo` returns: the peer info with the address text `normalizeAddress`
returns. -/
theorem sanitizePeerInfo_ok {p q : PeerInfo} (h : sanitizePeerInfo p = .ok q) :
    ∃ r, normalizeAddress p.ipAddress = .ok r ∧ q = { p with ipAddress := r.address } := by
  unfold sanitizePeerInfo at h
  cases hn : normalizeAddress p.ipAddress with
  | error e => rw [hn] at h; cases h
  | ok r =>
    rw [hn] at h
    simp only [Except.map, Except.ok.injEq] at h
    exact ⟨r, rfl, h.symm⟩

/-- A sanitised address text is normalised again to itself. -/
theorem normalizeAddress_sanitized {p q : PeerInfo} (h : sanitizePeerInfo p = .ok q) :
    ∃ protocol, normalizeAddress q.ipAddress = .ok ⟨protocol, q.ipAddress⟩ := by
  obtain ⟨r, hr, rfl⟩ := sanitizePeerInfo_ok h
  exact ⟨_, normalizeAddress_twice hr⟩

/-- A sanitised peer info has an id. -/
theorem getPeerIdFromPeerInfo_sanitized {p q : PeerInfo} (h : sanitizePeerInfo p = .ok q) :
    ∃ peerId, getPeerIdFromPeerInfo q = .ok peerId := by
  obtain ⟨protocol, hn⟩ := normalizeAddress_sanitized h
  simp only [getPeerIdFromPeerInfo, hn, bind, Except.bind]
  cases protocol <;> exact ⟨_, rfl⟩

/-- Every peer info of a sanitised list has an id. -/
theorem getPeerIdFromPeerInfo_of_mapM {xs ys : List PeerInfo}
    (h : xs.mapM sanitizePeerInfo = .ok ys) :
    ∀ q ∈ ys, ∃ peerId, getPeerIdFromPeerInfo q = .ok peerId := fun q hq =>
  let ⟨_, _, hx⟩ := mapM_ok_mem h q hq
  getPeerIdFromPeerInfo_sanitized hx

/-- The filter of the whitelist on peer infos whose ids are computed without an exception: not
blacklisted, and no id of a kept fixed or seed peer. -/
def whitelistKeeps (blacklistedIPs : List String) (fixedPeers seedPeers : List PeerInfo)
    (peerInfo : PeerInfo) : Bool :=
  notBlacklisted blacklistedIPs peerInfo &&
    !(fixedPeers.map getPeerIdFromPeerInfo).contains (getPeerIdFromPeerInfo peerInfo) &&
    !(seedPeers.map getPeerIdFromPeerInfo).contains (getPeerIdFromPeerInfo peerInfo)

/-- When every id it computes is computed, `keepWhitelisted` returns `whitelistKeeps`. -/
theorem keepWhitelisted_eq {blacklistedIPs : List String} {fixedPeers seedPeers : List PeerInfo}
    {peerInfo : PeerInfo} (hf : ∀ q ∈ fixedPeers, ∃ peerId, getPeerIdFromPeerInfo q = .ok peerId)
    (hs : ∀ q ∈ seedPeers, ∃ peerId, getPeerIdFromPeerInfo q = .ok peerId)
    (hp : ∃ peerId, getPeerIdFromPeerInfo peerInfo = .ok peerId) :
    keepWhitelisted blacklistedIPs fixedPeers seedPeers peerInfo =
      .ok (whitelistKeeps blacklistedIPs fixedPeers seedPeers peerInfo) := by
  obtain ⟨fixedIds, hfm, hfmap⟩ := mapM_ok_map hf
  obtain ⟨seedIds, hsm, hsmap⟩ := mapM_ok_map hs
  obtain ⟨peerId, hid⟩ := hp
  unfold keepWhitelisted whitelistKeeps notBlacklisted
  simp only [hfm, hsm, hid, hfmap, hsmap, bind, Except.bind, pure, Except.pure]
  by_cases hb : peerInfo.ipAddress ∈ blacklistedIPs <;>
    by_cases hfi : peerId ∈ fixedIds <;> simp [hb, hfi]

/-- `sanitizePeerLists` sanitises the four lists in order, then filters them with filters that
cannot throw: the sanitised address text is not in the blacklist, and a whitelisted peer has no
id of a kept fixed or seed peer. Only `normalizeAddress` on an input address throws. -/
theorem sanitizePeerLists_eq (lists : PeerLists) :
    sanitizePeerLists lists =
      lists.seedPeers.mapM sanitizePeerInfo >>= fun seedPeers =>
      lists.fixedPeers.mapM sanitizePeerInfo >>= fun fixedPeers =>
      lists.whitelisted.mapM sanitizePeerInfo >>= fun whitelisted =>
      lists.previousPeers.mapM sanitizePeerInfo >>= fun previousPeers =>
      pure { seedPeers := seedPeers.filter (notBlacklisted lists.blacklistedIPs)
             fixedPeers := fixedPeers.filter (notBlacklisted lists.blacklistedIPs)
             whitelisted := whitelisted.filter (whitelistKeeps lists.blacklistedIPs
               (fixedPeers.filter (notBlacklisted lists.blacklistedIPs))
               (seedPeers.filter (notBlacklisted lists.blacklistedIPs)))
             previousPeers := previousPeers.filter (notBlacklisted lists.blacklistedIPs) } := by
  unfold sanitizePeerLists
  cases hs : lists.seedPeers.mapM sanitizePeerInfo with
  | error e => rfl
  | ok seedPeers =>
    cases hf : lists.fixedPeers.mapM sanitizePeerInfo with
    | error e => rfl
    | ok fixedPeers =>
      cases hw : lists.whitelisted.mapM sanitizePeerInfo with
      | error e => rfl
      | ok whitelisted =>
        have hkeep := filterE_of_ok _ (whitelistKeeps lists.blacklistedIPs
          (fixedPeers.filter (notBlacklisted lists.blacklistedIPs))
          (seedPeers.filter (notBlacklisted lists.blacklistedIPs))) whitelisted fun p hp =>
            keepWhitelisted_eq
              (fun q hq => getPeerIdFromPeerInfo_of_mapM hf q (List.mem_of_mem_filter hq))
              (fun q hq => getPeerIdFromPeerInfo_of_mapM hs q (List.mem_of_mem_filter hq))
              (getPeerIdFromPeerInfo_of_mapM hw p hp)
        simp only [bind, Except.bind, hkeep]

/-! ## Sanitising twice -/

/-- A text whose groups are fewer than eight, with a dotted quad for the last two, is printed
as an IPv6 text of seven groups, which `net.isIPv6` rejects. Sanitising it again makes it an
IPv4 text, and its id changes: the id of the sanitised peer info is not the id of the peer
info. -/
theorem sanitizePeerInfo_changes_id :
    isIPv6 "1:2:3:4:5:6:1.2.3.4" = true ∧
      normalizeAddress "1:2:3:4:5:6:1.2.3.4" = .ok ⟨.ipv6, "1:2:3:4:5:6:1"⟩ ∧
      normalizeAddress "1:2:3:4:5:6:1" = .ok ⟨.ipv4, "1:2:3:4:5:6:1"⟩ ∧
      getPeerIdFromPeerInfo { ipAddress := "1:2:3:4:5:6:1.2.3.4", wsPort := 5000 } =
        .ok "[1:2:3:4:5:6:1]:5000" ∧
      ((sanitizePeerInfo { ipAddress := "1:2:3:4:5:6:1.2.3.4", wsPort := 5000 }).bind
        getPeerIdFromPeerInfo) = .ok "1:2:3:4:5:6:1:5000" := by
  decide

/-! ## Addresses that throw -/

/-- `1:2:3:4:5:6:7::` is an IPv6 text with eight colons. `':'.repeat(-1)` throws in
`normalizeIPv6Address`, so every function that normalises it throws a `RangeError`: for every
port, secret, peer type, bucket count and hash. -/
theorem eight_colons_throw (wsPort : Nat) (hash : Bytes → Bytes) {secret : Nat}
    (hs : secret < 2 ^ 32) (peerType : PeerType) (bucketCount : Nat) :
    isIPv6 "1:2:3:4:5:6:7::" = true ∧
      normalizeAddress "1:2:3:4:5:6:7::" = .error (.error "RangeError" "Invalid count value: -1") ∧
      getNetwork "1:2:3:4:5:6:7::" = .error (.error "RangeError" "Invalid count value: -1") ∧
      getPeerIdFromPeerInfo { ipAddress := "1:2:3:4:5:6:7::", wsPort } =
        .error (.error "RangeError" "Invalid count value: -1") ∧
      sanitizePeerInfo { ipAddress := "1:2:3:4:5:6:7::", wsPort } =
        .error (.error "RangeError" "Invalid count value: -1") ∧
      getBucketId hash ⟨secret, "1:2:3:4:5:6:7::", peerType, bucketCount⟩ =
        .error (.error "RangeError" "Invalid count value: -1") := by
  have hn : normalizeAddress "1:2:3:4:5:6:7::" =
      .error (.error "RangeError" "Invalid count value: -1") := by decide
  have hg : getNetwork "1:2:3:4:5:6:7::" =
      .error (.error "RangeError" "Invalid count value: -1") := by decide
  refine ⟨by decide, hn, hg, ?_, ?_, ?_⟩
  · simp only [getPeerIdFromPeerInfo, hn]
    rfl
  · simp only [sanitizePeerInfo, hn]
    rfl
  · simp only [getBucketId, writeUInt32BE_of_lt hs, hg]
    rfl

/-- The same with a secret, to show the hypothesis holds. -/
theorem eight_colons_throw_secret :
    (1 : Nat) < 2 ^ 32 ∧
      getBucketId id ⟨1, "1:2:3:4:5:6:7::", .newPeer, 16⟩ =
        .error (.error "RangeError" "Invalid count value: -1") :=
  ⟨by decide, (eight_colons_throw 5000 id (by decide) .newPeer 16).2.2.2.2.2⟩

/-! ## The blacklist -/

/-- The blacklist is compared with the sanitised address as a text: `::1` is blacklisted, yet
the seed peer at `::1` is kept, as `0:0:0:0:0:0:0:1`, which denotes the same address. -/
theorem sanitizePeerLists_keeps_blacklisted_address :
    sanitizePeerLists ⟨[{ ipAddress := "::1", wsPort := 5000 }], [], [], [], ["::1"]⟩ =
      .ok ⟨[{ ipAddress := "0:0:0:0:0:0:0:1", wsPort := 5000 }], [], [], []⟩ ∧
      ipv6Value "0:0:0:0:0:0:0:1".data = ipv6Value "::1".data := by
  decide

end Lp2p
