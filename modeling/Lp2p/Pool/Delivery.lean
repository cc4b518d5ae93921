import Lp2p.Pool.Identity
import Lp2p.Pool.Quota
import Lp2p.Pool.Reachable
import Lp2p.Peer.Socket

/-!
# What `send`, `request` and `applyNodeInfo` reach

`send` and `request` hand the application's selection function the peer info of every session
under an entry, outbound first, each with its kind (`src/peer_pool.js:224–231,252–259`), and
reach a selected peer through `outboundPeerMap.get(id) || inboundPeerMap.get(id)`
(`src/peer_pool.js:277–298`). In every pool a run reaches, the id of an offered peer info is
the id of its session, so every peer the selection picks from what it was offered is reached:
`send` throws nothing, sends once per selected entry, and reports a failure only for an inbound
session without a socket. A peer connected both ways is offered twice, once per session, and
both entries reach its outbound session: its inbound session is never sent to.

`applyNodeInfo` pushes the node info to every session under an entry, once each, outbound
first (`src/peer_pool.js:208–214,542–551`), and reports each push that throws.
-/

namespace Lp2p

open Lp2p.Js Lp2p.Address

namespace Peer

/-- A session's peer info names the session. -/
theorem peerInfo_id {p : Peer} (h : identityProp.holds p) :
    getPeerIdFromPeerInfo p.peerInfo = .ok p.id := by
  obtain ⟨⟨hid, hip, hport⟩, ha⟩ := h
  rw [← getPeerIdFromPeerInfo_address, ha.1, ha.2, hip, hport, getPeerIdFromPeerInfo_address, hid]

end Peer

namespace PeerPool

/-- The list `send` and `request` hand the selection function, `src/peer_pool.js:225–231,
253–259`: the peer info of the session under every entry, outbound first, with its kind. -/
def listOfPeerInfo (P : PeerPool) : List (PeerInfo × PeerKind) :=
  (P.getPeers .outbound ++ P.getPeers .inbound).map fun e => (e.2.peerInfo, e.2.kind)

/-- The entry a selected peer info reaches: `sendToPeer` and `requestFromPeer` look its id up,
outbound first. -/
def reach (P : PeerPool) (peerInfo : PeerInfo) : Option Nat :=
  match getPeerIdFromPeerInfo peerInfo with
  | .ok peerId => P.getPeer peerId
  | .error _ => none

/-- Whether `send` reports a failure for a selected peer info: the session it reaches cannot
send. -/
def sendFails (P : PeerPool) (peerInfo : PeerInfo) : Bool :=
  ((P.reach peerInfo).bind P.session?).any (!·.canSend)

/-- In a keyed pool, the session `getPeer` finds has the id looked up. -/
theorem Keyed.session_of_getPeer {P : PeerPool} (hk : P.Keyed) {peerId : PeerId} {ref : Nat}
    (h : P.getPeer peerId = some ref) : ∃ p, P.session? ref = some p ∧ p.id = peerId := by
  unfold getPeer at h
  cases ho : P.outboundPeerMap.get? peerId with
  | some r =>
    simp only [ho, Option.some_orElse, Option.some.injEq] at h
    subst h
    obtain ⟨p, hp, hid, -⟩ := hk .outbound peerId r ho
    exact ⟨p, hp, hid⟩
  | none =>
    simp only [ho, Option.none_orElse] at h
    obtain ⟨p, hp, hid, -⟩ := hk .inbound peerId ref h
    exact ⟨p, hp, hid⟩

/-- In a keyed pool whose sessions keep their identity, every peer info offered to the
selection reaches a session. -/
theorem reach_of_offered {P : PeerPool} (hk : P.Keyed) (hid : P.AllSessions identityProp)
    {peerInfo : PeerInfo} (h : peerInfo ∈ P.listOfPeerInfo.map Prod.fst) :
    ∃ ref p, P.reach peerInfo = some ref ∧ P.session? ref = some p := by
  simp only [listOfPeerInfo, List.map_map, List.mem_map, Function.comp_def] at h
  obtain ⟨⟨ref0, q⟩, he, rfl⟩ := h
  obtain ⟨kind, key, hkey, hq⟩ : ∃ kind key,
      (P.peerMap kind).get? key = some ref0 ∧ P.session? ref0 = some q := by
    rcases List.mem_append.1 he with he | he <;> obtain ⟨⟨key, hkey⟩, hq⟩ := mem_getPeers he
    exacts [⟨_, key, hkey, hq⟩, ⟨_, key, hkey, hq⟩]
  obtain ⟨q', hq', rfl, -⟩ := hk kind key ref0 hkey
  rw [hq] at hq'; cases hq'
  have hfind : (P.getPeer q.id).isSome := by
    unfold getPeer
    cases kind
    · cases P.outboundPeerMap.get? q.id <;> simp_all [peerMap]
    · simp_all [peerMap]
  obtain ⟨ref, href⟩ := Option.isSome_iff_exists.1 hfind
  obtain ⟨p, hp, -⟩ := hk.session_of_getPeer href
  exact ⟨ref, p, by simp [reach, Peer.peerInfo_id (hid ref0 q hq), href], hp⟩

/-! ### `send` -/

/-- Replacing a session leaves which position each key reaches. -/
@[simp] theorem reach_setSession (P : PeerPool) (ref : Nat) (q : Peer) :
    (P.setSession ref q).reach = P.reach := rfl

/-- `sendToPeer` on an id that reaches a session: it sends on the session, and throws
`socketDoesNotExist` if the session cannot send. -/
theorem sendToPeer_of_getPeer {P : PeerPool} {peerId : PeerId} {ref : Nat} {p : Peer}
    (href : P.getPeer peerId = some ref) (hp : P.session? ref = some p) :
    P.sendToPeer peerId =
      ⟨P.setSession ref p.send.1, [], if p.canSend then none else some Peer.socketDoesNotExist⟩ := by
  cases h : p.canSend
  · simp [sendToPeer, href, hp, Peer.send_eq_of_canSend_false h]
  · have hq : p.send = (p.send.1, .ok ()) := Prod.ext rfl (Peer.send_ok_of_canSend h)
    simp only [sendToPeer, href, hp]
    rw [hq]
    rfl

/-- Sending on the session at `ref` changes no report of a later `send`. -/
theorem sendFails_setSession_send {P : PeerPool} {ref : Nat} {p : Peer}
    (hp : P.session? ref = some p) : (P.setSession ref p.send.1).sendFails = P.sendFails := by
  funext peerInfo
  simp only [sendFails, reach_setSession]
  cases P.reach peerInfo with
  | none => rfl
  | some r =>
    simp only [Option.some_bind, session?_setSession P ref r p _ hp]
    split
    · next hr => subst hr; simp [hp]
    · rfl

/-- `send` over a selection each of whose entries reaches a session of a keyed pool throws
nothing and changes only sessions: the session at each position is sent on once per entry
that reaches it, and each entry that reaches a session that cannot send is reported, in
order. -/
theorem send_of_reach {P : PeerPool} (hk : P.Keyed) (selected : List PeerInfo)
    (hsel : ∀ peerInfo ∈ selected, ∃ ref p, P.reach peerInfo = some ref ∧ P.session? ref = some p) :
    (P.send selected).error = none ∧
      { (P.send selected).pool with sessions := P.sessions } = P ∧
      (∀ ref, (P.send selected).pool.session? ref =
        (P.session? ref).map (fun q => q.send.1)^[selected.countP (P.reach · = some ref)]) ∧
      (P.send selected).events = (selected.filter P.sendFails).map
        fun _ => .failedToSendMessage Peer.socketDoesNotExist := by
  induction selected generalizing P with
  | nil => exact ⟨rfl, rfl, fun ref => by simp [send, PoolResult.ok], rfl⟩
  | cons peerInfo rest ih =>
    obtain ⟨ref0, p0, hreach, hp0⟩ := hsel peerInfo (.head _)
    obtain ⟨peerId, hid, href⟩ : ∃ peerId, getPeerIdFromPeerInfo peerInfo = .ok peerId ∧
        P.getPeer peerId = some ref0 := by
      unfold reach at hreach
      split at hreach
      · exact ⟨_, ‹_›, hreach⟩
      · cases hreach
    set P1 := P.setSession ref0 p0.send.1
    have hs1 := fun r => session?_setSession P ref0 r p0 p0.send.1 hp0
    have hk1 : P1.Keyed := hk.setSession hp0 (congrArg Peer.Control.ident (Peer.send_control p0))
    obtain ⟨he, hpool, hses, hev⟩ := ih hk1 fun i hi => by
      obtain ⟨r, q, hr, hq⟩ := hsel i (.tail _ hi)
      by_cases h : r = ref0
      · exact ⟨r, p0.send.1, hr, by rw [hs1, if_pos h]⟩
      · exact ⟨r, q, hr, by rw [hs1, if_neg h, hq]⟩
    have hsend : P.send (peerInfo :: rest) = ⟨(P1.send rest).pool,
        (if p0.canSend then [] else [.failedToSendMessage Peer.socketDoesNotExist]) ++
          (P1.send rest).events, (P1.send rest).error⟩ := by
      simp only [send, hid, sendToPeer_of_getPeer href hp0]
      cases p0.canSend <;> rfl
    have hr1 : P1.reach = P.reach := rfl
    rw [hr1] at hses
    rw [hsend]
    refine ⟨he, congrArg (fun Q : PeerPool => { Q with sessions := P.sessions }) hpool,
      fun ref => ?_, ?_⟩
    · rw [hses, hs1, List.countP_cons]
      split
      · next hr => subst hr; simp [hp0, hreach, Function.iterate_succ_apply]
      · next hr => simp [hreach, Ne.symm hr]
    · rw [hev, sendFails_setSession_send hp0, List.filter_cons]
      have hf : P.sendFails peerInfo = !p0.canSend := by simp [sendFails, hreach, hp0]
      cases hc : p0.canSend <;> simp [hf, hc]

/-- Every pool a run reaches has its entries keyed and its sessions' identity kept. -/
theorem Reachable.keyed_identity {P : PeerPool} (hP : P.Reachable) :
    P.Keyed ∧ P.AllSessions identityProp := by
  obtain ⟨config, steps, rfl⟩ := hP
  exact ⟨keyedProp.run (init_keyed config) steps, run_allSessions (init_allSessions config) steps⟩

/-- In every pool a run reaches, `send` over any selection from the peer infos it offers throws
nothing and changes only sessions. The session at each position is sent on once per selected
entry that reaches it, outbound first, and `failedToSendMessage` is emitted, in order, for each
entry whose session cannot send. -/
theorem send_delivers_selected {P : PeerPool} (hP : P.Reachable) (selected : List PeerInfo)
    (hsel : ∀ peerInfo ∈ selected, peerInfo ∈ P.listOfPeerInfo.map Prod.fst) :
    (P.send selected).error = none ∧
      { (P.send selected).pool with sessions := P.sessions } = P ∧
      (∀ ref, (P.send selected).pool.session? ref =
        (P.session? ref).map (fun q => q.send.1)^[selected.countP (P.reach · = some ref)]) ∧
      (P.send selected).events = (selected.filter P.sendFails).map
        fun _ => .failedToSendMessage Peer.socketDoesNotExist :=
  have ⟨hk, hid⟩ := hP.keyed_identity
  send_of_reach hk selected fun peerInfo h => reach_of_offered hk hid (hsel peerInfo h)

/-- `bothMapsPool` holds one peer under both maps; the selection picks both entries offered. -/
theorem send_delivers_selected_both_maps_pool :
    bothMapsPool.Reachable ∧
      (∀ peerInfo ∈ bothMapsPool.listOfPeerInfo.map Prod.fst,
        peerInfo ∈ bothMapsPool.listOfPeerInfo.map Prod.fst) ∧
      (bothMapsPool.send (bothMapsPool.listOfPeerInfo.map Prod.fst)).error = none ∧
      { (bothMapsPool.send (bothMapsPool.listOfPeerInfo.map Prod.fst)).pool with
          sessions := bothMapsPool.sessions } = bothMapsPool ∧
      (∀ ref, (bothMapsPool.send (bothMapsPool.listOfPeerInfo.map Prod.fst)).pool.session? ref =
        (bothMapsPool.session? ref).map (fun q => q.send.1)^[(bothMapsPool.listOfPeerInfo.map
          Prod.fst).countP (bothMapsPool.reach · = some ref)]) ∧
      (bothMapsPool.send (bothMapsPool.listOfPeerInfo.map Prod.fst)).events =
        ((bothMapsPool.listOfPeerInfo.map Prod.fst).filter bothMapsPool.sendFails).map
          fun _ => .failedToSendMessage Peer.socketDoesNotExist :=
  ⟨⟨_, _, rfl⟩, fun _ h => h, send_delivers_selected ⟨_, _, rfl⟩ _ fun _ h => h⟩

/- Both entries reach the outbound session, which makes a socket and sends twice; the inbound
session's socket is left without a call. -/
example : (bothMapsPool.send (bothMapsPool.listOfPeerInfo.map Prod.fst)).pool.sessions.map
    (·.socket.map Socket.calls) =
      [some [.transmit remoteEventMessage, .transmit remoteEventMessage], some []] := by
  decide

/-- In a keyed pool, no peer info reaches an inbound session whose id also has an outbound
entry. -/
theorem reach_ne_of_outbound {P : PeerPool} (hk : P.Keyed) {peerId : PeerId} {ref : Nat}
    (hin : P.inboundPeerMap.get? peerId = some ref) (hout : P.outboundPeerMap.has peerId)
    (peerInfo : PeerInfo) : P.reach peerInfo ≠ some ref := by
  obtain ⟨p, hp, hpid, hpk⟩ := hk .inbound peerId ref hin
  unfold reach getPeer
  split
  · next id _ =>
    cases ho : P.outboundPeerMap.get? id with
    | some r =>
      rintro h
      simp only [ho, Option.some_orElse, Option.some.injEq] at h
      subst h
      obtain ⟨q, hq, -, hqk⟩ := hk .outbound id r ho
      rw [hp] at hq; cases hq
      exact nomatch hpk.symm.trans hqk
    | none =>
      rintro h
      simp only [ho, Option.none_orElse] at h
      obtain ⟨q, hq, hqid, -⟩ := hk .inbound id ref h
      rw [hp] at hq; cases hq
      rw [JsMap.has_eq_isSome, ← hpid, hqid, ho] at hout
      cases hout
  · nofun

/-- In every pool a run reaches, the inbound session of a peer that also has an outbound session
is never sent to: the peer infos offered hold both sessions' infos, and whatever the selection
picks from them, `send` leaves the inbound session as it was. -/
theorem send_skips_inbound_of_outbound {P : PeerPool} (hP : P.Reachable) (selected : List PeerInfo)
    (hsel : ∀ peerInfo ∈ selected, peerInfo ∈ P.listOfPeerInfo.map Prod.fst) {peerId : PeerId}
    {ref : Nat} (hin : P.inboundPeerMap.get? peerId = some ref)
    (hout : P.outboundPeerMap.has peerId) :
    (P.send selected).pool.session? ref = P.session? ref := by
  have ⟨hk, hid⟩ := hP.keyed_identity
  have hzero : selected.countP (P.reach · = some ref) = 0 :=
    List.countP_eq_zero.2 fun i _ => by simpa using reach_ne_of_outbound hk hin hout i
  rw [(send_of_reach hk selected fun i h => reach_of_offered hk hid (hsel i h)).2.2.1, hzero]
  simp

/-- The inbound session of `bothMapsPool`, at position 1, whose peer also has the outbound
session at position 0. -/
theorem send_skips_inbound_of_outbound_both_maps_pool :
    bothMapsPool.Reachable ∧
      (∀ peerInfo ∈ bothMapsPool.listOfPeerInfo.map Prod.fst,
        peerInfo ∈ bothMapsPool.listOfPeerInfo.map Prod.fst) ∧
      bothMapsPool.inboundPeerMap.get? "1.2.3.4:5000" = some 1 ∧
      bothMapsPool.outboundPeerMap.has "1.2.3.4:5000" ∧
      (bothMapsPool.send (bothMapsPool.listOfPeerInfo.map Prod.fst)).pool.session? 1 =
        bothMapsPool.session? 1 :=
  have hin : bothMapsPool.inboundPeerMap.get? "1.2.3.4:5000" = some 1 := by decide
  have hout : bothMapsPool.outboundPeerMap.has "1.2.3.4:5000" := by decide
  ⟨⟨_, _, rfl⟩, fun _ h => h, hin, hout,
    send_skips_inbound_of_outbound ⟨_, _, rfl⟩ _ (fun _ h => h) hin hout⟩

/-! ### `request` -/

/-- In every pool a run reaches, `request` with a selection whose first entry is one of the
peer infos offered throws nothing and emits nothing. It runs `request` on the session that
entry reaches, outbound first, which counts the request and, on its socket, invokes
`rpc-request` with the request in flight; no other session and no map changes. -/
theorem request_reaches_first {P : PeerPool} (hP : P.Reachable) (peerInfo : PeerInfo)
    (rest : List PeerInfo) (procedure : String)
    (hsel : peerInfo ∈ P.listOfPeerInfo.map Prod.fst) :
    ∃ ref p, P.reach peerInfo = some ref ∧ P.session? ref = some p ∧
      P.request (peerInfo :: rest) procedure =
        .ok (P.setSession ref (p.request procedure .application).1) := by
  have ⟨hk, hid⟩ := hP.keyed_identity
  obtain ⟨ref, p, hreach, hp⟩ := reach_of_offered hk hid hsel
  refine ⟨ref, p, hreach, hp, ?_⟩
  unfold reach at hreach
  split at hreach
  · next peerId hpid =>
    simp only [request, hpid, requestFromPeer, hreach, sessionStep, hp, Peer.step, dispatch,
      pushFailure]
    rfl
  · cases hreach

/-- `bothMapsPool` asked for `status` through its peer's inbound entry, which reaches the
outbound session. -/
theorem request_reaches_first_both_maps_pool :
    bothMapsPool.Reachable ∧
      { ipAddress := "1.2.3.4", wsPort := 5000 } ∈ bothMapsPool.listOfPeerInfo.map Prod.fst ∧
      ∃ ref p, bothMapsPool.reach { ipAddress := "1.2.3.4", wsPort := 5000 } = some ref ∧
        bothMapsPool.session? ref = some p ∧
        bothMapsPool.request [{ ipAddress := "1.2.3.4", wsPort := 5000 }] "status" =
          .ok (bothMapsPool.setSession ref (p.request "status" .application).1) :=
  ⟨⟨_, _, rfl⟩, by decide,
    request_reaches_first ⟨_, _, rfl⟩ { ipAddress := "1.2.3.4", wsPort := 5000 } [] "status"
      (by decide)⟩

/-! ### `applyNodeInfo` -/

/-- What `_applyNodeInfoOnPeer` reports for a session: `failedToPushNodeInfo` with the error
its `applyNodeInfo` throws, if it throws. -/
def pushReport (p : Peer) (nodeInfo : NodeInfo) : Option PoolEvent :=
  match (p.applyNodeInfo nodeInfo .pushNodeInfo).2 with
  | .error error => some (.failedToPushNodeInfo error)
  | .ok () => none

/-- The loop of `applyNodeInfo` over positions, from the result so far. -/
def pushNodeInfo (nodeInfo : NodeInfo) (refs : List Nat) (r : PoolResult) : PoolResult :=
  refs.foldl (fun r ref => r.andThen (·.applyNodeInfoOnPeer ref nodeInfo)) r

/-- `applyNodeInfo` records the node info and pushes it to every position of both maps, outbound
first. -/
theorem applyNodeInfo_eq (P : PeerPool) (nodeInfo : NodeInfo) :
    P.applyNodeInfo nodeInfo = pushNodeInfo nodeInfo
      (P.outboundPeerMap.values ++ P.inboundPeerMap.values) (.ok { P with nodeInfo := some nodeInfo }) :=
  rfl

/-- `applyNodeInfoOnPeer` at a position: the session there, if any, takes the node info, and a
failed push is reported as an event; no error is thrown. -/
theorem applyNodeInfoOnPeer_eq (P : PeerPool) (ref : Nat) (nodeInfo : NodeInfo) :
    P.applyNodeInfoOnPeer ref nodeInfo =
      ⟨match P.session? ref with
        | some p => P.setSession ref (p.applyNodeInfo nodeInfo .pushNodeInfo).1
        | none => P,
        ((P.session? ref).bind (pushReport · nodeInfo)).toList, none⟩ := by
  unfold applyNodeInfoOnPeer
  cases P.session? ref with
  | none => rfl
  | some p =>
    rcases h : p.applyNodeInfo nodeInfo .pushNodeInfo with ⟨q, e | ⟨⟩⟩ <;>
      simp [pushReport, h, PoolResult.ok]

/-- `applyNodeInfoOnPeer` changes the session at its own position only. -/
theorem session?_applyNodeInfoOnPeer (P : PeerPool) (ref r : Nat) (nodeInfo : NodeInfo) :
    (P.applyNodeInfoOnPeer ref nodeInfo).pool.session? r = if r = ref then
      (P.session? ref).map (fun p => (p.applyNodeInfo nodeInfo .pushNodeInfo).1) else P.session? r := by
  rw [applyNodeInfoOnPeer_eq]
  cases hp : P.session? ref with
  | none => by_cases hr : r = ref <;> simp [hr, hp]
  | some p => exact session?_setSession P ref r p _ hp

/-- `applyNodeInfoOnPeer` changes nothing but the sessions. -/
theorem applyNodeInfoOnPeer_sessions (P : PeerPool) (ref : Nat) (nodeInfo : NodeInfo) :
    { (P.applyNodeInfoOnPeer ref nodeInfo).pool with sessions := P.sessions } = P := by
  rw [applyNodeInfoOnPeer_eq]
  cases P.session? ref <;> rfl

/-- The loop of `applyNodeInfo` over distinct positions throws nothing and changes only the
sessions at those positions, each once; it reports each push that throws, in order. -/
theorem pushNodeInfo_spec (nodeInfo : NodeInfo) (refs : List Nat) (hnd : refs.Nodup)
    (r : PoolResult) (he : r.error = none) :
    (pushNodeInfo nodeInfo refs r).error = none ∧
      { (pushNodeInfo nodeInfo refs r).pool with sessions := r.pool.sessions } = r.pool ∧
      (∀ ref, (pushNodeInfo nodeInfo refs r).pool.session? ref = if ref ∈ refs then
        (r.pool.session? ref).map (fun p => (p.applyNodeInfo nodeInfo .pushNodeInfo).1)
        else r.pool.session? ref) ∧
      (pushNodeInfo nodeInfo refs r).events =
        r.events ++ refs.filterMap fun ref => (r.pool.session? ref).bind (pushReport · nodeInfo) := by
  induction refs generalizing r with
  | nil => exact ⟨he, rfl, fun ref => by simp [pushNodeInfo], by simp [pushNodeInfo]⟩
  | cons ref0 rest ih =>
    obtain ⟨hnd0, hnd⟩ := List.nodup_cons.1 hnd
    have hfold : pushNodeInfo nodeInfo (ref0 :: rest) r =
        pushNodeInfo nodeInfo rest (r.andThen (·.applyNodeInfoOnPeer ref0 nodeInfo)) := rfl
    have hr1 : r.andThen (·.applyNodeInfoOnPeer ref0 nodeInfo) =
        ⟨(r.pool.applyNodeInfoOnPeer ref0 nodeInfo).pool,
          r.events ++ ((r.pool.session? ref0).bind (pushReport · nodeInfo)).toList, none⟩ := by
      simp only [andThen_of_error_none he, applyNodeInfoOnPeer_eq]
    rw [hfold, hr1]
    obtain ⟨he', hpool, hses, hev⟩ := ih hnd ⟨_, _, none⟩ rfl
    have hs1 := fun ref => session?_applyNodeInfoOnPeer r.pool ref0 ref nodeInfo
    -- the positions left are not `ref0`, whose session the first push changed
    have hrest : ∀ ref ∈ rest,
        (r.pool.applyNodeInfoOnPeer ref0 nodeInfo).pool.session? ref = r.pool.session? ref :=
      fun ref h => by rw [hs1, if_neg fun (e : ref = ref0) => hnd0 (e ▸ h)]
    refine ⟨he', ?_, fun ref => ?_, ?_⟩
    · exact (congrArg (fun Q : PeerPool => { Q with sessions := r.pool.sessions }) hpool).trans
        (applyNodeInfoOnPeer_sessions _ _ _)
    · rw [hses]
      by_cases h0 : ref = ref0
      · subst h0; simp [hnd0, hs1]
      · by_cases hm : ref ∈ rest
        · simp [hm, h0, hrest ref hm]
        · simp [hm, h0, hs1]
    · rw [hev, List.filterMap_congr fun ref h => by rw [hrest ref h], List.filterMap_cons]
      cases (r.pool.session? ref0).bind (pushReport · nodeInfo) <;> simp

/-- In a keyed pool no two entries hold one session. -/
theorem Keyed.unique {P : PeerPool} (hk : P.Keyed) (kind kind' : PeerKind) {key key' : PeerId}
    {ref : Nat} (h : (P.peerMap kind).get? key = some ref)
    (h' : (P.peerMap kind').get? key' = some ref) : kind = kind' ∧ key = key' := by
  obtain ⟨p, hp, hid, hkind⟩ := hk kind key ref h
  obtain ⟨p', hp', hid', hkind'⟩ := hk kind' key' ref h'
  rw [hp] at hp'; cases hp'
  exact ⟨hkind.symm.trans hkind', hid.symm.trans hid'⟩

/-- In a keyed pool the positions `applyNodeInfo` visits are distinct. -/
theorem Keyed.values_nodup {P : PeerPool} (hk : P.Keyed) :
    (P.outboundPeerMap.values ++ P.inboundPeerMap.values).Nodup := by
  refine List.nodup_append.2 ⟨JsMap.values_nodup fun key key' ref h h' =>
    (hk.unique .outbound .outbound h h').2, JsMap.values_nodup fun key key' ref h h' =>
    (hk.unique .inbound .inbound h h').2, fun ref ho hi => ?_⟩
  obtain ⟨key, hkey⟩ := (JsMap.mem_values _ _).1 ho
  obtain ⟨key', hkey'⟩ := (JsMap.mem_values _ _).1 hi
  exact nomatch (hk.unique .outbound .inbound hkey hkey').1

/-- In every pool a run reaches, `applyNodeInfo` stores the node info, throws nothing, and
changes only the sessions under an entry, each once: each is given the node info, then a
passive one is sent `nodeInfoChanged` on its socket and any other is requested `updateMyself`.
Each push that throws is reported as `failedToPushNodeInfo`, outbound sessions first. -/
theorem applyNodeInfo_pushes_once {P : PeerPool} (hP : P.Reachable) (nodeInfo : NodeInfo) :
    (P.applyNodeInfo nodeInfo).error = none ∧
      { (P.applyNodeInfo nodeInfo).pool with sessions := P.sessions } =
        { P with nodeInfo := some nodeInfo } ∧
      (∀ ref, (P.applyNodeInfo nodeInfo).pool.session? ref =
        if ref ∈ P.outboundPeerMap.values ++ P.inboundPeerMap.values then
        (P.session? ref).map (fun p => (p.applyNodeInfo nodeInfo .pushNodeInfo).1)
        else P.session? ref) ∧
      (P.applyNodeInfo nodeInfo).events =
        (P.outboundPeerMap.values ++ P.inboundPeerMap.values).filterMap
          fun ref => (P.session? ref).bind (pushReport · nodeInfo) := by
  obtain ⟨he, hpool, hses, hev⟩ := pushNodeInfo_spec nodeInfo _ hP.keyed_identity.1.values_nodup
    (.ok { P with nodeInfo := some nodeInfo }) rfl
  rw [applyNodeInfo_eq]
  exact ⟨he, hpool, hses, hev⟩

/-- `bothMapsPool` is given a node info: both of its sessions, neither passive, are requested
`updateMyself`. -/
theorem applyNodeInfo_pushes_once_both_maps_pool :
    bothMapsPool.Reachable ∧
      (bothMapsPool.applyNodeInfo {}).error = none ∧
      { (bothMapsPool.applyNodeInfo {}).pool with sessions := bothMapsPool.sessions } =
        { bothMapsPool with nodeInfo := some {} } ∧
      (∀ ref, (bothMapsPool.applyNodeInfo {}).pool.session? ref =
        if ref ∈ bothMapsPool.outboundPeerMap.values ++ bothMapsPool.inboundPeerMap.values then
          (bothMapsPool.session? ref).map (fun p => (p.applyNodeInfo {} .pushNodeInfo).1)
        else bothMapsPool.session? ref) ∧
      (bothMapsPool.applyNodeInfo {}).events =
        (bothMapsPool.outboundPeerMap.values ++ bothMapsPool.inboundPeerMap.values).filterMap
          fun ref => (bothMapsPool.session? ref).bind (pushReport · {}) :=
  ⟨⟨_, _, rfl⟩, applyNodeInfo_pushes_once ⟨_, _, rfl⟩ {}⟩

end PeerPool

end Lp2p
