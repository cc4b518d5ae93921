import Lp2p.Pool.Identity
import Lp2p.Pool.Quota

/-!
# New connections

`triggerNewConnections` (`src/peer_pool.js:308–363`) splits the new and the tried peers by
whether their id is a key of the outbound map, leaves out of the disconnected ones those at a
fixed peer's address, passes the four lists to the selection function, and dials what the
function returns, then every fixed peer without an outbound session. Every filter computes peer
ids, and `getPeerIdFromPeerInfo` throws on some addresses (`1:2:3:4:5:6:7::`, which
`net.isIPv6` accepts): an exception ends the call where it is thrown, before the selection
function when it is a new, tried or fixed peer's, in the middle of the dialing when it is a
selected peer's. So the fixed peers are dialed exactly when no id throws.

Dialing never replaces a session: `addOutboundPeer` is given the id of the peer info it adds,
and does nothing when the map has an entry under it.
-/

namespace Lp2p

open Lp2p.Js Lp2p.Address

/-- A peer info with the kind of its session, `{ kind, ...peerInfo }`. -/
structure ConnectedPeerInfo where
  kind : PeerKind
  peerInfo : PeerInfo
  deriving DecidableEq

/-- The argument `triggerNewConnections` passes to `_peerSelectForConnection`
(`src/peer_pool.js:344–354`). -/
structure PeerSelectionInput where
  nodeInfo : Option NodeInfo
  disconnectedNewPeers : List PeerInfo
  disconnectedTriedPeers : List PeerInfo
  connectedNewPeers : List ConnectedPeerInfo
  connectedTriedPeers : List ConnectedPeerInfo
  outboundPeerCount : Nat
  inboundPeerCount : Nat
  maxOutboundPeerCount : Nat
  maxInboundPeerCount : Nat
  deriving DecidableEq

namespace PeerPool

/-- What `triggerNewConnections` computes before it calls `_peerSelectForConnection`
(`src/peer_pool.js:309–342`): the argument of the call, and the fixed peers the outbound map has
no entry for. Each filter computes the ids of its peers, in this order, and throws the first
exception. -/
def selectionInput (P : PeerPool) (newPeers triedPeers fixedPeers : List PeerInfo) :
    Except JsError (PeerSelectionInput × List PeerInfo) := do
  let disconnected (peerInfo : PeerInfo) : Except JsError Bool := do
    let peerId ← getPeerIdFromPeerInfo peerInfo
    pure (!P.outboundPeerMap.has peerId &&
      !(fixedPeers.map (·.ipAddress)).contains peerInfo.ipAddress)
  let connected (peerInfo : PeerInfo) : Except JsError Bool := do
    let peerId ← getPeerIdFromPeerInfo peerInfo
    pure (P.outboundPeerMap.has peerId)
  let disconnectedNewPeers ← filterE disconnected newPeers
  let disconnectedTriedPeers ← filterE disconnected triedPeers
  let connectedNewPeers ← filterE connected newPeers
  let connectedTriedPeers ← filterE connected triedPeers
  let disconnectedFixedPeers ← filterE (fun peerInfo => do
    let peerId ← getPeerIdFromPeerInfo peerInfo
    pure (!P.outboundPeerMap.has peerId)) fixedPeers
  pure (⟨P.nodeInfo, disconnectedNewPeers, disconnectedTriedPeers,
    connectedNewPeers.map (⟨.outbound, ·⟩), connectedTriedPeers.map (⟨.outbound, ·⟩),
    P.outboundPeerMap.size, P.inboundPeerMap.size, P.config.maxOutboundConnections,
    P.config.maxInboundConnections⟩, disconnectedFixedPeers)

/-- The model of `triggerNewConnections` computes the ids up front; it throws what the source's
filters throw, and otherwise dials what the source dials. -/
theorem triggerNewConnections_eq (P : PeerPool)
    (newPeers triedPeers fixedPeers peersToConnect : List PeerInfo) (now : Nat) :
    P.triggerNewConnections newPeers triedPeers fixedPeers peersToConnect now =
      match P.selectionInput newPeers triedPeers fixedPeers with
      | .error error => ⟨P, [], some error⟩
      | .ok (_, disconnectedFixedPeers) =>
        addOutboundPeers now P (peersToConnect ++ disconnectedFixedPeers) := by
  simp only [triggerNewConnections, selectionInput, filterE_bind, List.mapM_append]
  cases hn : newPeers.mapM getPeerIdFromPeerInfo <;>
    cases ht : triedPeers.mapM getPeerIdFromPeerInfo <;>
    cases hf : fixedPeers.mapM getPeerIdFromPeerInfo <;>
    simp only [bind, Except.bind, pure, Except.pure, Except.map]
  -- the two filters of the fixed peers match on the id alike
  congr 2
  exact List.filter_congr fun p _ => by cases getPeerIdFromPeerInfo p <;> rfl

/-- Whether the outbound map has the id of a peer info,
`this._outboundPeerMap.has(getPeerIdFromPeerInfo(peerInfo))`; `false` where the id throws. -/
def hasOutboundId (P : PeerPool) (peerInfo : PeerInfo) : Bool :=
  match getPeerIdFromPeerInfo peerInfo with
  | .ok peerId => P.outboundPeerMap.has peerId
  | .error _ => false

/-- When the selection function is called, it is offered as disconnected the new and tried
peers whose id is not a key of the outbound map and whose address is no fixed peer's, and as
connected those whose id is a key; the fixed peers dialed are those whose id is not a key. -/
theorem selectionInput_ok {P : PeerPool} {newPeers triedPeers fixedPeers : List PeerInfo}
    {input : PeerSelectionInput} {disconnectedFixedPeers : List PeerInfo}
    (h : P.selectionInput newPeers triedPeers fixedPeers = .ok (input, disconnectedFixedPeers)) :
    input.disconnectedNewPeers = newPeers.filter (fun p =>
        !P.hasOutboundId p && !(fixedPeers.map (·.ipAddress)).contains p.ipAddress) ∧
      input.disconnectedTriedPeers = triedPeers.filter (fun p =>
        !P.hasOutboundId p && !(fixedPeers.map (·.ipAddress)).contains p.ipAddress) ∧
      input.connectedNewPeers = (newPeers.filter P.hasOutboundId).map (⟨.outbound, ·⟩) ∧
      input.connectedTriedPeers = (triedPeers.filter P.hasOutboundId).map (⟨.outbound, ·⟩) ∧
      disconnectedFixedPeers = fixedPeers.filter fun p => !P.hasOutboundId p := by
  simp only [selectionInput, filterE_bind] at h
  cases hn : newPeers.mapM getPeerIdFromPeerInfo <;>
    cases ht : triedPeers.mapM getPeerIdFromPeerInfo <;>
    cases hf : fixedPeers.mapM getPeerIdFromPeerInfo <;>
    simp only [hn, ht, hf, bind, Except.bind, pure, Except.pure, Except.map, reduceCtorEq,
      Except.ok.injEq, Prod.mk.injEq] at h
  obtain ⟨rfl, rfl⟩ := h
  -- every id computes, so each filter reads the map as `hasOutboundId` does
  have hid : ∀ p ∈ newPeers ++ triedPeers ++ fixedPeers, ∃ id, getPeerIdFromPeerInfo p = .ok id := by
    intro p hp
    rcases List.mem_append.1 hp with hp | hp
    · rcases List.mem_append.1 hp with hp | hp
      exacts [mapM_ok_forall hn p hp, mapM_ok_forall ht p hp]
    · exact mapM_ok_forall hf p hp
  refine ⟨List.filter_congr fun p hp => ?_, List.filter_congr fun p hp => ?_,
      congrArg _ (List.filter_congr fun p hp => ?_), congrArg _ (List.filter_congr fun p hp => ?_),
      List.filter_congr fun p hp => ?_⟩ <;>
    obtain ⟨id, h⟩ := hid p (by simp [hp]) <;>
    simp [hasOutboundId, h]

/-! ### Dialing keeps what the pool has -/

/-- `Q` keeps every outbound entry and every session of `P`, and `P`'s inbound map. -/
structure Extends (P Q : PeerPool) : Prop where
  outbound : ∀ key ref, P.outboundPeerMap.get? key = some ref →
    Q.outboundPeerMap.get? key = some ref
  sessions : ∀ ref p, P.session? ref = some p → Q.session? ref = some p
  inbound : Q.inboundPeerMap = P.inboundPeerMap

/-- A pool extends itself. -/
theorem Extends.refl (P : PeerPool) : P.Extends P :=
  ⟨fun _ _ h => h, fun _ _ h => h, rfl⟩

/-- Extending is transitive. -/
theorem Extends.trans {P Q R : PeerPool} (h : P.Extends Q) (h' : Q.Extends R) : P.Extends R :=
  ⟨fun key ref hr => h'.outbound key ref (h.outbound key ref hr),
    fun ref p hp => h'.sessions ref p (h.sessions ref p hp), h'.inbound.trans h.inbound⟩

/-- An outbound entry of a pool is still there in a pool that extends it. -/
theorem Extends.isSome {P Q : PeerPool} (h : P.Extends Q) {key : PeerId}
    (hk : (P.outboundPeerMap.get? key).isSome) : (Q.outboundPeerMap.get? key).isSome := by
  obtain ⟨ref, href⟩ := Option.isSome_iff_exists.1 hk
  rw [h.outbound key ref href]; rfl

/-- Pushing node info to a session leaves every other position. -/
theorem applyNodeInfoOnPeer_session? (P : PeerPool) (ref : Nat) (nodeInfo : NodeInfo) {r : Nat}
    (hr : r ≠ ref) : (P.applyNodeInfoOnPeer ref nodeInfo).pool.session? r = P.session? r := by
  unfold applyNodeInfoOnPeer
  split
  · rfl
  · next p hp => split <;> simp [PoolResult.ok, session?_setSession P ref r p _ hp, hr]

/-- Adding a session under an id the outbound map lacks keeps the pool, and leaves an entry
under the id. -/
theorem insertPeer_extends {P : PeerPool} {p : Peer} (hfresh : P.outboundPeerMap.get? p.id = none) :
    P.Extends (P.insertPeer .outbound p).pool ∧
      ((P.insertPeer .outbound p).pool.outboundPeerMap.get? p.id).isSome := by
  have hsess : ∀ r q, P.session? r = some q → (P.insertPeer .outbound p).pool.session? r = some q := by
    intro r q hq
    have hr := lt_of_session? hq
    have happ : (P.sessions ++ [bindHandlersToPeer p])[r]? = some q :=
      (List.getElem?_append_left hr).trans hq
    unfold insertPeer
    dsimp only
    split
    · rw [applyNodeInfoOnPeer_session? _ _ _ hr.ne]; exact happ
    · exact happ
  have hout := P.insertPeer_peerMap .outbound .outbound p
  refine ⟨⟨fun key ref hkr => ?_, hsess, P.insertPeer_peerMap .outbound .inbound p⟩, ?_⟩
  · have hne : key ≠ p.id := fun h => by simp [h, hfresh] at hkr
    change ((P.insertPeer .outbound p).pool.peerMap .outbound).get? key = _
    rw [hout, if_pos rfl, JsMap.get?_set, if_neg hne]; exact hkr
  · change (((P.insertPeer .outbound p).pool.peerMap .outbound).get? p.id).isSome
    rw [P.insertPeer_get? .outbound p]; rfl

/-- A peer info whose id computes creates an outbound session under that id. -/
theorem createOutbound_ok {peerInfo : PeerInfo} {peerId : PeerId}
    (hid : getPeerIdFromPeerInfo peerInfo = .ok peerId) (peerConfig : PeerConfig) (now : Nat) :
    ∃ p, Peer.createOutbound peerInfo peerConfig now = .ok p ∧ p.id = peerId := by
  simp only [Peer.createOutbound, Peer.create, getPeerIdFromPeerInfo_address, hid]
  exact ⟨_, rfl, rfl⟩

/-- Given the id of its peer info, `addOutboundPeer` throws nothing, keeps the pool, and leaves an
entry under the id. -/
theorem addOutboundPeer_spec (P : PeerPool) {peerId : PeerId} {peerInfo : PeerInfo}
    (hid : getPeerIdFromPeerInfo peerInfo = .ok peerId) (now : Nat) :
    (P.addOutboundPeer peerId peerInfo now).error = none ∧
      P.Extends (P.addOutboundPeer peerId peerInfo now).pool ∧
      ((P.addOutboundPeer peerId peerInfo now).pool.outboundPeerMap.get? peerId).isSome := by
  unfold addOutboundPeer
  cases hget : P.outboundPeerMap.get? peerId with
  | some ref => exact ⟨rfl, .refl P, by simp [PoolResult.ok, hget]⟩
  | none =>
    obtain ⟨q, hq, rfl⟩ := createOutbound_ok hid P.config.peerConfig now
    simp only [hq]
    exact ⟨insertPeer_error _ _ _, insertPeer_extends hget⟩

/-- Adding outbound peers one by one extends the pool. -/
theorem addOutboundPeers_extends (now : Nat) (P : PeerPool) (peers : List PeerInfo) :
    P.Extends (addOutboundPeers now P peers).pool := by
  induction peers generalizing P with
  | nil => exact .refl P
  | cons peerInfo rest ih =>
    unfold addOutboundPeers
    split
    · exact .refl P
    · next peerId hid =>
      obtain ⟨he, hext, -⟩ := P.addOutboundPeer_spec hid now
      rw [andThen_of_error_none he]
      exact hext.trans (ih _)

/-- Dialing a list throws exactly when the id of one of its peers does. -/
theorem addOutboundPeers_error (now : Nat) (P : PeerPool) (peers : List PeerInfo) :
    (addOutboundPeers now P peers).error = none ↔
      ∀ p ∈ peers, ∃ peerId, getPeerIdFromPeerInfo p = .ok peerId := by
  induction peers generalizing P with
  | nil => simp [addOutboundPeers, PoolResult.ok]
  | cons peerInfo rest ih =>
    unfold addOutboundPeers
    split
    · next error hid => simp [hid]
    · next peerId hid =>
      obtain ⟨he, -, -⟩ := P.addOutboundPeer_spec hid now
      rw [andThen_of_error_none he, List.forall_mem_cons, ← ih]
      exact ⟨fun h => ⟨⟨_, hid⟩, h⟩, fun h => h.2⟩

/-- When dialing a list throws nothing, the outbound map has the id of each of its peers. -/
theorem addOutboundPeers_has (now : Nat) (P : PeerPool) (peers : List PeerInfo)
    (he : (addOutboundPeers now P peers).error = none) (p : PeerInfo) (hp : p ∈ peers)
    (peerId : PeerId) (hid : getPeerIdFromPeerInfo p = .ok peerId) :
    ((addOutboundPeers now P peers).pool.outboundPeerMap.get? peerId).isSome := by
  induction peers generalizing P with
  | nil => cases hp
  | cons peerInfo rest ih =>
    unfold addOutboundPeers at he ⊢
    split at he
    · cases he
    · next peerId' hid' =>
      obtain ⟨he', hext, hhas⟩ := P.addOutboundPeer_spec hid' now
      rw [andThen_of_error_none he'] at he ⊢
      rcases List.mem_cons.1 hp with rfl | hp
      · obtain rfl : peerId' = peerId := Except.ok.inj (hid'.symm.trans hid)
        exact (addOutboundPeers_extends now _ rest).isSome hhas
      · exact ih _ he hp

/-! ### The law of `triggerNewConnections` -/

/-- `triggerNewConnections` throws exactly when the id of a new, tried, fixed or selected peer
throws. -/
theorem triggerNewConnections_error (P : PeerPool)
    (newPeers triedPeers fixedPeers peersToConnect : List PeerInfo) (now : Nat) :
    (P.triggerNewConnections newPeers triedPeers fixedPeers peersToConnect now).error = none ↔
      ∀ p ∈ newPeers ++ triedPeers ++ fixedPeers ++ peersToConnect,
        ∃ peerId, getPeerIdFromPeerInfo p = .ok peerId := by
  unfold triggerNewConnections
  split
  · next error hm =>
    refine iff_of_false (by simp) fun h => ?_
    obtain ⟨ids, hids, -⟩ := mapM_ok_map fun p hp => h p (List.mem_append_left _ hp)
    rw [hids] at hm; cases hm
  · next ids hm =>
    have hall := mapM_ok_forall hm
    rw [addOutboundPeers_error]
    exact ⟨fun h p hp => (List.mem_append.1 hp).elim (hall p)
        fun hp => h p (List.mem_append_left _ hp),
      fun h p hp => (List.mem_append.1 hp).elim (fun hp => h p (List.mem_append_right _ hp))
        fun hp => hall p (List.mem_append_right _ (List.mem_filter.1 hp).1)⟩

/-- When `triggerNewConnections` throws nothing, the id of every fixed and every selected peer
is an outbound key: the selected and the fixed peers without an entry are dialed, and the
others already had one. -/
theorem triggerNewConnections_dials (P : PeerPool)
    (newPeers triedPeers fixedPeers peersToConnect : List PeerInfo) (now : Nat)
    (he : (P.triggerNewConnections newPeers triedPeers fixedPeers peersToConnect now).error = none)
    (p : PeerInfo) (hp : p ∈ fixedPeers ++ peersToConnect) (peerId : PeerId)
    (hid : getPeerIdFromPeerInfo p = .ok peerId) :
    ((P.triggerNewConnections newPeers triedPeers fixedPeers peersToConnect
      now).pool.outboundPeerMap.get? peerId).isSome := by
  unfold triggerNewConnections at he ⊢
  split at he
  · cases he
  · dsimp only at he ⊢
    have hdial := addOutboundPeers_has now P _ he p
    rcases List.mem_append.1 hp with hp | hp
    · cases hhas : P.outboundPeerMap.has peerId
      · exact hdial (List.mem_append_right _ (List.mem_filter.2 ⟨hp, by simp [hid, hhas]⟩))
          peerId hid
      · exact (addOutboundPeers_extends now P _).isSome (by rwa [← JsMap.has_eq_isSome])
    · exact hdial (List.mem_append_left _ hp) peerId hid

/- A fresh pool dials its fixed peer. -/
example : ((init ⟨⟨1000, 100, 10⟩, 20, 20, 0, 0, 0, [], []⟩).triggerNewConnections [] []
    [{ ipAddress := "1.2.3.4", wsPort := 5000 }] [] 0).pool.outboundPeerMap.has
    "1.2.3.4:5000" = true := by
  decide

/-- `triggerNewConnections` extends the pool. -/
theorem triggerNewConnections_extends (P : PeerPool)
    (newPeers triedPeers fixedPeers peersToConnect : List PeerInfo) (now : Nat) :
    P.Extends (P.triggerNewConnections newPeers triedPeers fixedPeers peersToConnect now).pool := by
  unfold triggerNewConnections
  split
  · exact .refl P
  · exact addOutboundPeers_extends now P _

/-- `triggerNewConnections` computes the selection input first and throws what it throws; the
selection function is offered as disconnected the new and tried peers whose id is no outbound
key and whose address is no fixed peer's, and as connected exactly those whose id is a key. The
call throws exactly when the id of a new, tried, fixed or selected peer throws; when it throws
nothing, the id of every fixed and every selected peer is an outbound key. It replaces no
outbound entry and no session, and leaves the inbound map as it was. -/
theorem triggerNewConnections_law (P : PeerPool)
    (newPeers triedPeers fixedPeers peersToConnect : List PeerInfo) (now : Nat) :
    (P.triggerNewConnections newPeers triedPeers fixedPeers peersToConnect now =
      match P.selectionInput newPeers triedPeers fixedPeers with
      | .error error => ⟨P, [], some error⟩
      | .ok (_, disconnectedFixedPeers) =>
        addOutboundPeers now P (peersToConnect ++ disconnectedFixedPeers)) ∧
    (∀ input disconnectedFixedPeers,
      P.selectionInput newPeers triedPeers fixedPeers = .ok (input, disconnectedFixedPeers) →
      input.disconnectedNewPeers = newPeers.filter (fun p =>
          !P.hasOutboundId p && !(fixedPeers.map (·.ipAddress)).contains p.ipAddress) ∧
        input.disconnectedTriedPeers = triedPeers.filter (fun p =>
          !P.hasOutboundId p && !(fixedPeers.map (·.ipAddress)).contains p.ipAddress) ∧
        input.connectedNewPeers = (newPeers.filter P.hasOutboundId).map (⟨.outbound, ·⟩) ∧
        input.connectedTriedPeers = (triedPeers.filter P.hasOutboundId).map (⟨.outbound, ·⟩)) ∧
    ((P.triggerNewConnections newPeers triedPeers fixedPeers peersToConnect now).error = none ↔
      ∀ p ∈ newPeers ++ triedPeers ++ fixedPeers ++ peersToConnect,
        ∃ peerId, getPeerIdFromPeerInfo p = .ok peerId) ∧
    ((P.triggerNewConnections newPeers triedPeers fixedPeers peersToConnect now).error = none →
      ∀ p ∈ fixedPeers ++ peersToConnect, ∀ peerId, getPeerIdFromPeerInfo p = .ok peerId →
        ((P.triggerNewConnections newPeers triedPeers fixedPeers peersToConnect
          now).pool.outboundPeerMap.get? peerId).isSome) ∧
    P.Extends (P.triggerNewConnections newPeers triedPeers fixedPeers peersToConnect now).pool :=
  ⟨triggerNewConnections_eq _ _ _ _ _ _,
    fun _ _ h => (selectionInput_ok h).imp_right fun h => h.imp_right fun h => ⟨h.1, h.2.1⟩,
    triggerNewConnections_error _ _ _ _ _ _, triggerNewConnections_dials _ _ _ _ _ _,
    triggerNewConnections_extends _ _ _ _ _ _⟩

/-- A selected peer whose id throws ends the dialing before the fixed peers: the call throws, and
the fixed peer `1.2.3.4:5000`, whose id computes, gets no outbound entry. -/
theorem triggerNewConnections_skips_fixed_peer :
    getPeerIdFromPeerInfo { ipAddress := "1.2.3.4", wsPort := 5000 } = .ok "1.2.3.4:5000" ∧
      ((init ⟨⟨1000, 100, 10⟩, 20, 20, 0, 0, 0, [], []⟩).triggerNewConnections [] []
        [{ ipAddress := "1.2.3.4", wsPort := 5000 }]
        [{ ipAddress := "1:2:3:4:5:6:7::", wsPort := 5000 }] 0).pool.outboundPeerMap.has
        "1.2.3.4:5000" = false := by
  decide

end PeerPool

end Lp2p
