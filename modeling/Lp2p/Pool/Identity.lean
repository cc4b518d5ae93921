import Lp2p.Pool.Sessions
import Lp2p.Pool.Events
import Lp2p.Peer.Identity

/-!
# Which entry a close deletes

The pool removes a closed session under the id it computes from the close packet
(`src/peer_pool.js:140–164`). Every session keeps the identity and the address its constructor
gave it, so that id is the session's own, and under the pool's invariant the entry under it in
the map of the session's kind is the one that holds the session. A close therefore deletes
exactly the entry of the session that closed.

`addOutboundPeer` looks the caller's `peerId` up but stores the session under its own id
(`src/peer_pool.js:396–410`). The pool's own callers pass the id of the peer info; an id that is
not normalised misses the entry the first call made, so a second session is constructed and
stored over it.
-/

namespace Lp2p

open Lp2p.Js Lp2p.Address

/-- The identity and the address of the peer info, as the constructor set them. -/
def identityProp : SessionProp where
  holds p := p.IdentInv ∧ p.AddressInv
  step p s h := ⟨h.1.of_ident (Peer.step_ident p s), Peer.step_addressInv h.2 s⟩
  bind _ h := h
  unbind p h := ⟨h.1.of_ident (PeerPool.unbindHandlersFromPeer_ident p),
    h.2.of_eq (PeerPool.unbindHandlersFromPeer_ident p)
      (PeerPool.unbindHandlersFromPeer_peerInfo p)⟩
  create _ _ _ _ _ _ _ hp := (Peer.create_identInv hp).2

namespace PeerPool

/-- Appending events after a result leaves its pool. -/
theorem andThen_ok_pool (r : PoolResult) (events : List PoolEvent) :
    (r.andThen (PoolResult.ok · events)).pool = r.pool := by
  unfold PoolResult.andThen; split <;> rfl

/-- A close emits one event, `close` of the session's kind, and the pool's listener on it
removes the entry under the session's own id from the map of the session's kind. -/
theorem handleSocketClose_event {p : Peer} (hid : identityProp.holds p) (code : DisconnectCode) :
    ∃ e, (p.handleSocketClose code).2 = [e] ∧
      (e.name = .closeInbound ∨ e.name = .closeOutbound) ∧
      ∀ P : PeerPool, (P.handlePeerEvent e).pool = (P.removePeerOf p.kind p.id code).2.pool := by
  have hc := Peer.closePacket_id hid.1 hid.2 code
  cases hk : p.kind <;> simp only [Peer.handleSocketClose, hk] at hc ⊢
  · refine ⟨_, rfl, .inl rfl, fun P => ?_⟩
    simp only [handlePeerEvent, hc _ (List.mem_singleton_self _) _ (.inl rfl), removeInboundPeer,
      andThen_ok_pool]
  · refine ⟨_, rfl, .inr rfl, fun P => ?_⟩
    simp only [handlePeerEvent, hc _ (List.mem_singleton_self _) _ (.inr rfl), removeOutboundPeer,
      andThen_ok_pool]

/-- Under the pool's invariant, when every session keeps its identity, the close of the session
at `ref` deletes the entry that holds it and leaves every other entry of both maps as it was. -/
theorem sessionStep_socketClose {P : PeerPool} (h : P.Inv) (hs : P.AllSessions identityProp)
    (ref : Nat) (code : DisconnectCode) (kind : PeerKind) (key : PeerId) :
    ((P.sessionStep ref (.socketClose code)).pool.peerMap kind).get? key =
      if (P.peerMap kind).get? key = some ref then none else (P.peerMap kind).get? key := by
  cases hp : P.session? ref with
  | none =>
    have hno : (P.peerMap kind).get? key ≠ some ref := fun hk => by
      obtain ⟨p, hp', -⟩ := h.entry kind key ref hk
      rw [hp] at hp'; cases hp'
    simp only [sessionStep, hp, PoolResult.ok, if_neg hno]
  | some p =>
    obtain ⟨e, he, hname, hhandle⟩ := handleSocketClose_event (hs ref p hp) code
    have hq := session?_setSession P ref ref p (p.handleSocketClose code).1 hp
    rw [if_pos rfl] at hq
    have hlisteners : (p.handleSocketClose code).1.listeners = p.listeners :=
      Peer.step_listeners p (.socketClose code)
    simp only [sessionStep, hp, Peer.step, he, pushFailure, andThen_ok_pool, dispatch, hq,
      Option.any_some]
    by_cases hl : P.Listed ref
    · obtain ⟨k0, key0, hk0⟩ := hl
      obtain ⟨p', hp', hid, hkind, hbound⟩ := h.entry k0 key0 ref hk0
      rw [hp] at hp'; cases hp'
      have hlistens : (p.handleSocketClose code).1.listens e.name = true := by
        rw [Peer.listens, hlisteners, hbound]
        rcases hname with hn | hn <;> rw [hn] <;> decide
      rw [if_pos hlistens, andThen_ok_pool, hhandle, removePeerOf_eq, hkind, hid]
      simp only [PoolResult.ok, peerMap_setPeerMap, detachPeer_peerMap, peerMap_setSession]
      by_cases hkk : kind = k0 ∧ key = key0
      · obtain ⟨rfl, rfl⟩ := hkk
        simp [hk0]
      · have hne : (P.peerMap kind).get? key ≠ some ref := fun hk =>
          hkk (h.unique kind k0 key key0 ref hk hk0)
        rw [if_neg hne]
        by_cases hk : kind = k0
        · subst hk
          have : key ≠ key0 := fun hkey => hkk ⟨rfl, hkey⟩
          simp [this]
        · simp [hk]
    · have hnl : (p.handleSocketClose code).1.listens e.name = false := by
        rw [Peer.listens, hlisteners]
        rcases h.unlisted ref p hp hl with hn | ⟨hn, -⟩ <;> rw [hn] <;>
          rcases hname with he | he <;> rw [he] <;> decide
      have hne : (P.peerMap kind).get? key ≠ some ref := fun hk => hl ⟨kind, key, hk⟩
      simp only [hnl, Bool.false_eq_true, ↓reduceIte, PoolResult.ok, peerMap_setSession,
        if_neg hne]

/-- Over every run in which `addOutboundPeer` is given its peer info's id, the pool keeps its
invariant and every session keeps its identity. -/
theorem run_inv_identity {P : PeerPool} (h : P.Inv) (hs : P.AllSessions identityProp)
    (steps : List PoolStep) (hk : ∀ s ∈ steps, s.KeyedById) :
    (P.run steps).1.Inv ∧ (P.run steps).1.AllSessions identityProp := by
  induction steps generalizing P with
  | nil => exact ⟨h, hs⟩
  | cons s rest ih =>
    exact ih (h.step s (hk s (.head _))) (hs.step s) fun s' hs' => hk s' (.tail _ hs')

/-- What a run does to the identity of a session the constructor returned: the id, and the
address of the peer info, are those the constructor set, and the id the pool computes from a
close packet is the session's. -/
theorem create_run_identity {kind : PeerKind} {peerInfo : PeerInfo} {peerConfig : PeerConfig}
    {socket : Option Socket} {ping : PingState} {now : Nat} {p : Peer}
    (hp : Peer.create kind peerInfo peerConfig socket ping now = .ok p) (steps : List SessionStep)
    (code : DisconnectCode) :
    (p.run steps).1.id = p.id ∧
      (p.run steps).1.peerInfo.ipAddress = peerInfo.ipAddress ∧
      (p.run steps).1.peerInfo.wsPort = peerInfo.wsPort ∧
      ∀ e ∈ ((p.run steps).1.handleSocketClose code).2, ∀ packet,
        (e = .closeInbound packet ∨ e = .closeOutbound packet) →
          getPeerIdFromPeerInfo packet.peerInfo = .ok p.id := by
  obtain ⟨hinit, hid, ha⟩ := Peer.create_identInv hp
  obtain ⟨hi, ha'⟩ := Peer.run_addressInv ha steps
  have hid' := hid.of_ident hi
  have hrun : (p.run steps).1.id = p.id := congrArg PeerIdentity.id hi
  refine ⟨hrun, ?_, ?_, fun e he packet hpk =>
    hrun ▸ Peer.closePacket_id hid' ha' code e he packet hpk⟩
  · rw [ha'.1, hid'.2.1, hi, hinit]
  · rw [ha'.2, hid'.2.2, hi, hinit]

/-- Every session keeps the address and the id its constructor gave it, whatever peer infos its
peer sends; an update that fails validation leaves the peer info as it was; and in every run in
which `addOutboundPeer` is given its peer info's id, as the pool's own callers give it, the close
of a session deletes the entry that holds it and no other entry of either map. -/
theorem session_identity_kept_close_deletes_own_entry :
    (∀ kind peerInfo peerConfig socket ping now (p : Peer),
      Peer.create kind peerInfo peerConfig socket ping now = .ok p →
      ∀ steps code, (p.run steps).1.id = p.id ∧
        (p.run steps).1.peerInfo.ipAddress = peerInfo.ipAddress ∧
        (p.run steps).1.peerInfo.wsPort = peerInfo.wsPort ∧
        ∀ e ∈ ((p.run steps).1.handleSocketClose code).2, ∀ packet,
          (e = .closeInbound packet ∨ e = .closeOutbound packet) →
            getPeerIdFromPeerInfo packet.peerInfo = .ok p.id) ∧
    (∀ (p : Peer) error onUpdated onRequest,
      (p.step (.rpcFrame (.request remoteRPCUpdatePeerInfo (.error error)) onUpdated
        onRequest)).1.peerInfo = p.peerInfo ∧
      (p.step (.statusResponse (.error error))).1.peerInfo = p.peerInfo) ∧
    (∀ config (steps : List PoolStep), (∀ s ∈ steps, s.KeyedById) → ∀ ref code kind key,
      ((((init config).run steps).1.sessionStep ref (.socketClose code)).pool.peerMap
          kind).get? key =
        if (((init config).run steps).1.peerMap kind).get? key = some ref then none
        else (((init config).run steps).1.peerMap kind).get? key) :=
  ⟨fun _ _ _ _ _ _ _ hp steps code => create_run_identity hp steps code,
    Peer.failed_update_peerInfo,
    fun config steps hk =>
      have h := run_inv_identity (init_inv config) (init_allSessions config) steps hk
      sessionStep_socketClose h.1 h.2⟩

/-- `insertPeer` throws nothing. -/
theorem insertPeer_error (P : PeerPool) (kind : PeerKind) (p : Peer) :
    (P.insertPeer kind p).error = none := by
  unfold insertPeer applyNodeInfoOnPeer
  dsimp only
  split
  · split
    · rfl
    · split <;> rfl
  · rfl

/-- `insertPeer` maps the session id to the new, last position. -/
theorem insertPeer_get? (P : PeerPool) (kind : PeerKind) (p : Peer) :
    ((P.insertPeer kind p).pool.peerMap kind).get? p.id = some P.sessions.length := by
  have hmap : ∀ (P' : PeerPool) ref nodeInfo,
      (P'.applyNodeInfoOnPeer ref nodeInfo).pool.peerMap kind = P'.peerMap kind := by
    intro P' ref nodeInfo
    unfold applyNodeInfoOnPeer
    split
    · rfl
    · split <;> simp [PoolResult.ok]
  unfold insertPeer
  dsimp only
  split
  · rw [hmap]; cases kind <;> simp [setPeerMap, peerMap]
  · cases kind <;> simp [setPeerMap, peerMap, PoolResult.ok]

/-- Chaining a step that returns the pool it is given, with no event, onto a result that threw
nothing gives the result. -/
theorem andThen_eq_self {r : PoolResult} {f : PeerPool → PoolResult} (he : r.error = none)
    (hf : f r.pool = .ok r.pool) : r.andThen f = r := by
  obtain ⟨pool, events, error⟩ := r
  subst he
  simp only [PoolResult.andThen, hf, PoolResult.ok, List.append_nil]

/-- Given the id of its peer info, as the pool's own callers give it, a second
`addOutboundPeer` does nothing: the two calls leave the pool, the events and the exception the
first leaves. -/
theorem addOutboundPeer_idempotent (P : PeerPool) (peerId : PeerId) (peerInfo : PeerInfo)
    (now now' : Nat) (hid : getPeerIdFromPeerInfo peerInfo = .ok peerId) :
    (P.addOutboundPeer peerId peerInfo now).andThen (·.addOutboundPeer peerId peerInfo now') =
      P.addOutboundPeer peerId peerInfo now := by
  unfold addOutboundPeer
  split
  · next ref hget => exact andThen_eq_self rfl (by simp only [PoolResult.ok, hget])
  · split
    · rfl
    · next p hp =>
      obtain ⟨-, -, -, hpid⟩ := create_ok hp
      have hpeer : p.id = peerId := Except.ok.inj (hpid.symm.trans hid)
      have hget := insertPeer_get? P .outbound p
      rw [hpeer] at hget
      simp only [peerMap] at hget
      exact andThen_eq_self (insertPeer_error P .outbound p) (by simp only [hget])

/-- A second `addOutboundPeer` of the same peer info, on a fresh pool, changes nothing. -/
theorem addOutboundPeer_idempotent_fresh_pool :
    getPeerIdFromPeerInfo { ipAddress := "1.2.3.4", wsPort := 5000 } = .ok "1.2.3.4:5000" ∧
    ((init ⟨⟨1000, 100, 10⟩, 20, 20, 0, 0, 0, [], []⟩).addOutboundPeer "1.2.3.4:5000"
        { ipAddress := "1.2.3.4", wsPort := 5000 } 0).andThen
        (·.addOutboundPeer "1.2.3.4:5000" { ipAddress := "1.2.3.4", wsPort := 5000 } 1) =
      (init ⟨⟨1000, 100, 10⟩, 20, 20, 0, 0, 0, [], []⟩).addOutboundPeer "1.2.3.4:5000"
        { ipAddress := "1.2.3.4", wsPort := 5000 } 0 :=
  have hid : getPeerIdFromPeerInfo { ipAddress := "1.2.3.4", wsPort := 5000 } =
      .ok "1.2.3.4:5000" := by decide
  ⟨hid, addOutboundPeer_idempotent _ _ _ 0 1 hid⟩

/-- `addOutboundPeer` called twice with the id `[::1]:5000`: the first call stores its session
under the session's own id `[0:0:0:0:0:0:0:1]:5000`, so the second misses it, constructs a second
session and stores it over the first, which stays connected with the pool's listeners bound,
outside the map. -/
theorem addOutboundPeer_twice_overwrites :
    ((init ⟨⟨1000, 100, 10⟩, 20, 20, 0, 0, 0, [], []⟩).run
      [.addOutboundPeer "[::1]:5000"
        { ipAddress := "::1", wsPort := 5000 } 0]).1.outboundPeerMap.get?
      "[0:0:0:0:0:0:0:1]:5000" = some 0 ∧
    ((init ⟨⟨1000, 100, 10⟩, 20, 20, 0, 0, 0, [], []⟩).run
      [.addOutboundPeer "[::1]:5000" { ipAddress := "::1", wsPort := 5000 } 0,
        .addOutboundPeer "[::1]:5000"
          { ipAddress := "::1", wsPort := 5000 } 0]).1.outboundPeerMap.get?
      "[0:0:0:0:0:0:0:1]:5000" = some 1 ∧
    (((init ⟨⟨1000, 100, 10⟩, 20, 20, 0, 0, 0, [], []⟩).run
      [.addOutboundPeer "[::1]:5000" { ipAddress := "::1", wsPort := 5000 } 0,
        .addOutboundPeer "[::1]:5000" { ipAddress := "::1", wsPort := 5000 } 0]).1.session? 0).map
      (fun p => (p.active, p.listeners)) = some (true, boundEvents) := by
  decide

end PeerPool

end Lp2p
