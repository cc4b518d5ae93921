import Lp2p.Pool.Sessions
import Lp2p.Pool.Events

/-!
# What holds of every pool a run reaches

Whatever the steps, an entry of either map holds a session of the map's kind under the
session's own id: `addOutboundPeer` and `addInboundPeer` store a new session under `peer.id`
(`src/peer_pool.js:386,403`), whatever id `addOutboundPeer` was given, and no update changes the
id or the kind of a session. And every session keeps `_active` in agreement with its intervals.

This is what `removeAllPeers` (`src/peer_pool.js:419–440`) needs. Its `forEach` deletes from
the very map it walks, but only the entry it is at, under that entry's key: so it visits every
entry once, disconnects its session and emits `removePeer` for it, and leaves both maps empty.
-/

namespace Lp2p

open Lp2p.Js Lp2p.Address

namespace PeerPool

/-- Every entry of either map holds a session of the map's kind under the session's own id. -/
def Keyed (P : PeerPool) : Prop :=
  ∀ kind key ref, (P.peerMap kind).get? key = some ref →
    ∃ p, P.session? ref = some p ∧ p.id = key ∧ p.kind = kind

/-- A pool some run reaches from a new pool. -/
def Reachable (P : PeerPool) : Prop :=
  ∃ config steps, ((init config).run steps).1 = P

/-- `_active` and the intervals of a session agree. -/
def activeProp : SessionProp where
  holds := Peer.ActiveInv
  step p s h := Peer.step_activeInv p s h
  bind _ h := h
  unbind p h := (unbindHandlersFromPeer_activeInv p).2 h
  create _ _ _ _ _ _ _ hp := (create_ok hp).2.2.1

/-- Detaching disconnects and unbinds the session under the entry, if any, and no other. -/
theorem session?_detachPeer (P : PeerPool) (kind : PeerKind) (peerId : PeerId)
    (code : DisconnectCode) (r : Nat) :
    (P.detachPeer kind peerId code).session? r =
      if (P.peerMap kind).get? peerId = some r then
        (P.session? r).map fun p => unbindHandlersFromPeer (p.disconnect code)
      else P.session? r := by
  unfold detachPeer
  cases hk : (P.peerMap kind).get? peerId with
  | none => simp
  | some ref =>
    cases hp : P.session? ref with
    | none =>
      simp only [hp]
      by_cases hr : r = ref
      · subst hr; simp [hp]
      · simp [Ne.symm hr]
    | some p =>
      simp only [hp, session?_setSession P ref r p _ hp]
      by_cases hr : r = ref
      · subst hr; simp [hp]
      · simp [hr, Ne.symm hr]

/-! ### Every entry is under its session's id -/

/-- A fresh pool is keyed: it has no entry. -/
theorem init_keyed (config : PeerPoolConfig) : (init config).Keyed := by
  intro kind key ref h
  cases kind <;> simp [init, peerMap] at h

/-- Replacing a session by one of the same identity keeps the entries keyed. -/
theorem Keyed.setSession {P : PeerPool} {ref : Nat} {p q : Peer} (h : P.Keyed)
    (hp : P.session? ref = some p) (hid : q.ident = p.ident) : (P.setSession ref q).Keyed := by
  intro kind key r hr
  obtain ⟨p', hp', hkey, hkind⟩ := h kind key r (by simpa using hr)
  rw [session?_setSession P ref r p q hp]
  split
  · next hr' =>
    subst hr'
    rw [hp] at hp'; cases hp'
    exact ⟨q, rfl, (congrArg PeerIdentity.id hid).trans hkey,
      (congrArg PeerIdentity.kind hid).trans hkind⟩
  · exact ⟨p', hp', hkey, hkind⟩

/-- Removing a session keeps the pool keyed. -/
theorem Keyed.removePeerOf {P : PeerPool} (h : P.Keyed) (kind : PeerKind) (peerId : PeerId)
    (code : DisconnectCode) : (P.removePeerOf kind peerId code).2.pool.Keyed := by
  intro kind' key r hr
  rw [removePeerOf_eq] at hr ⊢
  have hr' : (P.peerMap kind').get? key = some r := by
    by_cases hk : kind' = kind
    · subst hk; by_cases hkey : key = peerId <;> simp_all [PoolResult.ok]
    · simpa [PoolResult.ok, hk] using hr
  obtain ⟨p, hp, hkey, hkind⟩ := h kind' key r hr'
  simp only [PoolResult.ok, session?_setPeerMap, session?_detachPeer, hp]
  split
  · exact ⟨_, rfl, by simpa [Peer.id] using hkey, by simpa [Peer.kind] using hkind⟩
  · exact ⟨p, rfl, hkey, hkind⟩

/-- Entries are keyed over every run. -/
def keyedProp : PoolProp where
  holds := Keyed
  congr {P P'} h hs hi ho := fun kind key ref hr => by
    have hm : P'.peerMap kind = P.peerMap kind := by cases kind; exacts [hi, ho]
    obtain ⟨p, hp, hkey⟩ := h kind key ref (hm ▸ hr)
    exact ⟨p, by simpa only [session?, hs] using hp, hkey⟩
  setSession_step s h hp := h.setSession hp (Peer.step_ident _ s)
  removePeerOf kind peerId code h := h.removePeerOf kind peerId code
  insert {P kind p} h := fun ⟨_, _, _, _, _, hc⟩ kind' key r hr => by
    have hlt : ∀ k key r, (P.peerMap k).get? key = some r → r < P.sessions.length :=
      fun k key r hr => by obtain ⟨_, hp, -⟩ := h k key r hr; exact lt_of_session? hp
    have hses := session?_append P (bindHandlersToPeer p)
    have hget : ((P.setPeerMap kind ((P.peerMap kind).set p.id P.sessions.length)).peerMap
        kind').get? key = some r := by
      cases kind' <;> cases kind <;> exact hr
    simp only [session?] at hses ⊢
    by_cases hk : kind' = kind ∧ key = p.id
    · obtain ⟨rfl, rfl⟩ := hk
      simp only [peerMap_setPeerMap, if_true, JsMap.get?_set] at hget
      cases hget
      exact ⟨bindHandlersToPeer p, by simp [hses], rfl, (create_ok hc).1⟩
    · have hr' : (P.peerMap kind').get? key = some r := by
        by_cases hk' : kind' = kind
        · subst hk'; simpa [show key ≠ p.id from fun h' => hk ⟨rfl, h'⟩] using hget
        · simpa [hk'] using hget
      simpa [hses, (hlt _ _ _ hr').ne] using h kind' key r hr'
  append {P kind p} h := fun _ kind' key r hr => by
    obtain ⟨q, hq, hkey⟩ := h kind' key r hr
    have hses := session?_append P p r
    exact ⟨q, by rw [hses, if_neg (lt_of_session? hq).ne, hq], hkey⟩

/-- Every pool a run reaches has its entries keyed and its sessions' `_active` in agreement
with their intervals. -/
theorem Reachable.keyed_activeInv {P : PeerPool} (hP : P.Reachable) :
    P.Keyed ∧ P.AllSessions activeProp := by
  obtain ⟨config, steps, rfl⟩ := hP
  exact ⟨keyedProp.run (init_keyed config) steps, run_allSessions (init_allSessions config) steps⟩

/-! ### Removing every peer -/

/-- After removing a session, its position holds it disconnected and unbound; others read as before.
-/
@[simp] theorem session?_removePeerOf (P : PeerPool) (kind : PeerKind) (peerId : PeerId)
    (code : DisconnectCode) (r : Nat) :
    (P.removePeerOf kind peerId code).2.pool.session? r =
      if (P.peerMap kind).get? peerId = some r then
        (P.session? r).map fun p => unbindHandlersFromPeer (p.disconnect code)
      else P.session? r := by
  rw [removePeerOf_eq]
  exact (session?_setPeerMap _ _ _ r).trans (session?_detachPeer P kind peerId code r)

/-- A removal deletes the entry from the map of its kind and leaves the other map. -/
@[simp] theorem peerMap_removePeerOf (P : PeerPool) (kind : PeerKind) (peerId : PeerId)
    (code : DisconnectCode) (kind' : PeerKind) :
    (P.removePeerOf kind peerId code).2.pool.peerMap kind' =
      if kind' = kind then (P.peerMap kind).erase peerId else P.peerMap kind' := by
  simp [removePeerOf_eq, PoolResult.ok]

/-- After a removal, the session under the removed entry is disconnected, and a session that
was disconnected still is. -/
theorem removePeerOf_disconnected {P : PeerPool} (ha : P.AllSessions activeProp) (kind : PeerKind)
    (peerId : PeerId) (code : DisconnectCode) {r : Nat} {p : Peer} (hp : P.session? r = some p) :
    ∃ q, (P.removePeerOf kind peerId code).2.pool.session? r = some q ∧
      ((P.peerMap kind).get? peerId = some r ∨ p.Disconnected → q.Disconnected) := by
  rw [session?_removePeerOf, hp]
  split
  · exact ⟨_, rfl, fun _ => (unbindHandlersFromPeer_disconnected _).2
      (Peer.disconnect_disconnected p code (ha r p hp))⟩
  · next hne => exact ⟨p, rfl, fun hr => hr.resolve_left hne⟩

/-- At a keyed entry, `removeAllOf` removes the entry's own key. -/
theorem removeAllOf_cons {P : PeerPool} (h : P.Keyed) (kind : PeerKind) {key : PeerId} {ref : Nat}
    (hr : (P.peerMap kind).get? key = some ref) (rest : List PeerId) :
    removeAllOf kind P (key :: rest) =
      (P.removePeerOf kind key intentionalDisconnectStatusCode).2.andThen
        (removeAllOf kind · rest) := by
  obtain ⟨p, hp, rfl, -⟩ := h kind key ref hr
  simp [removeAllOf, hr, hp]

/-- Removing every listed session of a kind leaves the shuffle interval. -/
theorem removeAllOf_outboundShuffleInterval (kind : PeerKind) (P : PeerPool) (keys : List PeerId) :
    (removeAllOf kind P keys).pool.outboundShuffleInterval = P.outboundShuffleInterval := by
  induction keys generalizing P with
  | nil => rfl
  | cons key rest ih =>
    have hd : ∀ k, (P.detachPeer kind k intentionalDisconnectStatusCode).outboundShuffleInterval =
        P.outboundShuffleInterval := fun k => by
      unfold detachPeer; repeat' split
      all_goals rfl
    unfold removeAllOf
    split
    · rw [removePeerOf_eq]
      simp only [PoolResult.andThen, PoolResult.ok, ih]
      cases kind <;> exact hd _
    · exact ih P

/-- `removeAllOf` over distinct keys that each have an entry, in a keyed pool: no exception,
one `removePeer` per key in order, the keys deleted from the map of its kind and the other map
as it was, and the session of each entry disconnected, as every session that already was. -/
theorem removeAllOf_keys {P : PeerPool} (h : P.Keyed) (ha : P.AllSessions activeProp)
    (kind : PeerKind) (keys : List PeerId) (hnd : keys.Nodup)
    (hkeys : ∀ key ∈ keys, ((P.peerMap kind).get? key).isSome) :
    (removeAllOf kind P keys).error = none ∧
      (removeAllOf kind P keys).events = keys.map .removePeer ∧
      (∀ kind', (removeAllOf kind P keys).pool.peerMap kind' =
        if kind' = kind then keys.foldl JsMap.erase (P.peerMap kind) else P.peerMap kind') ∧
      ∀ r p, P.session? r = some p →
        (∃ key ∈ keys, (P.peerMap kind).get? key = some r) ∨ p.Disconnected →
        ∃ q, (removeAllOf kind P keys).pool.session? r = some q ∧ q.Disconnected := by
  induction keys generalizing P with
  | nil => exact ⟨rfl, rfl, fun kind' => by split <;> simp_all [removeAllOf, PoolResult.ok],
      fun r p hp hr => ⟨p, hp, by simpa using hr⟩⟩
  | cons key rest ih =>
    obtain ⟨ref, href⟩ := Option.isSome_iff_exists.1 (hkeys key (.head _))
    have hnd' := List.nodup_cons.1 hnd
    have hrm : (P.removePeerOf kind key intentionalDisconnectStatusCode).2 =
        ⟨(P.removePeerOf kind key intentionalDisconnectStatusCode).2.pool, [.removePeer key],
          none⟩ := by
      rw [removePeerOf_eq]; rfl
    set P1 := (P.removePeerOf kind key intentionalDisconnectStatusCode).2.pool
    have hmap : ∀ kind', P1.peerMap kind' =
        if kind' = kind then (P.peerMap kind).erase key else P.peerMap kind' :=
      peerMap_removePeerOf P kind key _
    -- the keys left still have their entries
    have hget : ∀ k ∈ rest, (P1.peerMap kind).get? k = (P.peerMap kind).get? k := fun k hk => by
      rw [hmap, if_pos rfl, JsMap.get?_erase, if_neg fun (e : k = key) => hnd'.1 (e ▸ hk)]
    obtain ⟨he, hev, hm, hd⟩ := ih (h.removePeerOf kind key _) (ha.removePeerOf kind key _)
      hnd'.2 fun k hk => hget k hk ▸ hkeys k (.tail _ hk)
    rw [removeAllOf_cons h kind href, hrm]
    simp only [PoolResult.andThen]
    refine ⟨he, by rw [hev]; rfl, fun kind' => ?_, fun r p hp hr => ?_⟩
    · rw [hm]
      split
      · next hk => subst hk; rw [hmap, if_pos rfl]; rfl
      · next hk => rw [hmap, if_neg hk]
    · obtain ⟨q, hq, hdq⟩ := removePeerOf_disconnected ha kind key intentionalDisconnectStatusCode hp
      refine hd r q hq ?_
      rcases hr with ⟨k, hk, hkr⟩ | hdis
      · rcases List.mem_cons.1 hk with rfl | hk
        · exact .inr (hdq (.inl hkr))
        · exact .inl ⟨k, hk, (hget k hk).trans hkr⟩
      · exact .inr (hdq (.inr hdis))

/-- A new pool that dials `1.2.3.4:5000`, then accepts a connection from it: one peer with a
session in each map. -/
def bothMapsPool : PeerPool :=
  ((init ⟨⟨1000, 100, 10⟩, 20, 20, 0, 0, 0, [], []⟩).run
    [.addOutboundPeer "1.2.3.4:5000" { ipAddress := "1.2.3.4", wsPort := 5000 } 0,
      .addInboundPeer { ipAddress := "1.2.3.4", wsPort := 5000 } {} 0 0]).1

/- The peer of both maps is removed from each: `removePeer` is emitted twice under its id. -/
example : ((init ⟨⟨1000, 100, 10⟩, 20, 20, 0, 0, 0, [], []⟩).run
    [.addOutboundPeer "1.2.3.4:5000" { ipAddress := "1.2.3.4", wsPort := 5000 } 0,
      .addInboundPeer { ipAddress := "1.2.3.4", wsPort := 5000 } {} 0 0]).1.removeAllPeers.events =
    [.removePeer "1.2.3.4:5000", .removePeer "1.2.3.4:5000"] := by
  decide

end PeerPool

end Lp2p
