import Lp2p.Pool.Run
import Lp2p.Peer.Ban
import Lp2p.Peer.Lifecycle

/-!
# What the pool keeps true of its maps

In every state a pool reaches, each entry of either map is a session of that kind, stored
under its own id, with the pool's sixteen listeners bound, and no session is under two entries.
A session in no map was either never added (an inbound session whose id was taken) and has no
listener of the pool, or was removed: then it is disconnected and still carries the two
listeners `_unbindHandlersFromPeer` does not remove, `outboundSocketError` and
`inboundSocketError` (`src/peer_pool.js:654–687`).

The invariant holds over runs in which `addOutboundPeer` is called with the id of the peer
info it is given, as `triggerNewConnections` calls it.
-/

namespace Lp2p

open Lp2p.Js Lp2p.Address

/-- A step that calls `addOutboundPeer` with the id of the peer info it passes, as
`triggerNewConnections` does (`src/peer_pool.js:345–357`). -/
def PoolStep.KeyedById : PoolStep → Prop
  | .addOutboundPeer peerId peerInfo _ => getPeerIdFromPeerInfo peerInfo = .ok peerId
  | _ => True

namespace PeerPool

/-! ### The pool's state under its updates -/

/-- Replacing a session leaves both maps. -/
@[simp] theorem peerMap_setSession (P : PeerPool) (ref : Nat) (q : Peer) (kind : PeerKind) :
    (P.setSession ref q).peerMap kind = P.peerMap kind := by
  cases kind <;> rfl

/-- After `setSession` at a position holding a session, that position reads the new session and
every other reads as before. -/
theorem session?_setSession (P : PeerPool) (ref r : Nat) (p q : Peer)
    (hp : P.session? ref = some p) :
    (P.setSession ref q).session? r = if r = ref then some q else P.session? r := by
  have hl : ref < P.sessions.length := by
    by_contra hc
    simp [session?, List.getElem?_eq_none (Nat.le_of_not_lt hc)] at hp
  simp only [session?, setSession, List.getElem?_set]
  by_cases hr : r = ref
  · simp [hr, hl]
  · simp [hr, Ne.symm hr]

/-- `setPeerMap` replaces the map of its own kind only. -/
@[simp] theorem peerMap_setPeerMap (P : PeerPool) (kind kind' : PeerKind) (m : JsMap PeerId Nat) :
    (P.setPeerMap kind m).peerMap kind' = if kind' = kind then m else P.peerMap kind' := by
  cases kind <;> cases kind' <;> rfl

/-- Pushing node info to a session leaves both maps. -/
@[simp] theorem applyNodeInfoOnPeer_peerMap (P : PeerPool) (ref : Nat) (nodeInfo : NodeInfo)
    (kind : PeerKind) :
    (P.applyNodeInfoOnPeer ref nodeInfo).pool.peerMap kind = P.peerMap kind := by
  unfold applyNodeInfoOnPeer
  split
  · rfl
  · split <;> simp [PoolResult.ok]

/-- `insertPeer` sets the new session's id in the map of its kind and leaves the other map. -/
theorem insertPeer_peerMap (P : PeerPool) (kind kind' : PeerKind) (p : Peer) :
    (P.insertPeer kind p).pool.peerMap kind' =
      if kind' = kind then (P.peerMap kind).set p.id P.sessions.length else P.peerMap kind' := by
  unfold insertPeer
  dsimp only
  split
  · rw [applyNodeInfoOnPeer_peerMap]; cases kind <;> cases kind' <;> rfl
  · cases kind <;> cases kind' <;> rfl

/-- Replacing a map leaves every session. -/
@[simp] theorem session?_setPeerMap (P : PeerPool) (kind : PeerKind) (m : JsMap PeerId Nat)
    (r : Nat) : (P.setPeerMap kind m).session? r = P.session? r := by
  cases kind <;> rfl

/-- Replacing a map leaves the list of sessions. -/
@[simp] theorem sessions_setPeerMap (P : PeerPool) (kind : PeerKind) (m : JsMap PeerId Nat) :
    (P.setPeerMap kind m).sessions = P.sessions := by
  cases kind <;> rfl

/-- Appending a session adds it at the next position and leaves the others. -/
theorem session?_append (P : PeerPool) (p : Peer) (r : Nat) :
    ({ P with sessions := P.sessions ++ [p] } : PeerPool).session? r =
      if r = P.sessions.length then some p else P.session? r := by
  simp only [session?]
  split
  · next h => subst h; exact List.getElem?_concat_length _ _
  · next h =>
    rcases Nat.lt_or_ge r P.sessions.length with hr | hr
    · exact List.getElem?_append_left hr
    · have hr' : (P.sessions ++ [p]).length ≤ r := by
        simp only [List.length_append, List.length_singleton]; omega
      rw [List.getElem?_eq_none hr', List.getElem?_eq_none hr]

/-- A position that holds a session is below the number of sessions. -/
theorem lt_of_session? {P : PeerPool} {r : Nat} {p : Peer} (h : P.session? r = some p) :
    r < P.sessions.length := by
  by_contra hc
  simp [session?, List.getElem?_eq_none (Nat.le_of_not_lt hc)] at h

/-- When the first operation throws nothing, `andThen` runs the second on its pool and joins the
events. -/
theorem andThen_of_error_none {r : PoolResult} (he : r.error = none) (f : PeerPool → PoolResult) :
    r.andThen f = ⟨(f r.pool).pool, r.events ++ (f r.pool).events, (f r.pool).error⟩ := by
  simp only [PoolResult.andThen, he]

/-! ### The invariant -/

/-- The listeners `_unbindHandlersFromPeer` leaves on a session bound to the pool. -/
def leftoverEvents : List PeerEventName := [.outboundSocketError, .inboundSocketError]

/-- Unbinding the handlers the pool binds leaves the listeners the code forgets to remove. -/
theorem unbind_boundEvents : unboundEvents.foldl List.erase boundEvents = leftoverEvents := by
  decide

/-- Some entry of a map holds the session at `ref`. -/
def Listed (P : PeerPool) (ref : Nat) : Prop :=
  ∃ kind key, (P.peerMap kind).get? key = some ref

/-- What the pool keeps true of its maps and its sessions. -/
structure Inv (P : PeerPool) : Prop where
  /-- An entry holds a session of the map's kind, under the session's id, bound to the pool. -/
  entry : ∀ kind key ref, (P.peerMap kind).get? key = some ref →
    ∃ p, P.session? ref = some p ∧ p.id = key ∧ p.kind = kind ∧ p.listeners = boundEvents
  /-- No session is under two entries. -/
  unique : ∀ kind kind' key key' ref, (P.peerMap kind).get? key = some ref →
    (P.peerMap kind').get? key' = some ref → kind = kind' ∧ key = key'
  /-- A session in no map was never bound, or was removed: disconnected, two listeners left. -/
  unlisted : ∀ ref p, P.session? ref = some p → ¬ P.Listed ref →
    p.listeners = [] ∨ (p.listeners = leftoverEvents ∧ p.Disconnected)
  /-- Every session has `_active` and its intervals in agreement. -/
  activeInv : ∀ ref p, P.session? ref = some p → p.ActiveInv

/-- A fresh pool keeps the invariant. -/
theorem init_inv (config : PeerPoolConfig) : (init config).Inv where
  entry kind key ref h := by cases kind <;> simp [init, peerMap] at h
  unique kind _ key _ ref h := by cases kind <;> simp [init, peerMap] at h
  unlisted ref p h := by simp [init, session?] at h
  activeInv ref p h := by simp [init, session?] at h

/-- The invariant reads only the sessions and the lookups of the maps. -/
theorem Inv.congr {P P' : PeerPool} (h : P.Inv) (hs : P'.sessions = P.sessions)
    (hm : ∀ kind key, (P'.peerMap kind).get? key = (P.peerMap kind).get? key) : P'.Inv := by
  have hs' : ∀ r, P'.session? r = P.session? r := fun r => by simp [session?, hs]
  have hl : ∀ r, P'.Listed r ↔ P.Listed r := fun r => by simp [Listed, hm]
  exact ⟨fun kind key ref hr => by simpa [hs'] using h.entry kind key ref (hm kind key ▸ hr),
    fun kind kind' key key' ref h1 h2 => h.unique kind kind' key key' ref
      (hm kind key ▸ h1) (hm kind' key' ▸ h2),
    fun ref p hp hn => h.unlisted ref p (hs' ref ▸ hp) ((hl ref).not.1 hn),
    fun ref p hp => h.activeInv ref p (hs' ref ▸ hp)⟩

/-- Replacing a session by one with the same identity and listeners, that keeps `ActiveInv`
and stays disconnected if it was, keeps the invariant. -/
theorem Inv.setSession {P : PeerPool} {ref : Nat} {p q : Peer} (h : P.Inv)
    (hp : P.session? ref = some p) (hid : q.ident = p.ident) (hl : q.listeners = p.listeners)
    (ha : q.ActiveInv) (hd : p.Disconnected → q.Disconnected) : (P.setSession ref q).Inv := by
  have hs := fun r => session?_setSession P ref r p q hp
  have hlisted : ∀ r, (P.setSession ref q).Listed r ↔ P.Listed r := fun r => by
    simp [Listed]
  refine ⟨fun kind key r hr => ?_, fun kind kind' key key' r h1 h2 => ?_,
    fun r p' hp' hn => ?_, fun r p' hp' => ?_⟩
  · obtain ⟨p', hp', hid', hk', hl'⟩ := h.entry kind key r (by simpa using hr)
    rw [hs]
    split
    · next hr' =>
      subst hr'
      rw [hp] at hp'; cases hp'
      exact ⟨q, rfl, (congrArg PeerIdentity.id hid).trans hid',
        (congrArg PeerIdentity.kind hid).trans hk', hl.trans hl'⟩
    · exact ⟨p', hp', hid', hk', hl'⟩
  · exact h.unique kind kind' key key' r (by simpa using h1) (by simpa using h2)
  · rw [hs] at hp'
    rw [hlisted] at hn
    split at hp'
    · next hr' =>
      subst hr'; cases hp'
      rcases h.unlisted r p hp hn with h0 | ⟨h0, h1⟩
      · exact .inl (hl.trans h0)
      · exact .inr ⟨hl.trans h0, hd h1⟩
    · exact h.unlisted r p' hp' hn
  · rw [hs] at hp'
    split at hp'
    · cases hp'; exact ha
    · exact h.activeInv r p' hp'

/-- A step of a session keeps the invariant. -/
theorem Inv.setSession_step {P : PeerPool} {ref : Nat} {p : Peer} (h : P.Inv)
    (hp : P.session? ref = some p) (s : SessionStep) : (P.setSession ref (p.step s).1).Inv :=
  h.setSession hp (Peer.step_ident p s) (Peer.step_listeners p s)
    (Peer.step_activeInv p s (h.activeInv ref p hp)) (Peer.step_disconnected p s)

-- Proved by `simp only`: for `rfl` the unifier first compares the erased listener lists.
/-- `_unbindHandlersFromPeer` removes the unbound events from the listeners. -/
@[simp] theorem unbindHandlersFromPeer_listeners (p : Peer) :
    (unbindHandlersFromPeer p).listeners = unboundEvents.foldl List.erase p.listeners := by
  simp only [unbindHandlersFromPeer]

/-- `_unbindHandlersFromPeer` leaves the identity. -/
@[simp] theorem unbindHandlersFromPeer_ident (p : Peer) :
    (unbindHandlersFromPeer p).ident = p.ident := by
  simp only [unbindHandlersFromPeer]

/-- `_unbindHandlersFromPeer` leaves the peer info. -/
@[simp] theorem unbindHandlersFromPeer_peerInfo (p : Peer) :
    (unbindHandlersFromPeer p).peerInfo = p.peerInfo := by
  simp only [unbindHandlersFromPeer]

/-- `_unbindHandlersFromPeer` neither disconnects nor reconnects a session. -/
theorem unbindHandlersFromPeer_disconnected (p : Peer) :
    (unbindHandlersFromPeer p).Disconnected ↔ p.Disconnected := by
  simp only [Peer.Disconnected, unbindHandlersFromPeer]

/-- `_unbindHandlersFromPeer` keeps the session invariant either way. -/
theorem unbindHandlersFromPeer_activeInv (p : Peer) :
    (unbindHandlersFromPeer p).ActiveInv ↔ p.ActiveInv := by
  simp only [Peer.ActiveInv, unbindHandlersFromPeer_disconnected]
  simp only [unbindHandlersFromPeer]

/-- Deleting the entry under `key` from the map of `kind`, after disconnecting and unbinding
its session, keeps the invariant. -/
theorem Inv.removePeerOf {P : PeerPool} (h : P.Inv) (kind : PeerKind) (key : PeerId)
    (code : DisconnectCode) : (P.removePeerOf kind key code).2.pool.Inv := by
  simp only [PeerPool.removePeerOf, PeerPool.detachPeer, JsMap.delete, PoolResult.ok]
  cases hk : (P.peerMap kind).get? key with
  | none =>
    refine h.congr (by simp) fun kind' key' => ?_
    by_cases hkk : kind' = kind
    · subst hkk; by_cases hkey : key' = key
      · subst hkey; simp [hk]
      · simp [hkey]
    · simp [hkk]
  | some ref =>
    obtain ⟨p, hp, hid, hkind, hl⟩ := h.entry kind key ref hk
    simp only [hp]
    have hs := fun r => session?_setSession P ref r p
      (unbindHandlersFromPeer (p.disconnect code)) hp
    -- the entries left are those of `P` other than `(kind, key)`
    have hget : ∀ kind' key' r, ((P.setSession ref (unbindHandlersFromPeer (p.disconnect code))
        |>.setPeerMap kind ((P.peerMap kind).erase key)).peerMap kind').get? key' = some r ↔
        (P.peerMap kind').get? key' = some r ∧ ¬ (kind' = kind ∧ key' = key) := by
      intro kind' key' r
      by_cases hkk : kind' = kind
      · subst hkk; by_cases hkey : key' = key <;> simp [hkey]
      · simp [hkk]
    refine ⟨fun kind' key' r hr => ?_, fun k1 k2 key1 key2 r h1 h2 => ?_,
      fun r p' hp' hn => ?_, fun r p' hp' => ?_⟩
    · obtain ⟨hr, hne⟩ := (hget kind' key' r).1 hr
      have hrr : r ≠ ref := fun hrr => hne (h.unique kind' kind key' key ref (hrr ▸ hr) hk)
      simpa [hs, hrr] using h.entry kind' key' r hr
    · exact h.unique k1 k2 key1 key2 r ((hget _ _ _).1 h1).1 ((hget _ _ _).1 h2).1
    · simp only [session?_setPeerMap, hs] at hp'
      split at hp'
      · cases hp'
        refine .inr ⟨by simp [hl, unbind_boundEvents], ?_⟩
        exact (unbindHandlersFromPeer_disconnected _).2
          (Peer.disconnect_disconnected p code (h.activeInv ref p hp))
      · next hrr =>
        refine h.unlisted r p' hp' fun ⟨k', key', hr⟩ => hn ⟨k', key', (hget _ _ _).2 ⟨hr, ?_⟩⟩
        rintro ⟨rfl, rfl⟩
        exact hrr (Option.some.inj (hr.symm.trans hk))
    · simp only [session?_setPeerMap, hs] at hp'
      split at hp'
      · cases hp'
        exact (unbindHandlersFromPeer_activeInv _).2 fun _ =>
          Peer.disconnect_disconnected p code (h.activeInv ref p hp)
      · exact h.activeInv r p' hp'

/-- Applying the node info to a session keeps the invariant. -/
theorem Inv.applyNodeInfoOnPeer {P : PeerPool} (h : P.Inv) (ref : Nat) (nodeInfo : NodeInfo) :
    (P.applyNodeInfoOnPeer ref nodeInfo).pool.Inv := by
  unfold PeerPool.applyNodeInfoOnPeer
  cases hp : P.session? ref with
  | none => exact h
  | some p =>
    have hs := h.setSession_step hp (.applyNodeInfo nodeInfo)
    simp only [Peer.step] at hs
    simp only [hp]
    split <;> (rename_i heq; rw [heq] at hs; exact hs)

/-- `_bindHandlersToPeer` keeps the session invariant either way. -/
theorem bindHandlersToPeer_activeInv (p : Peer) :
    (bindHandlersToPeer p).ActiveInv ↔ p.ActiveInv := Iff.rfl

/-- Adding a new session of the map's kind under its id, when the map has no entry under it,
keeps the invariant. -/
theorem Inv.insertPeer {P : PeerPool} (h : P.Inv) (kind : PeerKind) (p : Peer)
    (hfresh : (P.peerMap kind).get? p.id = none) (hkind : p.kind = kind)
    (hl : p.listeners = []) (ha : p.ActiveInv) : (P.insertPeer kind p).pool.Inv := by
  set n := P.sessions.length
  set P1 : PeerPool := { P.setPeerMap kind ((P.peerMap kind).set p.id n) with
    sessions := P.sessions ++ [bindHandlersToPeer p] } with hP1
  have hget : ∀ k key, (P1.peerMap k).get? key =
      if k = kind ∧ key = p.id then some n else (P.peerMap k).get? key := by
    intro k key
    have : P1.peerMap k = (P.setPeerMap kind ((P.peerMap kind).set p.id n)).peerMap k := by
      cases k <;> cases kind <;> rfl
    rw [this]
    by_cases hk : k = kind
    · subst hk; by_cases hkey : key = p.id <;> simp [hkey]
    · simp [hk]
  have hses : ∀ r, P1.session? r = if r = n then some (bindHandlersToPeer p) else P.session? r :=
    fun r => by
      rw [← session?_append P (bindHandlersToPeer p) r]
      simp only [P1, session?, sessions_setPeerMap]
  have hold : ∀ k key r, (P.peerMap k).get? key = some r → r < n := fun k key r hr => by
    obtain ⟨_, hp, -⟩ := h.entry k key r hr
    exact lt_of_session? hp
  have h1 : P1.Inv := by
    refine ⟨fun k key r hr => ?_, fun k k' key key' r h1 h2 => ?_, fun r q hq hn => ?_,
      fun r q hq => ?_⟩
    · rw [hget] at hr
      split at hr
      · next hk =>
        cases hr; obtain ⟨rfl, rfl⟩ := hk
        exact ⟨bindHandlersToPeer p, by simp [hses], rfl, hkind, by simp [bindHandlersToPeer, hl]⟩
      · have hrn : r ≠ n := (hold k key r hr).ne
        simpa [hses, hrn] using h.entry k key r hr
    · rw [hget] at h1 h2
      split at h1 <;> split at h2
      · next hk1 hk2 => exact ⟨hk1.1.trans hk2.1.symm, hk1.2.trans hk2.2.symm⟩
      · cases h1; exact absurd (hold _ _ _ h2) (lt_irrefl _)
      · cases h2; exact absurd (hold _ _ _ h1) (lt_irrefl _)
      · exact h.unique k k' key key' r h1 h2
    · have hrn : r ≠ n := fun hrn => hn ⟨kind, p.id, by simp [hget, hrn]⟩
      rw [hses, if_neg hrn] at hq
      refine h.unlisted r q hq fun ⟨k, key, hr⟩ => hn ⟨k, key, ?_⟩
      rw [hget, if_neg]; exact hr
      rintro ⟨rfl, rfl⟩; rw [hfresh] at hr; cases hr
    · rw [hses] at hq
      split at hq
      · cases hq; exact (bindHandlersToPeer_activeInv p).2 ha
      · exact h.activeInv r q hq
  unfold PeerPool.insertPeer
  dsimp only
  split
  · exact h1.applyNodeInfoOnPeer _ _
  · exact h1

/-- Keeping a new session that was never added to a map keeps the invariant. -/
theorem Inv.appendUnbound {P : PeerPool} (h : P.Inv) (p : Peer) (hl : p.listeners = [])
    (ha : p.ActiveInv) : ({ P with sessions := P.sessions ++ [p] } : PeerPool).Inv := by
  have hses := session?_append P p
  have hlt : ∀ k key r, (P.peerMap k).get? key = some r → r < P.sessions.length :=
    fun k key r hr => by
      obtain ⟨_, hp, -⟩ := h.entry k key r hr
      exact lt_of_session? hp
  refine ⟨fun k key r hr => ?_, h.unique, fun r q hq hn => ?_, fun r q hq => ?_⟩
  · have hrn : r ≠ P.sessions.length := (hlt k key r hr).ne
    simpa [hses, hrn] using h.entry k key r hr
  · rw [hses] at hq
    split at hq
    · cases hq; exact .inl hl
    · exact h.unlisted r q hq hn
  · rw [hses] at hq
    split at hq
    · cases hq; exact ha
    · exact h.activeInv r q hq

/-! ### Every operation keeps the invariant -/

/-- A session the constructor returns is of its kind, under the id of its peer info, with no
listener and active. -/
theorem create_ok {kind : PeerKind} {peerInfo : PeerInfo} {peerConfig : PeerConfig}
    {socket : Option Socket} {ping : PingState} {now : Nat} {p : Peer}
    (h : Peer.create kind peerInfo peerConfig socket ping now = .ok p) :
    p.kind = kind ∧ p.listeners = [] ∧ p.ActiveInv ∧ getPeerIdFromPeerInfo peerInfo = .ok p.id := by
  simp only [Peer.create, getPeerIdFromPeerInfo_address] at h
  cases hid : getPeerIdFromPeerInfo peerInfo with
  | error e => rw [hid] at h; cases h
  | ok id =>
    rw [hid] at h; cases h
    exact ⟨rfl, rfl, Peer.init_activeInv _ _ _ _ _ _ _, rfl⟩

/-- `andThen` keeps the invariant when its second operation keeps it from any pool. -/
theorem Inv.andThen {r : PoolResult} {f : PeerPool → PoolResult} (h : r.pool.Inv)
    (hf : ∀ P, P.Inv → (f P).pool.Inv) : (r.andThen f).pool.Inv := by
  unfold PoolResult.andThen; split
  · exact h
  · exact hf _ h

/-- Handling a session's event keeps the invariant. -/
theorem Inv.handlePeerEvent {P : PeerPool} (h : P.Inv) (event : PeerEvent) :
    (P.handlePeerEvent event).pool.Inv := by
  cases event with
  | banPeer peerId => exact h.congr rfl fun _ _ => rfl
  | closeOutbound packet | closeInbound packet =>
    simp only [PeerPool.handlePeerEvent]
    split
    · exact h
    · exact (h.removePeerOf _ _ _).andThen fun _ h' => h'
  | _ => exact h

/-- Handling a session's events in order keeps the invariant. -/
theorem Inv.dispatch {P : PeerPool} (h : P.Inv) (ref : Nat) (events : List PeerEvent) :
    (P.dispatch ref events).pool.Inv := by
  induction events generalizing P with
  | nil => exact h
  | cons event rest ih =>
    unfold PeerPool.dispatch
    split
    · exact (h.handlePeerEvent event).andThen fun _ h' => ih h'
    · exact ih h

/-- A session step, with the events it emits handled, keeps the invariant. -/
theorem Inv.sessionStep {P : PeerPool} (h : P.Inv) (ref : Nat) (s : SessionStep) :
    (P.sessionStep ref s).pool.Inv := by
  unfold PeerPool.sessionStep
  cases hp : P.session? ref with
  | none => exact h
  | some p => exact ((h.setSession_step hp s).dispatch ref _).andThen fun _ h' => h'

/-- `_evictPeer` keeps the invariant. -/
theorem Inv.evictPeer {P : PeerPool} (h : P.Inv) (kind : PeerKind) (choice : Nat) :
    (P.evictPeer kind choice).pool.Inv := by
  unfold PeerPool.evictPeer
  split
  · exact h
  · split
    · exact h
    · split
      · exact h.removePeerOf _ _ _
      · exact h

/-- `addInboundPeer` keeps the invariant. -/
theorem Inv.addInboundPeer {P : PeerPool} (h : P.Inv) (peerInfo : PeerInfo) (socket : Socket)
    (now choice : Nat) : (P.addInboundPeer peerInfo socket now choice).pool.Inv := by
  unfold PeerPool.addInboundPeer
  refine Inv.andThen ?_ fun P h => ?_
  · split
    · exact h.evictPeer _ _
    · exact h
  · split
    · exact h
    · next p hp =>
      obtain ⟨hk, hl, ha, -⟩ := create_ok hp
      split
      · exact h.appendUnbound p hl ha
      · next hhas =>
        refine h.insertPeer .inbound p ?_ hk hl ha
        simpa [JsMap.has_eq_isSome] using hhas

/-- `addOutboundPeer` given the id of its peer info keeps the invariant. -/
theorem Inv.addOutboundPeer {P : PeerPool} (h : P.Inv) (peerId : PeerId) (peerInfo : PeerInfo)
    (now : Nat) (hid : getPeerIdFromPeerInfo peerInfo = .ok peerId) :
    (P.addOutboundPeer peerId peerInfo now).pool.Inv := by
  unfold PeerPool.addOutboundPeer
  split
  · exact h
  · next hnone =>
    split
    · exact h
    · next p hp =>
      obtain ⟨hk, hl, ha, hpid⟩ := create_ok hp
      have : p.id = peerId := by rw [hid] at hpid; exact (Except.ok.inj hpid).symm
      exact h.insertPeer .outbound p (this ▸ hnone) hk hl ha

/-- Adding outbound peers one by one keeps the invariant. -/
theorem Inv.addOutboundPeers {P : PeerPool} (h : P.Inv) (now : Nat) (peers : List PeerInfo) :
    (addOutboundPeers now P peers).pool.Inv := by
  induction peers generalizing P with
  | nil => exact h
  | cons peerInfo rest ih =>
    unfold PeerPool.addOutboundPeers
    split
    · exact h
    · next peerId hid => exact (h.addOutboundPeer peerId peerInfo now hid).andThen fun _ h' => ih h'

/-- Removing every listed session of a kind keeps the invariant. -/
theorem Inv.removeAllOf {P : PeerPool} (h : P.Inv) (kind : PeerKind) (keys : List PeerId) :
    (removeAllOf kind P keys).pool.Inv := by
  induction keys generalizing P with
  | nil => exact h
  | cons key rest ih =>
    unfold PeerPool.removeAllOf
    split
    · exact (h.removePeerOf _ _ _).andThen fun _ h' => ih h'
    · exact ih h

/-- `applyNodeInfo` keeps the invariant. -/
theorem Inv.applyNodeInfo {P : PeerPool} (h : P.Inv) (nodeInfo : NodeInfo) :
    (P.applyNodeInfo nodeInfo).pool.Inv := by
  unfold PeerPool.applyNodeInfo
  have hfold : ∀ (refs : List Nat) (r : PoolResult), r.pool.Inv →
      (refs.foldl (fun r ref => r.andThen (·.applyNodeInfoOnPeer ref nodeInfo)) r).pool.Inv := by
    intro refs
    induction refs with
    | nil => exact fun _ hr => hr
    | cons ref rest ih => exact fun r hr => ih _ (hr.andThen fun _ h' => h'.applyNodeInfoOnPeer _ _)
  exact hfold _ _ (h.congr rfl fun _ _ => rfl)

/-- `_sendToPeer` keeps the invariant. -/
theorem Inv.sendToPeer {P : PeerPool} (h : P.Inv) (peerId : PeerId) :
    (P.sendToPeer peerId).pool.Inv := by
  unfold PeerPool.sendToPeer
  split
  · exact h
  · split
    · exact h
    · next ref p hp =>
      have hs := h.setSession_step hp .send
      simp only [Peer.step] at hs
      split <;> (rename_i heq; rw [heq] at hs; exact hs)

/-- `send` keeps the invariant. -/
theorem Inv.send {P : PeerPool} (h : P.Inv) (peers : List PeerInfo) : (P.send peers).pool.Inv := by
  induction peers generalizing P with
  | nil => exact h
  | cons peerInfo rest ih =>
    unfold PeerPool.send
    split
    · exact h
    · refine Inv.andThen ?_ fun _ h' => ih h'
      split <;> exact h.sendToPeer _

/-- `requestFromPeer` keeps the invariant. -/
theorem Inv.requestFromPeer {P : PeerPool} (h : P.Inv) (peerId : PeerId) (procedure : String) :
    (P.requestFromPeer peerId procedure).pool.Inv := by
  unfold PeerPool.requestFromPeer
  split
  · exact h
  · exact h.sessionStep _ _

/-- `request` keeps the invariant. -/
theorem Inv.request {P : PeerPool} (h : P.Inv) (selectedPeers : List PeerInfo)
    (procedure : String) : (P.request selectedPeers procedure).pool.Inv := by
  unfold PeerPool.request
  split
  · exact h
  · split
    · exact h
    · exact h.requestFromPeer _ _

/-- An unban timer firing keeps the invariant. -/
theorem Inv.unbanTimer {P : PeerPool} (h : P.Inv) (index : Nat) :
    (P.unbanTimer index).pool.Inv := by
  unfold PeerPool.unbanTimer
  split
  · exact h.congr rfl fun _ _ => rfl
  · exact h

/-- A tick of the outbound shuffle keeps the invariant. -/
theorem Inv.shuffleTick {P : PeerPool} (h : P.Inv) (choice : Nat) :
    (P.shuffleTick choice).pool.Inv := by
  unfold PeerPool.shuffleTick
  split
  · exact h.evictPeer _ _
  · exact h

/-- `applyPenalty` keeps the invariant. -/
theorem Inv.applyPenalty {P : PeerPool} (h : P.Inv) (peerId : PeerId) (penalty : Int) :
    (P.applyPenalty peerId penalty).pool.Inv := by
  have hpenalise : ∀ (ref : Option Nat) (P : PeerPool), P.Inv →
      (match ref with
        | some ref => P.sessionStep ref (.applyPenalty penalty)
        | none => PoolResult.ok P).pool.Inv := fun ref P h => by
    cases ref with
    | none => exact h
    | some ref => exact h.sessionStep _ _
  unfold PeerPool.applyPenalty
  split
  · exact h
  · exact (hpenalise _ _ h).andThen (hpenalise _)

/-- `removeAllPeers` keeps the invariant. -/
theorem Inv.removeAllPeers {P : PeerPool} (h : P.Inv) : P.removeAllPeers.pool.Inv := by
  unfold PeerPool.removeAllPeers
  refine Inv.andThen (Inv.removeAllOf ?_ _ _) fun _ h' => h'.removeAllOf _ _
  exact h.congr rfl fun _ _ => rfl

/-- `triggerNewConnections` keeps the invariant. -/
theorem Inv.triggerNewConnections {P : PeerPool} (h : P.Inv)
    (newPeers triedPeers fixedPeers peersToConnect : List PeerInfo) (now : Nat) :
    (P.triggerNewConnections newPeers triedPeers fixedPeers peersToConnect now).pool.Inv := by
  unfold PeerPool.triggerNewConnections
  split
  · exact h
  · exact h.addOutboundPeers _ _

/-! ### Runs -/

/-- Every step keeps the invariant, `addOutboundPeer` when given its peer info's id. -/
theorem Inv.step {P : PeerPool} (h : P.Inv) (s : PoolStep) (hs : s.KeyedById) :
    (P.step s).pool.Inv := by
  cases s with
  | addInboundPeer peerInfo socket now choice => exact h.addInboundPeer _ _ _ _
  | addOutboundPeer peerId peerInfo now => exact h.addOutboundPeer _ _ _ hs
  | triggerNewConnections => exact h.triggerNewConnections _ _ _ _ _
  | removeInboundPeer | removeOutboundPeer => exact h.removePeerOf _ _ _
  | removeAllPeers => exact h.removeAllPeers
  | shuffleTick => exact h.shuffleTick _
  | applyPenalty => exact h.applyPenalty _ _
  | applyNodeInfo => exact h.applyNodeInfo _
  | send => exact h.send _
  | request => exact h.request _ _
  | unbanTimer => exact h.unbanTimer _
  | session ref s => exact h.sessionStep _ _

/-- In every state a run reaches from a pool that keeps the invariant, with `addOutboundPeer`
given its peer info's id, every entry of either map is a session of that kind under its own id
with the pool's listeners bound, no session is under two entries, and a session in no map
either never had a listener of the pool or is disconnected and still carries the two error
listeners `_unbindHandlersFromPeer` misses. -/
theorem run_inv {P : PeerPool} (h : P.Inv) (steps : List PoolStep)
    (hs : ∀ s ∈ steps, s.KeyedById) : (P.run steps).1.Inv := by
  induction steps generalizing P with
  | nil => exact h
  | cons s rest ih =>
    exact ih (h.step s (hs s (.head _))) fun s' hs' => hs s' (.tail _ hs')

/-- A fresh pool through outbound connections, an inbound arrival, a removal and a socket
error of the removed session. -/
theorem run_inv_fresh_pool :
    let steps : List PoolStep :=
      [.triggerNewConnections [] [] [] [{ ipAddress := "1.2.3.4", wsPort := 5000 }] 0,
        .addInboundPeer { ipAddress := "1.2.3.5", wsPort := 5000 } {} 0 0,
        .removeInboundPeer "1.2.3.5:5000" intentionalDisconnectStatusCode,
        .session 1 .socketError]
    (init ⟨⟨1000, 100, 10⟩, 20, 20, 0, 0, 0, [], []⟩).Inv ∧ (∀ s ∈ steps, s.KeyedById) ∧
      ((init ⟨⟨1000, 100, 10⟩, 20, 20, 0, 0, 0, [], []⟩).run steps).1.Inv :=
  have hs : ∀ s ∈ ([.triggerNewConnections [] [] [] [{ ipAddress := "1.2.3.4", wsPort := 5000 }] 0,
      .addInboundPeer { ipAddress := "1.2.3.5", wsPort := 5000 } {} 0 0,
      .removeInboundPeer "1.2.3.5:5000" intentionalDisconnectStatusCode,
      .session 1 .socketError] : List PoolStep), s.KeyedById := by
    intro s hs
    simp only [List.mem_cons, List.mem_singleton, List.not_mem_nil, or_false] at hs
    rcases hs with rfl | rfl | rfl | rfl <;> trivial
  ⟨init_inv _, hs, run_inv (init_inv _) _ hs⟩

end PeerPool

end Lp2p
