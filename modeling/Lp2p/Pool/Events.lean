import Lp2p.Pool.Inv

/-!
# What the pool emits

`removeInboundPeer` and `removeOutboundPeer` (`src/peer_pool.js:500–522`) emit `removePeer`
on every call, whether their map has an entry under the id or not: removing an id twice, or
after a close event already removed it, emits `removePeer` twice for one deletion. They are the
only way an entry leaves a map, so over every run each deletion comes with a `removePeer` for
its key.

The pool's listener on `banPeer` (`src/peer_pool.js:192–201`) re-emits it and arms an unban
timer: whatever a pool operation does, the timers it arms are the ids of the `banPeer` events it
re-emits, in order. A session emits `banPeer` for every penalty that leaves its reputation at
or below 0, not only the first, so a session the pool still holds after its ban arms a timer
for each later penalty.

`_unbindHandlersFromPeer` leaves the pool's listeners on `outboundSocketError` and
`inboundSocketError` bound (`src/peer_pool.js:654–687`). The removed session emits neither
again: its `disconnect` closed the socket's `error` stream. And the `for await` loop of a socket does not catch (`src/peer/inbound.js:
94–104`): a listener that throws while a request is handled ends the loop, and no later
request on that socket is handled.
-/

namespace Lp2p

open Lp2p.Js Lp2p.Address

/-- The id of a `banPeer` event the pool re-emits. -/
def PoolEvent.bannedId? : PoolEvent → Option PeerId
  | .relay (.banPeer peerId) => some peerId
  | _ => none

namespace PeerPool

/-! ### Removal -/

/-- Detaching a session leaves both maps. -/
@[simp] theorem detachPeer_peerMap (P : PeerPool) (kind : PeerKind) (peerId : PeerId)
    (code : DisconnectCode) (kind' : PeerKind) :
    (P.detachPeer kind peerId code).peerMap kind' = P.peerMap kind' := by
  unfold detachPeer
  split
  · split <;> simp
  · rfl

/-- Detaching a session leaves the unban timers. -/
@[simp] theorem detachPeer_unbanTimers (P : PeerPool) (kind : PeerKind) (peerId : PeerId)
    (code : DisconnectCode) : (P.detachPeer kind peerId code).unbanTimers = P.unbanTimers := by
  unfold detachPeer
  split
  · split <;> rfl
  · rfl

/-- A removal deletes the entry of the detached pool and emits `removePeer`. -/
theorem removePeerOf_eq (P : PeerPool) (kind : PeerKind) (peerId : PeerId)
    (code : DisconnectCode) :
    P.removePeerOf kind peerId code = ((P.peerMap kind).has peerId,
      .ok ((P.detachPeer kind peerId code).setPeerMap kind ((P.peerMap kind).erase peerId))
        [.removePeer peerId]) := by
  simp [removePeerOf, JsMap.delete]

/-- Each call of `removeInboundPeer` or `removeOutboundPeer`, made directly or on a close
event, an eviction or `removeAllPeers`, throws nothing and emits `removePeer(peerId)` once,
whether or not its map has an entry under `peerId`. It deletes that entry, leaves the other map
as it was, and returns whether there was one. -/
theorem removePeerOf_emits_removePeer (P : PeerPool) (kind : PeerKind) (peerId : PeerId)
    (code : DisconnectCode) :
    (P.removePeerOf kind peerId code).2.events = [.removePeer peerId] ∧
      (P.removePeerOf kind peerId code).2.error = none ∧
      (P.removePeerOf kind peerId code).1 = (P.peerMap kind).has peerId ∧
      ∀ kind', (P.removePeerOf kind peerId code).2.pool.peerMap kind' =
        if kind' = kind then (P.peerMap kind).erase peerId else P.peerMap kind' := by
  rw [removePeerOf_eq]
  exact ⟨rfl, rfl, rfl, fun kind' => by simp [PoolResult.ok]⟩

/-- One outbound session is added and removed twice: the pool emits `removePeer` for both
removals, and the second deleted nothing. -/
theorem removeOutboundPeer_twice :
    ((init ⟨⟨1000, 100, 10⟩, 20, 20, 0, 0, 0, [], []⟩).run
      [.addOutboundPeer "1.2.3.4:5000" { ipAddress := "1.2.3.4", wsPort := 5000 } 0,
        .removeOutboundPeer "1.2.3.4:5000" intentionalDisconnectStatusCode,
        .removeOutboundPeer "1.2.3.4:5000" intentionalDisconnectStatusCode]).2 =
      [.removePeer "1.2.3.4:5000", .removePeer "1.2.3.4:5000"] := by
  decide

/-! ### Every deletion is announced -/

/-- What an operation from `P` that leaves `r` does to the keys of the two maps: a key it
deletes from either map has a `removePeer` among the events it emits. -/
def EmitsForDeletions (P : PeerPool) (r : PoolResult) : Prop :=
  ∀ kind key, (P.peerMap kind).has key → (r.pool.peerMap kind).has key = false →
    PoolEvent.removePeer key ∈ r.events

namespace EmitsForDeletions

/-- An operation that leaves both maps as they were. -/
theorem of_maps {P : PeerPool} {r : PoolResult} (h : ∀ kind, r.pool.peerMap kind = P.peerMap kind) :
    EmitsForDeletions P r := fun kind key hp hn => by simp [h, hp] at hn

/-- Only the maps of the pool an operation starts from matter. -/
theorem of_start {P P' : PeerPool} {r : PoolResult} (h : EmitsForDeletions P' r)
    (hm : ∀ kind, P'.peerMap kind = P.peerMap kind) : EmitsForDeletions P r :=
  fun kind key hp => h kind key (by rw [hm]; exact hp)

/-- One operation after another: a key the two delete is gone after the first or after the
second. -/
theorem seq {P : PeerPool} {r r' : PoolResult} (h : EmitsForDeletions P r)
    (h' : EmitsForDeletions r.pool r') (error : Option JsError) :
    EmitsForDeletions P ⟨r'.pool, r.events ++ r'.events, error⟩ := fun kind key hp hn => by
  cases hm : (r.pool.peerMap kind).has key
  · exact List.mem_append_left _ (h kind key hp hm)
  · exact List.mem_append_right _ (h' kind key hm hn)

/-- `andThen` announces every deletion when its second operation does from any pool. -/
theorem andThen {P : PeerPool} {r : PoolResult} {f : PeerPool → PoolResult}
    (h : EmitsForDeletions P r) (hf : ∀ P', EmitsForDeletions P' (f P')) :
    EmitsForDeletions P (r.andThen f) := by
  unfold PoolResult.andThen
  split
  · exact h
  · exact h.seq (hf r.pool) _

end EmitsForDeletions

/-- A removal deletes only the entry it names, and emits `removePeer` for it. -/
theorem emitsForDeletions_removePeerOf (P : PeerPool) (kind : PeerKind) (peerId : PeerId)
    (code : DisconnectCode) : EmitsForDeletions P (P.removePeerOf kind peerId code).2 := by
  intro kind' key hp hn
  rw [removePeerOf_eq] at hn ⊢
  by_cases hk : kind' = kind ∧ key = peerId
  · simp [PoolResult.ok, hk.2]
  · have hkey : ((P.detachPeer kind peerId code).setPeerMap kind
        ((P.peerMap kind).erase peerId)).peerMap kind' = P.peerMap kind' ∨ key ≠ peerId := by
      by_cases hk' : kind' = kind
      · exact .inr fun h => hk ⟨hk', h⟩
      · exact .inl (by simp [hk'])
    rcases hkey with hm | hne
    · simp [PoolResult.ok, hm, hp] at hn
    · by_cases hk' : kind' = kind
      · subst hk'
        simp only [PoolResult.ok, peerMap_setPeerMap, if_true, JsMap.has_eq_isSome,
          JsMap.get?_erase, hne, if_false] at hn hp
        simp [hp] at hn
      · simp [PoolResult.ok, hk', hp] at hn

/-- Adding a session deletes no key. -/
theorem emitsForDeletions_insertPeer (P : PeerPool) (kind : PeerKind) (p : Peer) :
    EmitsForDeletions P (P.insertPeer kind p) := fun kind' key hp hn => by
  rw [insertPeer_peerMap] at hn
  split_ifs at hn with hk
  · subst hk
    simp only [JsMap.has_eq_isSome, JsMap.get?_set] at hn hp
    split_ifs at hn <;> simp_all
  · simp [hp] at hn

/-- Handling a session's event announces every entry it deletes. -/
theorem emitsForDeletions_handlePeerEvent (P : PeerPool) (event : PeerEvent) :
    EmitsForDeletions P (P.handlePeerEvent event) := by
  cases event with
  | closeOutbound packet | closeInbound packet =>
    simp only [handlePeerEvent]
    split
    · exact .of_maps fun _ => rfl
    · exact (emitsForDeletions_removePeerOf _ _ _ _).andThen fun P' => .of_maps fun _ => rfl
  | banPeer => exact .of_maps fun kind => by cases kind <;> rfl
  | _ => exact .of_maps fun _ => rfl

/-- Handling a session's events in order announces every entry they delete. -/
theorem emitsForDeletions_dispatch (P : PeerPool) (ref : Nat) (events : List PeerEvent) :
    EmitsForDeletions P (P.dispatch ref events) := by
  induction events generalizing P with
  | nil => exact .of_maps fun _ => rfl
  | cons event rest ih =>
    unfold dispatch
    split
    · exact (emitsForDeletions_handlePeerEvent P event).andThen ih
    · exact ih P

/-- A session step, with its events handled, announces every entry it deletes. -/
theorem emitsForDeletions_sessionStep (P : PeerPool) (ref : Nat) (s : SessionStep) :
    EmitsForDeletions P (P.sessionStep ref s) := by
  unfold sessionStep
  split
  · exact .of_maps fun _ => rfl
  · exact ((emitsForDeletions_dispatch _ ref _).andThen fun P' => .of_maps fun _ => rfl).of_start
      (peerMap_setSession _ _ _)

/-- `_evictPeer` announces the entry it deletes. -/
theorem emitsForDeletions_evictPeer (P : PeerPool) (kind : PeerKind) (choice : Nat) :
    EmitsForDeletions P (P.evictPeer kind choice) := by
  unfold evictPeer
  split
  · exact .of_maps fun _ => rfl
  · split
    · exact .of_maps fun _ => rfl
    · split
      · exact emitsForDeletions_removePeerOf _ _ _ _
      · exact .of_maps fun _ => rfl

/-- `addInboundPeer` announces every entry its eviction deletes. -/
theorem emitsForDeletions_addInboundPeer (P : PeerPool) (peerInfo : PeerInfo) (socket : Socket)
    (now choice : Nat) : EmitsForDeletions P (P.addInboundPeer peerInfo socket now choice) := by
  unfold addInboundPeer
  refine EmitsForDeletions.andThen ?_ fun P => ?_
  · split
    · exact emitsForDeletions_evictPeer _ _ _
    · exact .of_maps fun _ => rfl
  · split
    · exact .of_maps fun _ => rfl
    · split
      · exact .of_maps fun kind => by cases kind <;> rfl
      · exact emitsForDeletions_insertPeer _ _ _

/-- `addOutboundPeer` deletes no entry. -/
theorem emitsForDeletions_addOutboundPeer (P : PeerPool) (peerId : PeerId) (peerInfo : PeerInfo)
    (now : Nat) : EmitsForDeletions P (P.addOutboundPeer peerId peerInfo now) := by
  unfold addOutboundPeer
  split
  · exact .of_maps fun _ => rfl
  · split
    · exact .of_maps fun _ => rfl
    · exact emitsForDeletions_insertPeer _ _ _

/-- Adding outbound peers one by one deletes no entry. -/
theorem emitsForDeletions_addOutboundPeers (now : Nat) (P : PeerPool) (peers : List PeerInfo) :
    EmitsForDeletions P (addOutboundPeers now P peers) := by
  induction peers generalizing P with
  | nil => exact .of_maps fun _ => rfl
  | cons peerInfo rest ih =>
    unfold addOutboundPeers
    split
    · exact .of_maps fun _ => rfl
    · exact (emitsForDeletions_addOutboundPeer _ _ _ _).andThen ih

/-- Removing every listed session of a kind announces each entry it deletes. -/
theorem emitsForDeletions_removeAllOf (kind : PeerKind) (P : PeerPool) (keys : List PeerId) :
    EmitsForDeletions P (removeAllOf kind P keys) := by
  induction keys generalizing P with
  | nil => exact .of_maps fun _ => rfl
  | cons key rest ih =>
    unfold removeAllOf
    split
    · exact (emitsForDeletions_removePeerOf _ _ _ _).andThen ih
    · exact ih P

/-- `applyNodeInfo` announces every entry it deletes. -/
theorem emitsForDeletions_applyNodeInfo (P : PeerPool) (nodeInfo : NodeInfo) :
    EmitsForDeletions P (P.applyNodeInfo nodeInfo) := by
  have hfold : ∀ (refs : List Nat) (r : PoolResult), EmitsForDeletions P r →
      EmitsForDeletions P
        (refs.foldl (fun r ref => r.andThen (·.applyNodeInfoOnPeer ref nodeInfo)) r) := by
    intro refs
    induction refs with
    | nil => exact fun _ hr => hr
    | cons ref rest ih =>
      exact fun r hr => ih _ (hr.andThen fun P' => .of_maps (applyNodeInfoOnPeer_peerMap P' _ _))
  exact hfold _ _ (.of_maps fun kind => by cases kind <;> rfl)

/-- `send` announces every entry it deletes. -/
theorem emitsForDeletions_send (P : PeerPool) (peers : List PeerInfo) :
    EmitsForDeletions P (P.send peers) := by
  have hsend : ∀ (P : PeerPool) (peerId : PeerId) kind,
      (P.sendToPeer peerId).pool.peerMap kind = P.peerMap kind := fun P peerId kind => by
    unfold sendToPeer
    split
    · rfl
    · split
      · rfl
      · split <;> exact peerMap_setSession _ _ _ _
  induction peers generalizing P with
  | nil => exact .of_maps fun _ => rfl
  | cons peerInfo rest ih =>
    unfold send
    split
    · exact .of_maps fun _ => rfl
    · refine EmitsForDeletions.andThen ?_ ih
      split <;> exact .of_maps (hsend P _)

/-- `applyPenalty` announces every entry a ban deletes. -/
theorem emitsForDeletions_applyPenalty (P : PeerPool) (peerId : PeerId) (penalty : Int) :
    EmitsForDeletions P (P.applyPenalty peerId penalty) := by
  have hpenalise : ∀ (ref : Option Nat) (P : PeerPool),
      EmitsForDeletions P (match ref with
        | some ref => P.sessionStep ref (.applyPenalty penalty)
        | none => PoolResult.ok P) := fun ref P => by
    cases ref with
    | none => exact .of_maps fun _ => rfl
    | some ref => exact emitsForDeletions_sessionStep _ _ _
  unfold applyPenalty
  split
  · exact .of_maps fun _ => rfl
  · exact (hpenalise _ _).andThen (hpenalise _)

/-- No pool operation deletes a key of either map without a `removePeer` for it. -/
theorem emitsForDeletions_step (P : PeerPool) (s : PoolStep) :
    EmitsForDeletions P (P.step s) := by
  cases s with
  | addInboundPeer => exact emitsForDeletions_addInboundPeer _ _ _ _ _
  | addOutboundPeer => exact emitsForDeletions_addOutboundPeer _ _ _ _
  | triggerNewConnections =>
    simp only [step, triggerNewConnections]
    split
    · exact .of_maps fun _ => rfl
    · exact emitsForDeletions_addOutboundPeers _ _ _
  | removeInboundPeer | removeOutboundPeer => exact emitsForDeletions_removePeerOf _ _ _ _
  | removeAllPeers =>
    exact ((emitsForDeletions_removeAllOf _ _ _).andThen fun P' =>
      emitsForDeletions_removeAllOf _ _ _).of_start fun kind => by cases kind <;> rfl
  | shuffleTick =>
    simp only [step, shuffleTick]
    split
    · exact emitsForDeletions_evictPeer _ _ _
    · exact .of_maps fun _ => rfl
  | applyPenalty => exact emitsForDeletions_applyPenalty _ _ _
  | applyNodeInfo => exact emitsForDeletions_applyNodeInfo _ _
  | send => exact emitsForDeletions_send _ _
  | request =>
    simp only [step, request, requestFromPeer]
    split
    · exact .of_maps fun _ => rfl
    · split
      · exact .of_maps fun _ => rfl
      · split
        · exact .of_maps fun _ => rfl
        · exact emitsForDeletions_sessionStep _ _ _
  | unbanTimer =>
    simp only [step, unbanTimer]
    split <;> exact .of_maps fun kind => by cases kind <;> rfl
  | session => exact emitsForDeletions_sessionStep _ _ _

/-- Every run announces every entry it deletes. -/
theorem emitsForDeletions_run (P : PeerPool) (steps : List PoolStep) :
    EmitsForDeletions P ⟨(P.run steps).1, (P.run steps).2, none⟩ := by
  induction steps generalizing P with
  | nil => exact .of_maps fun _ => rfl
  | cons s rest ih => exact (emitsForDeletions_step P s).seq (ih _) none

/-- Every call of `removeInboundPeer` or `removeOutboundPeer`, made directly or on a close
event, an eviction or `removeAllPeers`, throws nothing and emits `removePeer(peerId)` exactly
once, whether or not its map has an entry under `peerId`; it deletes that entry, leaves the
other map, and returns whether there was one. No other part of the pool deletes an entry: over
every run of the pool, whatever its steps, each operation that deletes a key from either map
emits `removePeer` for that key, and so does the run. -/
theorem deletions_emit_removePeer :
    (∀ (P : PeerPool) (kind : PeerKind) (peerId : PeerId) (code : DisconnectCode),
      (P.removePeerOf kind peerId code).2.events = [.removePeer peerId] ∧
        (P.removePeerOf kind peerId code).2.error = none ∧
        (P.removePeerOf kind peerId code).1 = (P.peerMap kind).has peerId ∧
        ∀ kind', (P.removePeerOf kind peerId code).2.pool.peerMap kind' =
          if kind' = kind then (P.peerMap kind).erase peerId else P.peerMap kind') ∧
    (∀ (P : PeerPool) (s : PoolStep) kind key, (P.peerMap kind).has key →
      ((P.step s).pool.peerMap kind).has key = false → .removePeer key ∈ (P.step s).events) ∧
    ∀ (P : PeerPool) (steps : List PoolStep) kind key, (P.peerMap kind).has key →
      ((P.run steps).1.peerMap kind).has key = false → .removePeer key ∈ (P.run steps).2 :=
  ⟨removePeerOf_emits_removePeer, emitsForDeletions_step, emitsForDeletions_run⟩

/-- An inbound session removed from the pool still carries the pool's listeners on the two
socket-error events. Its `disconnect` closed the socket's `error` stream, so a socket error
reported afterwards is not handled, and the pool re-emits nothing. -/
theorem removed_session_keeps_error_listeners :
    (let r := (init ⟨⟨1000, 100, 10⟩, 20, 20, 0, 0, 0, [], []⟩).run
      [.addInboundPeer { ipAddress := "1.2.3.4", wsPort := 5000 } {} 0 0,
        .removeInboundPeer "1.2.3.4:5000" intentionalDisconnectStatusCode,
        .session 0 .socketError]
    (r.1.session? 0).map Peer.listeners = some leftoverEvents ∧
      r.2 = [.removePeer "1.2.3.4:5000"]) := by
  decide

/-! ### Bans and unban timers -/

/-- The ids of the `banPeer` events among `events`, in order. -/
def bannedIds (events : List PoolEvent) : List PeerId := events.filterMap PoolEvent.bannedId?

/-- No events ban no id. -/
@[simp] theorem bannedIds_nil : bannedIds [] = [] := rfl

/-- The ids banned by two lists of events, in order. -/
@[simp] theorem bannedIds_append (a b : List PoolEvent) :
    bannedIds (a ++ b) = bannedIds a ++ bannedIds b :=
  List.filterMap_append _ _ _

/-- What an operation starting from `P` leaves arms an unban timer for each `banPeer` it
re-emits, and for nothing else. -/
def ArmsForBans (P : PeerPool) (r : PoolResult) : Prop :=
  r.pool.unbanTimers = P.unbanTimers ++ bannedIds r.events

/-- An operation that leaves the pool and bans nobody arms no timer, and needs none. -/
theorem ArmsForBans.ok (P : PeerPool) (events : List PoolEvent) (h : bannedIds events = []) :
    ArmsForBans P (.ok P events) := by
  simp [ArmsForBans, PoolResult.ok, h]

/-- An operation that throws at once arms no timer, and needs none. -/
theorem ArmsForBans.error (P : PeerPool) (error : JsError) : ArmsForBans P ⟨P, [], some error⟩ := by
  simp [ArmsForBans]

/-- Only the timers of the pool an operation starts from matter. -/
theorem ArmsForBans.of_unbanTimers {P P' : PeerPool} {r : PoolResult} (h : ArmsForBans P' r)
    (he : P'.unbanTimers = P.unbanTimers) : ArmsForBans P r := by
  rw [ArmsForBans, h, he]

/-- `andThen` arms a timer for every ban when its second operation does from any pool. -/
theorem ArmsForBans.andThen {P : PeerPool} {r : PoolResult} {f : PeerPool → PoolResult}
    (h : ArmsForBans P r) (hf : ∀ P', ArmsForBans P' (f P')) : ArmsForBans P (r.andThen f) := by
  unfold PoolResult.andThen
  split
  · exact h
  · unfold ArmsForBans at h ⊢
    rw [bannedIds_append, ← List.append_assoc, ← h]
    exact hf _

/-- Removing a session bans nobody and leaves the timers. -/
theorem armsForBans_removePeerOf (P : PeerPool) (kind : PeerKind) (peerId : PeerId)
    (code : DisconnectCode) : ArmsForBans P (P.removePeerOf kind peerId code).2 := by
  rw [removePeerOf_eq]
  cases kind <;> simp [ArmsForBans, PoolResult.ok, setPeerMap, bannedIds, PoolEvent.bannedId?]

/-- Handling a session's event arms a timer for a `banPeer` it relays. -/
theorem armsForBans_handlePeerEvent (P : PeerPool) (event : PeerEvent) :
    ArmsForBans P (P.handlePeerEvent event) := by
  cases event with
  | banPeer peerId =>
    simp [handlePeerEvent, ArmsForBans, PoolResult.ok, bannedIds, PoolEvent.bannedId?]
  | closeOutbound packet | closeInbound packet =>
    simp only [handlePeerEvent]
    split
    · exact .error _ _
    · exact (armsForBans_removePeerOf _ _ _ _).andThen fun P' => .ok P' _ rfl
  | _ => exact .ok P _ rfl

/-- Handling a session's events in order arms a timer for each ban. -/
theorem armsForBans_dispatch (P : PeerPool) (ref : Nat) (events : List PeerEvent) :
    ArmsForBans P (P.dispatch ref events) := by
  induction events generalizing P with
  | nil => exact .ok P [] rfl
  | cons event rest ih =>
    unfold dispatch
    split
    · exact (armsForBans_handlePeerEvent P event).andThen ih
    · exact ih P

/-- A failed push bans nobody. -/
theorem bannedIds_pushFailure (p : Peer) (s : SessionStep) : bannedIds (pushFailure p s) = [] := by
  unfold pushFailure
  split
  · split <;> rfl
  · rfl

/-- A step of a session through the pool arms a timer for each `banPeer` the pool re-emits. -/
theorem armsForBans_sessionStep (P : PeerPool) (ref : Nat) (s : SessionStep) :
    ArmsForBans P (P.sessionStep ref s) := by
  unfold sessionStep
  split
  · exact .ok P [] rfl
  · exact ArmsForBans.of_unbanTimers ((armsForBans_dispatch _ ref _).andThen fun P' =>
      .ok P' _ (bannedIds_pushFailure _ _)) rfl

/-- `applyPenalty` through the pool arms a timer for each `banPeer` the pool re-emits. -/
theorem armsForBans_applyPenalty (P : PeerPool) (peerId : PeerId) (penalty : Int) :
    ArmsForBans P (P.applyPenalty peerId penalty) := by
  have hpenalise : ∀ (ref : Option Nat) (P : PeerPool),
      ArmsForBans P (match ref with
        | some ref => P.sessionStep ref (.applyPenalty penalty)
        | none => PoolResult.ok P) := fun ref P => by
    cases ref with
    | none => exact .ok P [] rfl
    | some ref => exact armsForBans_sessionStep _ _ _
  unfold applyPenalty
  split
  · exact .error _ _
  · exact (hpenalise _ _).andThen (hpenalise _)

/-- A session emits `banPeer` for every penalty that leaves its reputation at or below 0:
over any run its `banPeer` events are `banTrace` of the penalties it is dealt. The step that
emits `banPeer` then disconnects the session with `FORBIDDEN_CONNECTION`: the session ends
inactive and its socket receives `disconnect(FORBIDDEN_CONNECTION)`, unless an earlier
`disconnect` already made it inactive, then the stream closes and kills. The pool arms an unban
timer for each `banPeer` it re-emits, whether the penalty comes through
`PeerPool.applyPenalty` or from a step of the session itself. -/
theorem bans_arm_unban_timers :
    (∀ (p : Peer) (steps : List SessionStep),
      (p.run steps).2.filter PeerEvent.isBan = Peer.banTrace p.id p.reputation (p.penalties steps)) ∧
    (∀ (p : Peer) (s : SessionStep), (p.step s).2.filter PeerEvent.isBan ≠ [] →
      (p.step s).1.active = false ∧
        (p.step s).1.socket = p.socket.map (·.callAll
          ((if p.active then [.disconnect .forbiddenConnection] else []) ++
            Peer.unbindSocketCalls p.kind))) ∧
    (∀ (P : PeerPool) (peerId : PeerId) (penalty : Int),
      ArmsForBans P (P.applyPenalty peerId penalty)) ∧
    ∀ (P : PeerPool) (ref : Nat) (s : SessionStep), ArmsForBans P (P.sessionStep ref s) :=
  ⟨Peer.run_bans, Peer.step_ban_disconnects, armsForBans_applyPenalty, armsForBans_sessionStep⟩

/-- A penalty of 100 through the pool bans a new inbound session; before its close event
removes it, a penalty of 0 bans it again, and the pool arms a second unban timer. -/
theorem applyPenalty_arms_two_timers :
    let r := (init ⟨⟨1000, 100, 10⟩, 20, 20, 0, 0, 0, [], []⟩).run
      [.addInboundPeer { ipAddress := "1.2.3.4", wsPort := 5000 } {} 0 0,
        .applyPenalty "1.2.3.4:5000" 100, .applyPenalty "1.2.3.4:5000" 0]
    r.1.unbanTimers = ["1.2.3.4:5000", "1.2.3.4:5000"] ∧
      r.2 = [.relay (.banPeer "1.2.3.4:5000"), .relay (.banPeer "1.2.3.4:5000")] := by
  decide

/-! ### Requests on a socket -/

/-- An inbound session of the pool is asked for `status`: `_handleRawRPC` answers, and the
application's listener answers again, so its `end` throws `RPCResponseAlreadySentError`. That
ends the socket's request loop: a second `status` request is never handled, its counter stays
at 1 and it gets no answer. -/
theorem rpc_loop_ends_on_second_response :
    (((init ⟨⟨1000, 100, 10⟩, 20, 20, 0, 0, 0, [], []⟩).run
      [.addInboundPeer { ipAddress := "1.2.3.4", wsPort := 5000 } {} 0 0,
        .session 0 (.rpcFrame (.request "status" (.ok { ipAddress := "1.2.3.4", wsPort := 5000 }))
          .returns .respond),
        .session 0 (.rpcFrame (.request "status" (.ok { ipAddress := "1.2.3.4", wsPort := 5000 }))
          .returns .returns)]).1.session? 0).map (fun p => (p.rpcCounter.get? "status", p.socket)) =
      some (some 1, some { calls := [.endRequest], rpcConsumer := false }) := by
  decide

end PeerPool

end Lp2p
