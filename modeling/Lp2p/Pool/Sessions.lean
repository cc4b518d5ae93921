import Lp2p.Pool.Inv

/-!
# What every operation of a pool keeps

The pool changes its state in five ways only: by a step of a session it holds (`disconnect`,
`applyNodeInfo`, `send`, `request`, and every step of `sessionStep`); by deleting an entry,
whose session it disconnects and unbinds (`removeOutboundPeer`, `removeInboundPeer`); by adding
a session it has just constructed under the session's id, with its listeners bound
(`_bindHandlersToPeer`); by keeping such a session in no map (`addInboundPeer` on a taken id);
and by updating fields no map and no session reads. A property of pools those five keep
(`PoolProp`) holds of every pool a run reaches, whatever the steps.

A property of one session that the steps, the two listener updates and the constructor keep
(`SessionProp`) is such a property: it holds of every session of every pool a run reaches, in
or out of the maps.
-/

namespace Lp2p

open Lp2p.Js Lp2p.Address

/-- A session the constructor returned. -/
def Created (kind : PeerKind) (p : Peer) : Prop :=
  ∃ peerInfo peerConfig socket ping now,
    Peer.create kind peerInfo peerConfig socket ping now = .ok p

/-- A property of pools that the pool's primitive updates keep. -/
structure PoolProp where
  /-- The property. -/
  holds : PeerPool → Prop
  /-- It reads only the sessions and the two maps. -/
  congr : ∀ {P P' : PeerPool}, holds P → P'.sessions = P.sessions →
    P'.inboundPeerMap = P.inboundPeerMap → P'.outboundPeerMap = P.outboundPeerMap → holds P'
  /-- A step of a session the pool holds keeps it. -/
  setSession_step : ∀ {P : PeerPool} {ref : Nat} {p : Peer} (s : SessionStep), holds P →
    P.session? ref = some p → holds (P.setSession ref (p.step s).1)
  /-- Deleting an entry, its session disconnected and unbound, keeps it. -/
  removePeerOf : ∀ {P : PeerPool} (kind : PeerKind) (peerId : PeerId) (code : DisconnectCode),
    holds P → holds (P.removePeerOf kind peerId code).2.pool
  /-- Adding a new session under its id, bound to the pool, keeps it. -/
  insert : ∀ {P : PeerPool} {kind : PeerKind} {p : Peer}, holds P → Created kind p →
    holds { P.setPeerMap kind ((P.peerMap kind).set p.id P.sessions.length) with
      sessions := P.sessions ++ [PeerPool.bindHandlersToPeer p] }
  /-- Keeping a new session in no map keeps it. -/
  append : ∀ {P : PeerPool} {kind : PeerKind} {p : Peer}, holds P → Created kind p →
    holds { P with sessions := P.sessions ++ [p] }

namespace PoolProp

variable (Q : PoolProp) {P : PeerPool}

/-- `andThen` keeps the property when its second operation keeps it from any pool. -/
theorem andThen {r : PoolResult} {f : PeerPool → PoolResult} (h : Q.holds r.pool)
    (hf : ∀ P, Q.holds P → Q.holds (f P).pool) : Q.holds (r.andThen f).pool := by
  unfold PoolResult.andThen; split
  · exact h
  · exact hf _ h

/-! ### Every operation keeps it -/

/-- Handling a session's event keeps the property. -/
theorem handlePeerEvent (h : Q.holds P) (event : PeerEvent) :
    Q.holds (P.handlePeerEvent event).pool := by
  cases event with
  | banPeer => exact Q.congr h rfl rfl rfl
  | closeOutbound packet | closeInbound packet =>
    simp only [PeerPool.handlePeerEvent]
    split
    · exact h
    · exact Q.andThen (Q.removePeerOf _ _ _ h) fun _ h' => h'
  | _ => exact h

/-- Handling a session's events in order keeps the property. -/
theorem dispatch (h : Q.holds P) (ref : Nat) (events : List PeerEvent) :
    Q.holds (P.dispatch ref events).pool := by
  induction events generalizing P with
  | nil => exact h
  | cons event rest ih =>
    unfold PeerPool.dispatch
    split
    · exact Q.andThen (Q.handlePeerEvent h event) fun _ h' => ih h'
    · exact ih h

/-- A session step, with its events handled, keeps the property. -/
theorem sessionStep (h : Q.holds P) (ref : Nat) (s : SessionStep) :
    Q.holds (P.sessionStep ref s).pool := by
  unfold PeerPool.sessionStep
  cases hp : P.session? ref with
  | none => exact h
  | some p => exact Q.andThen (Q.dispatch (Q.setSession_step s h hp) ref _) fun _ h' => h'

/-- Pushing node info to a session keeps the property. -/
theorem applyNodeInfoOnPeer (h : Q.holds P) (ref : Nat) (nodeInfo : NodeInfo) :
    Q.holds (P.applyNodeInfoOnPeer ref nodeInfo).pool := by
  unfold PeerPool.applyNodeInfoOnPeer
  cases hp : P.session? ref with
  | none => exact h
  | some p =>
    have hs := Q.setSession_step (.applyNodeInfo nodeInfo) h hp
    simp only [Peer.step] at hs
    simp only [hp]
    split <;> (rename_i heq; rw [heq] at hs; exact hs)

/-- Adding a created session to a map keeps the property. -/
theorem insertPeer (h : Q.holds P) {kind : PeerKind} {p : Peer} (hp : Created kind p) :
    Q.holds (P.insertPeer kind p).pool := by
  unfold PeerPool.insertPeer
  dsimp only
  split
  · exact Q.applyNodeInfoOnPeer (Q.insert h hp) _ _
  · exact Q.insert h hp

/-- `_evictPeer` keeps the property. -/
theorem evictPeer (h : Q.holds P) (kind : PeerKind) (choice : Nat) :
    Q.holds (P.evictPeer kind choice).pool := by
  unfold PeerPool.evictPeer
  split
  · exact h
  · split
    · exact h
    · split
      · exact Q.removePeerOf _ _ _ h
      · exact h

/-- `addInboundPeer` keeps the property. -/
theorem addInboundPeer (h : Q.holds P) (peerInfo : PeerInfo) (socket : Socket) (now choice : Nat) :
    Q.holds (P.addInboundPeer peerInfo socket now choice).pool := by
  unfold PeerPool.addInboundPeer
  refine Q.andThen ?_ fun P h => ?_
  · split
    · exact Q.evictPeer h _ _
    · exact h
  · split
    · exact h
    · next p hp =>
      have hc : Created .inbound p := ⟨_, _, _, _, _, hp⟩
      split
      · exact Q.append h hc
      · exact Q.insertPeer h hc

/-- `addOutboundPeer` keeps the property. -/
theorem addOutboundPeer (h : Q.holds P) (peerId : PeerId) (peerInfo : PeerInfo) (now : Nat) :
    Q.holds (P.addOutboundPeer peerId peerInfo now).pool := by
  unfold PeerPool.addOutboundPeer
  split
  · exact h
  · split
    · exact h
    · next p hp => exact Q.insertPeer h ⟨_, _, _, _, _, hp⟩

/-- Adding outbound peers one by one keeps the property. -/
theorem addOutboundPeers (h : Q.holds P) (now : Nat) (peers : List PeerInfo) :
    Q.holds (PeerPool.addOutboundPeers now P peers).pool := by
  induction peers generalizing P with
  | nil => exact h
  | cons peerInfo rest ih =>
    unfold PeerPool.addOutboundPeers
    split
    · exact h
    · exact Q.andThen (Q.addOutboundPeer h _ peerInfo now) fun _ h' => ih h'

/-- `triggerNewConnections` keeps the property. -/
theorem triggerNewConnections (h : Q.holds P)
    (newPeers triedPeers fixedPeers peersToConnect : List PeerInfo) (now : Nat) :
    Q.holds (P.triggerNewConnections newPeers triedPeers fixedPeers peersToConnect now).pool := by
  unfold PeerPool.triggerNewConnections
  split
  · exact h
  · exact Q.addOutboundPeers h _ _

/-- Removing every listed session of a kind keeps the property. -/
theorem removeAllOf (h : Q.holds P) (kind : PeerKind) (keys : List PeerId) :
    Q.holds (PeerPool.removeAllOf kind P keys).pool := by
  induction keys generalizing P with
  | nil => exact h
  | cons key rest ih =>
    unfold PeerPool.removeAllOf
    split
    · exact Q.andThen (Q.removePeerOf _ _ _ h) fun _ h' => ih h'
    · exact ih h

/-- `removeAllPeers` keeps the property. -/
theorem removeAllPeers (h : Q.holds P) : Q.holds P.removeAllPeers.pool := by
  unfold PeerPool.removeAllPeers
  refine Q.andThen (Q.removeAllOf ?_ _ _) fun _ h' => Q.removeAllOf h' _ _
  exact Q.congr h rfl rfl rfl

/-- `applyNodeInfo` keeps the property. -/
theorem applyNodeInfo (h : Q.holds P) (nodeInfo : NodeInfo) :
    Q.holds (P.applyNodeInfo nodeInfo).pool := by
  unfold PeerPool.applyNodeInfo
  have hfold : ∀ (refs : List Nat) (r : PoolResult), Q.holds r.pool →
      Q.holds (refs.foldl (fun r ref => r.andThen (·.applyNodeInfoOnPeer ref nodeInfo)) r).pool := by
    intro refs
    induction refs with
    | nil => exact fun _ hr => hr
    | cons ref rest ih =>
      exact fun r hr => ih _ (Q.andThen hr fun _ h' => Q.applyNodeInfoOnPeer h' _ _)
  exact hfold _ _ (Q.congr h rfl rfl rfl)

/-- `_sendToPeer` keeps the property. -/
theorem sendToPeer (h : Q.holds P) (peerId : PeerId) : Q.holds (P.sendToPeer peerId).pool := by
  unfold PeerPool.sendToPeer
  split
  · exact h
  · split
    · exact h
    · next ref p hp =>
      have hs := Q.setSession_step .send h hp
      simp only [Peer.step] at hs
      split <;> (rename_i heq; rw [heq] at hs; exact hs)

/-- `send` keeps the property. -/
theorem send (h : Q.holds P) (peers : List PeerInfo) : Q.holds (P.send peers).pool := by
  induction peers generalizing P with
  | nil => exact h
  | cons peerInfo rest ih =>
    unfold PeerPool.send
    split
    · exact h
    · refine Q.andThen ?_ fun _ h' => ih h'
      split <;> exact Q.sendToPeer h _

/-- `request` keeps the property. -/
theorem request (h : Q.holds P) (selectedPeers : List PeerInfo) (procedure : String) :
    Q.holds (P.request selectedPeers procedure).pool := by
  unfold PeerPool.request PeerPool.requestFromPeer
  split
  · exact h
  · split
    · exact h
    · split
      · exact h
      · exact Q.sessionStep h _ _

/-- `applyPenalty` keeps the property. -/
theorem applyPenalty (h : Q.holds P) (peerId : PeerId) (penalty : Int) :
    Q.holds (P.applyPenalty peerId penalty).pool := by
  have hpenalise : ∀ (ref : Option Nat) (P : PeerPool), Q.holds P →
      Q.holds (match ref with
        | some ref => P.sessionStep ref (.applyPenalty penalty)
        | none => PoolResult.ok P).pool := fun ref P h => by
    cases ref with
    | none => exact h
    | some ref => exact Q.sessionStep h _ _
  unfold PeerPool.applyPenalty
  split
  · exact h
  · exact Q.andThen (hpenalise _ _ h) (hpenalise _)

/-- Every step of a pool keeps the property. -/
theorem step (h : Q.holds P) (s : PoolStep) : Q.holds (P.step s).pool := by
  cases s with
  | addInboundPeer => exact Q.addInboundPeer h _ _ _ _
  | addOutboundPeer => exact Q.addOutboundPeer h _ _ _
  | triggerNewConnections => exact Q.triggerNewConnections h _ _ _ _ _
  | removeInboundPeer | removeOutboundPeer => exact Q.removePeerOf _ _ _ h
  | removeAllPeers => exact Q.removeAllPeers h
  | shuffleTick =>
    simp only [PeerPool.step, PeerPool.shuffleTick]; split
    · exact Q.evictPeer h _ _
    · exact h
  | applyPenalty => exact Q.applyPenalty h _ _
  | applyNodeInfo => exact Q.applyNodeInfo h _
  | send => exact Q.send h _
  | request => exact Q.request h _ _
  | unbanTimer =>
    simp only [PeerPool.step, PeerPool.unbanTimer]; split
    · exact Q.congr h rfl rfl rfl
    · exact h
  | session => exact Q.sessionStep h _ _

/-- Over every run, the pool keeps the property, whatever the steps. -/
theorem run (h : Q.holds P) (steps : List PoolStep) : Q.holds (P.run steps).1 := by
  induction steps generalizing P with
  | nil => exact h
  | cons s rest ih => exact ih (Q.step h s)

end PoolProp

/-- A property of sessions the pool cannot break: every step of the session keeps it, binding
and unbinding the pool's listeners keep it, and the constructor establishes it. -/
structure SessionProp where
  /-- The property. -/
  holds : Peer → Prop
  /-- Every step of the session keeps it. -/
  step : ∀ p s, holds p → holds (p.step s).1
  /-- Binding the pool's listeners keeps it. -/
  bind : ∀ p, holds p → holds (PeerPool.bindHandlersToPeer p)
  /-- Unbinding the pool's listeners keeps it. -/
  unbind : ∀ p, holds p → holds (PeerPool.unbindHandlersFromPeer p)
  /-- The constructor establishes it. -/
  create : ∀ kind peerInfo peerConfig socket ping now p,
    Peer.create kind peerInfo peerConfig socket ping now = .ok p → holds p

namespace PeerPool

/-- Every session the pool holds has the property. -/
def AllSessions (Q : SessionProp) (P : PeerPool) : Prop :=
  ∀ ref p, P.session? ref = some p → Q.holds p

section

variable {Q : SessionProp}

/-- A fresh pool holds no session, so every session has the property. -/
theorem init_allSessions (config : PeerPoolConfig) : (init config).AllSessions Q := by
  intro ref p hp
  simp [init, session?] at hp

/-- The property reads only the sessions. -/
theorem AllSessions.of_sessions {P P' : PeerPool} (h : P.AllSessions Q)
    (hs : P'.sessions = P.sessions) : P'.AllSessions Q := fun ref p hp =>
  h ref p (by simpa only [session?, hs] using hp)

/-- Replacing a session by one with the property keeps it for all sessions. -/
theorem AllSessions.setSession {P : PeerPool} {ref : Nat} {p q : Peer} (h : P.AllSessions Q)
    (hp : P.session? ref = some p) (hq : Q.holds q) : (P.setSession ref q).AllSessions Q := by
  intro r p' hp'
  rw [session?_setSession P ref r p q hp] at hp'
  split at hp'
  · cases hp'; exact hq
  · exact h r p' hp'

/-- Appending a session with the property keeps it for all sessions. -/
theorem AllSessions.append {P P' : PeerPool} {q : Peer} (h : P.AllSessions Q) (hq : Q.holds q)
    (hs : P'.sessions = P.sessions ++ [q]) : P'.AllSessions Q := by
  intro r p hp
  have hr : P'.session? r = ({ P with sessions := P.sessions ++ [q] } : PeerPool).session? r := by
    simp only [session?, hs]
  rw [hr, session?_append] at hp
  split at hp
  · cases hp; exact hq
  · exact h r p hp

/-- Removing a session keeps the property for all sessions: disconnecting and unbinding keep it. -/
theorem AllSessions.removePeerOf {P : PeerPool} (h : P.AllSessions Q) (kind : PeerKind)
    (peerId : PeerId) (code : DisconnectCode) :
    (P.removePeerOf kind peerId code).2.pool.AllSessions Q := by
  have hd : (P.detachPeer kind peerId code).AllSessions Q := by
    unfold detachPeer
    split
    · split
      · next peer hp =>
        exact h.setSession hp (Q.unbind _ (Q.step peer (.disconnect code) (h _ _ hp)))
      · exact h
    · exact h
  exact hd.of_sessions (sessions_setPeerMap _ _ _)

end

end PeerPool

/-- A property of every session is a property of the pool. -/
def SessionProp.toPoolProp (Q : SessionProp) : PoolProp where
  holds := PeerPool.AllSessions Q
  congr h hs _ _ := h.of_sessions hs
  setSession_step s h hp := h.setSession hp (Q.step _ s (h _ _ hp))
  removePeerOf kind peerId code h := h.removePeerOf kind peerId code
  insert h := fun ⟨_, _, _, _, _, hp⟩ => h.append (Q.bind _ (Q.create _ _ _ _ _ _ _ hp)) rfl
  append h := fun ⟨_, _, _, _, _, hp⟩ => h.append (Q.create _ _ _ _ _ _ _ hp) rfl

namespace PeerPool

variable {Q : SessionProp}

/-- Every step of a pool keeps the property of every session. -/
theorem AllSessions.step {P : PeerPool} (h : P.AllSessions Q) (s : PoolStep) :
    (P.step s).pool.AllSessions Q :=
  Q.toPoolProp.step h s

/-- Over every run, every session of the pool keeps the property, whatever the steps. -/
theorem run_allSessions {P : PeerPool} (h : P.AllSessions Q) (steps : List PoolStep) :
    (P.run steps).1.AllSessions Q :=
  Q.toPoolProp.run h steps

end PeerPool

end Lp2p
