import Lp2p.Peer.Session
import Lp2p.Js.Array
import Mathlib.Data.List.Sort

/-!
# The peer pool

`PeerPool` (`src/peer_pool.js`) keeps its sessions in two maps from peer id to session, one
for each kind. A session is an object: the pool, the maps and the application all hold the same
one, and a session removed from its map keeps running its timers and its socket's loops. The
model keeps every session the pool ever created in `sessions`, in creation order, and the maps
hold positions in that list.

An operation returns the pool it leaves, the events the pool emitted, in order, and the
exception it threw, if any; an exception keeps the changes made before it, as JavaScript does.
The pool's listeners on a session run on the events of a session method after the method
returns, which is the order JavaScript runs them in: a session method emits at most one event
the pool acts on, as its last step.

What the environment decides is a parameter of the step that depends on it: the element
`shuffle(...)[0]` picks, the peers the application's selection functions return, and the time.
-/

namespace Lp2p

open Lp2p.Js Lp2p.Address

/-- `PROTECTION_CATEGORY`, `src/peer_pool.js:62–66`. -/
inductive ProtectionCategory
  | latency
  | responseRate
  | connectTime
  deriving DecidableEq, Repr

/-- The fields of `peerPoolConfig` the pool reads: the session config it passes on, the
quotas, the three protection ratios (an absent ratio is `0`, which is falsy like `undefined`),
and the whitelisted and fixed peers of `peerLists`. -/
structure PeerPoolConfig where
  peerConfig : PeerConfig
  maxOutboundConnections : Nat
  maxInboundConnections : Nat
  latencyProtectionRatio : ℚ
  productivityProtectionRatio : ℚ
  longevityProtectionRatio : ℚ
  whitelisted : List PeerInfo
  fixedPeers : List PeerInfo
  deriving DecidableEq

/-- An event the pool emits: `removePeer`, the failures it reports itself, `unbanPeer` when
an unban timer fires, and a session's event re-emitted under its own name. -/
inductive PoolEvent
  | removePeer (peerId : PeerId)
  | failedToPushNodeInfo (error : JsError)
  | failedToSendMessage (error : JsError)
  | unbanPeer (peerId : PeerId)
  | relay (event : PeerEvent)
  deriving DecidableEq, Repr

/-- A pool: its config and node info, every session it created, the two maps, the shuffle
interval and the unban timers pending, in the order they were armed. -/
structure PeerPool where
  config : PeerPoolConfig
  nodeInfo : Option NodeInfo
  sessions : List Peer
  inboundPeerMap : JsMap PeerId Nat
  outboundPeerMap : JsMap PeerId Nat
  outboundShuffleInterval : Bool
  unbanTimers : List PeerId
  deriving DecidableEq

/-- What a pool operation leaves: the pool, the events emitted, and the exception thrown. -/
structure PoolResult where
  pool : PeerPool
  events : List PoolEvent
  error : Option JsError
  deriving DecidableEq

namespace PoolResult

/-- An operation that returns normally. -/
def ok (pool : PeerPool) (events : List PoolEvent := []) : PoolResult := ⟨pool, events, none⟩

/-- Run `f` on the pool `r` leaves, unless `r` threw. -/
def andThen (r : PoolResult) (f : PeerPool → PoolResult) : PoolResult :=
  match r.error with
  | some _ => r
  | none =>
    let r' := f r.pool
    ⟨r'.pool, r.events ++ r'.events, r'.error⟩

end PoolResult

/-- The events `_bindHandlersToPeer` listens to, `src/peer_pool.js:632–652`. -/
def boundEvents : List PeerEventName :=
  [.requestReceived, .messageReceived, .connectOutbound, .connectAbortOutbound, .closeOutbound,
    .closeInbound, .outboundSocketError, .inboundSocketError, .updatedPeerInfo,
    .failedPeerInfoUpdate, .failedToFetchPeerInfo, .failedToFetchPeers,
    .failedToCollectPeerDetailsOnConnect, .banPeer, .unbanPeer, .discoveredPeer]

/-- The events `_unbindHandlersFromPeer` stops listening to, `src/peer_pool.js:654–687`. -/
def unboundEvents : List PeerEventName :=
  [.requestReceived, .messageReceived, .connectOutbound, .connectAbortOutbound, .closeOutbound,
    .closeInbound, .updatedPeerInfo, .failedToFetchPeerInfo, .failedToFetchPeers,
    .failedPeerInfoUpdate, .failedToCollectPeerDetailsOnConnect, .banPeer, .unbanPeer,
    .discoveredPeer]

namespace PeerPool

/-- `new PeerPool(peerPoolConfig)`, `src/peer_pool.js:84–206`: empty maps, the shuffle interval
running. -/
def init (config : PeerPoolConfig) : PeerPool :=
  ⟨config, none, [], .empty, .empty, true, []⟩

/-- The map of a kind. -/
def peerMap (P : PeerPool) : PeerKind → JsMap PeerId Nat
  | .inbound => P.inboundPeerMap
  | .outbound => P.outboundPeerMap

/-- Replace the map of a kind. -/
def setPeerMap (P : PeerPool) : PeerKind → JsMap PeerId Nat → PeerPool
  | .inbound, m => { P with inboundPeerMap := m }
  | .outbound, m => { P with outboundPeerMap := m }

/-- The session at a position. -/
def session? (P : PeerPool) (ref : Nat) : Option Peer := P.sessions[ref]?

/-- Replace the session at a position. -/
def setSession (P : PeerPool) (ref : Nat) (p : Peer) : PeerPool :=
  { P with sessions := P.sessions.set ref p }

/-- `_bindHandlersToPeer`. -/
def bindHandlersToPeer (p : Peer) : Peer := { p with listeners := p.listeners ++ boundEvents }

/-- `_unbindHandlersFromPeer`: each `removeListener` removes one registration. -/
def unbindHandlersFromPeer (p : Peer) : Peer :=
  { p with listeners := unboundEvents.foldl List.erase p.listeners }

/-- The first steps of a removal: disconnect the session under `peerId` in the map of `kind`,
if there is one, and unbind the pool's listeners from it. -/
def detachPeer (P : PeerPool) (kind : PeerKind) (peerId : PeerId) (code : DisconnectCode) :
    PeerPool :=
  match (P.peerMap kind).get? peerId with
  | some ref =>
    match P.session? ref with
    | some peer => P.setSession ref (unbindHandlersFromPeer (peer.disconnect code))
    | none => P
  | none => P

/-- `removeInboundPeer` and `removeOutboundPeer`, `src/peer_pool.js:500–522`: disconnect the
session under `peerId` and unbind the pool from it, delete the entry, and emit `removePeer`
whether or not there was one. The first component is the `wasRemoved` they return. -/
def removePeerOf (P : PeerPool) (kind : PeerKind) (peerId : PeerId) (code : DisconnectCode) :
    Bool × PoolResult :=
  let P := P.detachPeer kind peerId code
  let (wasRemoved, m) := (P.peerMap kind).delete peerId
  (wasRemoved, .ok (P.setPeerMap kind m) [.removePeer peerId])

/-- `removeOutboundPeer(peerId, code, reason)`. -/
def removeOutboundPeer (P : PeerPool) (peerId : PeerId) (code : DisconnectCode) :
    Bool × PoolResult :=
  P.removePeerOf .outbound peerId code

/-- `removeInboundPeer(peerId, code, reason)`. -/
def removeInboundPeer (P : PeerPool) (peerId : PeerId) (code : DisconnectCode) :
    Bool × PoolResult :=
  P.removePeerOf .inbound peerId code

/-- The pool's listener for an event of one of its sessions, `src/peer_pool.js:106–205`:
`banPeer` arms an unban timer, a close event removes the session under the id of the packet's
peer info, and every event is re-emitted. -/
def handlePeerEvent (P : PeerPool) (event : PeerEvent) : PoolResult :=
  match event with
  | .banPeer peerId => .ok { P with unbanTimers := P.unbanTimers ++ [peerId] } [.relay event]
  | .closeOutbound packet =>
    match getPeerIdFromPeerInfo packet.peerInfo with
    | .error error => ⟨P, [], some error⟩
    | .ok peerId => (P.removeOutboundPeer peerId packet.code).2.andThen (.ok · [.relay event])
  | .closeInbound packet =>
    match getPeerIdFromPeerInfo packet.peerInfo with
    | .error error => ⟨P, [], some error⟩
    | .ok peerId => (P.removeInboundPeer peerId packet.code).2.andThen (.ok · [.relay event])
  | _ => .ok P [.relay event]

/-- The events a session at `ref` emitted, each passed to the pool's listener if the pool
listens to it on that session at that moment. -/
def dispatch (P : PeerPool) (ref : Nat) : List PeerEvent → PoolResult
  | [] => .ok P
  | event :: rest =>
    if (P.session? ref).any (·.listens event.name) then
      (P.handlePeerEvent event).andThen (·.dispatch ref rest)
    else P.dispatch ref rest

/-- What `_applyNodeInfoOnPeer` catches when the request it awaits settles with an error. -/
def pushFailure (p : Peer) : SessionStep → List PoolEvent
  | .settle index outcome now =>
    match (p.settleRequest index outcome now).2 with
    | some (⟨_, .pushNodeInfo⟩, .error error) => [.failedToPushNodeInfo error]
    | _ => []
  | _ => []

/-- A step of the session at `ref`, then the pool's listeners on what it emitted. -/
def sessionStep (P : PeerPool) (ref : Nat) (s : SessionStep) : PoolResult :=
  match P.session? ref with
  | none => .ok P
  | some p =>
    let (q, emitted) := p.step s
    ((P.setSession ref q).dispatch ref emitted).andThen (.ok · (pushFailure p s))

/-- `_applyNodeInfoOnPeer`, `src/peer_pool.js:542–551`: an exception of `applyNodeInfo` is
reported as `failedToPushNodeInfo`. -/
def applyNodeInfoOnPeer (P : PeerPool) (ref : Nat) (nodeInfo : NodeInfo) : PoolResult :=
  match P.session? ref with
  | none => .ok P
  | some p =>
    match p.applyNodeInfo nodeInfo .pushNodeInfo with
    | (q, .error error) => .ok (P.setSession ref q) [.failedToPushNodeInfo error]
    | (q, .ok ()) => .ok (P.setSession ref q)

/-- Add a session the pool just created under its id, bind the pool to it and push the node
info to it, as `addInboundPeer` and `addOutboundPeer` end (`src/peer_pool.js:386–393,
404–411`). -/
def insertPeer (P : PeerPool) (kind : PeerKind) (p : Peer) : PoolResult :=
  let ref := P.sessions.length
  let P := { (P.setPeerMap kind ((P.peerMap kind).set p.id ref)) with
    sessions := P.sessions ++ [bindHandlersToPeer p] }
  match P.nodeInfo with
  | some nodeInfo => P.applyNodeInfoOnPeer ref nodeInfo
  | none => .ok P

/-- `addOutboundPeer`, `src/peer_pool.js:396–412`: nothing if the map has `peerId`. -/
def addOutboundPeer (P : PeerPool) (peerId : PeerId) (peerInfo : PeerInfo) (now : Nat) :
    PoolResult :=
  match P.outboundPeerMap.get? peerId with
  | some _ => .ok P
  | none =>
    match Peer.createOutbound peerInfo P.config.peerConfig now with
    | .error error => ⟨P, [], some error⟩
    | .ok p => P.insertPeer .outbound p

/-- `[...map.values()]` as sessions, with their positions. -/
def getPeers (P : PeerPool) (kind : PeerKind) : List (Nat × Peer) :=
  (P.peerMap kind).values.filterMap fun ref => (P.session? ref).map (ref, ·)

/-- The value a protection category compares, `peer[category]`. -/
def categoryGt : ProtectionCategory → Peer → Peer → Bool
  | .latency, a, b => b.latency < a.latency
  | .responseRate, a, b => a.productivity.responseRate.gt b.productivity.responseRate
  | .connectTime, a, b => b.ident.connectTime < a.ident.connectTime

/-- Whether `filterPeersByCategory`'s comparator, `a[category] > b[category] ? sign : -sign`,
puts `a` before `b`: it is negative. -/
def sortsBefore (category : ProtectionCategory) (asc : Bool) (a b : Nat × Peer) : Bool :=
  if asc then !categoryGt category a.2 b.2 else categoryGt category a.2 b.2

/-- `Math.ceil(n * percentage)` as the start of `slice`: the number of sessions a protection
drops from the front of its sorted list of `n`. -/
def protectedCount (n : Nat) (percentage : ℚ) : Nat :=
  sliceStart ((JsNumber.finite n).mul percentage).ceil n

/-- `filterPeersByCategory`, `src/peer_pool.js:68–81`: sort by the category, ascending or
descending, and drop the first `Math.ceil(peers.length * percentage)`, the product rounded to a
double. -/
def filterPeersByCategory (peers : List (Nat × Peer)) (category : ProtectionCategory)
    (percentage : ℚ) (asc : Bool) : List (Nat × Peer) :=
  if percentage > 1 ∨ percentage < 0 then peers
  else
    let peerCount := ((JsNumber.finite peers.length).mul percentage).ceil
    (sortBy (sortsBefore category asc) peers).drop (sliceStart peerCount peers.length)

/-- Whether a session is none of the listed peers: `list.every(p => getPeerIdFromPeerInfo(p)
!== peer.id)`. -/
def notListed (list : List PeerInfo) (peer : Peer) : Except JsError Bool :=
  everyE (fun p => do
    let peerId ← getPeerIdFromPeerInfo p
    pure (peerId != peer.id)) list

/-- Apply a protection when its ratio is truthy. -/
def protect (peers : List (Nat × Peer)) (category : ProtectionCategory) (ratio : ℚ)
    (asc : Bool) : List (Nat × Peer) :=
  if ratio ≠ 0 then filterPeersByCategory peers category ratio asc else peers

/-- `_selectPeersForEviction`, `src/peer_pool.js:553–596`: the inbound sessions not
whitelisted, less those protected by latency, then by response rate, then by connection
time; a stage that leaves at most one session ends the selection. -/
def selectPeersForEviction (P : PeerPool) : Except JsError (List (Nat × Peer)) := do
  let peers ←
    filterE (fun e : Nat × Peer => notListed P.config.whitelisted e.2) (P.getPeers .inbound)
  let byLatency := protect peers .latency P.config.latencyProtectionRatio true
  if byLatency.length ≤ 1 then return byLatency
  let byResponseRate :=
    protect byLatency .responseRate P.config.productivityProtectionRatio false
  if byResponseRate.length ≤ 1 then return byResponseRate
  return protect byResponseRate .connectTime P.config.longevityProtectionRatio true

/-- The sessions `_evictPeer(kind)` picks from: the outbound sessions that are not fixed
peers, or those `_selectPeersForEviction` selects (`src/peer_pool.js:605–620`). -/
def evictionCandidates (P : PeerPool) : PeerKind → Except JsError (List (Nat × Peer))
  | .outbound =>
    filterE (fun e : Nat × Peer => notListed P.config.fixedPeers e.2) (P.getPeers .outbound)
  | .inbound => P.selectPeersForEviction

/-- `_evictPeer(kind)`, `src/peer_pool.js:598–630`: remove the candidate `choice` picks, with
`EVICTED_PEER_CODE`. -/
def evictPeer (P : PeerPool) (kind : PeerKind) (choice : Nat) : PoolResult :=
  if (P.getPeers kind).length < 1 then .ok P
  else
    match P.evictionCandidates kind with
    | .error error => ⟨P, [], some error⟩
    | .ok candidates =>
      match shuffleFirst candidates choice with
      | some (_, peer) => (P.removePeerOf kind peer.id .evictedPeer).2
      | none => .ok P

/-- The keys of `nodeInfo.modules`, plus one. -/
def moduleCount (P : PeerPool) : Nat :=
  match P.nodeInfo with
  | some { modules := some modules } => modules.length + 1
  | _ => 1

/-- `addInboundPeer`, `src/peer_pool.js:365–394`: at the quota evict an inbound session
first; then create the session and throw if the map already has its id. The session created
is kept: its timers run whether or not the pool adds it. -/
def addInboundPeer (P : PeerPool) (peerInfo : PeerInfo) (socket : Socket) (now choice : Nat) :
    PoolResult :=
  let evicted :=
    if P.inboundPeerMap.size ≥ P.config.maxInboundConnections * P.moduleCount then
      P.evictPeer .inbound choice
    else .ok P
  evicted.andThen fun P =>
    match Peer.createInbound peerInfo socket P.config.peerConfig now with
    | .error error => ⟨P, [], some error⟩
    | .ok p =>
      if P.inboundPeerMap.has p.id then
        ⟨{ P with sessions := P.sessions ++ [p] }, [],
          some (plainError ("Peer " ++ p.id ++ " was already in the peer pool"))⟩
      else P.insertPeer .inbound p

/-- `applyPenalty`, `src/peer_pool.js:524–540`: penalise the outbound and the inbound session
under the id, or throw if there is neither. -/
def applyPenalty (P : PeerPool) (peerId : PeerId) (penalty : Int) : PoolResult :=
  match P.outboundPeerMap.get? peerId, P.inboundPeerMap.get? peerId with
  | none, none => ⟨P, [], some (plainError "Peer not found")⟩
  | outbound, inbound =>
    let penalise (ref : Option Nat) (P : PeerPool) : PoolResult :=
      match ref with
      | some ref => P.sessionStep ref (.applyPenalty penalty)
      | none => .ok P
    (penalise outbound P).andThen (penalise inbound)

/-- The `forEach` of `removeAllPeers` over one map: each entry still present when reached is
removed under its session's id. -/
def removeAllOf (kind : PeerKind) : PeerPool → List PeerId → PoolResult
  | P, [] => .ok P
  | P, key :: rest =>
    match (P.peerMap kind).get? key >>= P.session? with
    | some peer => (P.removePeerOf kind peer.id intentionalDisconnectStatusCode).2.andThen
        (removeAllOf kind · rest)
    | none => removeAllOf kind P rest

/-- `removeAllPeers`, `src/peer_pool.js:419–441`: clear the shuffle interval, then remove
every outbound and every inbound session. -/
def removeAllPeers (P : PeerPool) : PoolResult :=
  let P := { P with outboundShuffleInterval := false }
  (removeAllOf .outbound P P.outboundPeerMap.keys).andThen fun P =>
    removeAllOf .inbound P P.inboundPeerMap.keys

/-- `applyNodeInfo`, `src/peer_pool.js:208–214`: store the node info and push it to every
session, outbound first. -/
def applyNodeInfo (P : PeerPool) (nodeInfo : NodeInfo) : PoolResult :=
  let P := { P with nodeInfo := some nodeInfo }
  (P.outboundPeerMap.values ++ P.inboundPeerMap.values).foldl
    (fun r ref => r.andThen (·.applyNodeInfoOnPeer ref nodeInfo)) (.ok P)

/-- `addOutboundPeer(getPeerIdFromPeerInfo(peerInfo), peerInfo)` for each peer in turn, as
`triggerNewConnections` ends. -/
def addOutboundPeers (now : Nat) : PeerPool → List PeerInfo → PoolResult
  | P, [] => .ok P
  | P, peerInfo :: rest =>
    match getPeerIdFromPeerInfo peerInfo with
    | .error error => ⟨P, [], some error⟩
    | .ok peerId => (P.addOutboundPeer peerId peerInfo now).andThen (addOutboundPeers now · rest)

/-- `triggerNewConnections`, `src/peer_pool.js:300–363`, given what the selection function
returns: the ids of the new, tried and fixed peers are computed first, then the peers to connect
and the fixed peers without an outbound session are added. -/
def triggerNewConnections (P : PeerPool) (newPeers triedPeers fixedPeers : List PeerInfo)
    (peersToConnect : List PeerInfo) (now : Nat) : PoolResult :=
  match (newPeers ++ triedPeers ++ fixedPeers).mapM getPeerIdFromPeerInfo with
  | .error error => ⟨P, [], some error⟩
  | .ok _ =>
    let disconnectedFixedPeers := fixedPeers.filter fun p =>
      match getPeerIdFromPeerInfo p with
      | .ok peerId => !P.outboundPeerMap.has peerId
      | .error _ => false
    addOutboundPeers now P (peersToConnect ++ disconnectedFixedPeers)

/-- The session `peerId` names, outbound first: `outboundPeerMap.get(peerId) ||
inboundPeerMap.get(peerId)`. -/
def getPeer (P : PeerPool) (peerId : PeerId) : Option Nat :=
  P.outboundPeerMap.get? peerId <|> P.inboundPeerMap.get? peerId

/-- `sendToPeer`, `src/peer_pool.js:289–298`. -/
def sendToPeer (P : PeerPool) (peerId : PeerId) : PoolResult :=
  let notFound := sendFailError
    ("Send failed because a peer with id " ++ peerId ++ " could not be found")
  match P.getPeer peerId with
  | none => ⟨P, [], some notFound⟩
  | some ref =>
    match P.session? ref with
    | none => ⟨P, [], some notFound⟩
    | some p =>
      match p.send with
      | (q, .ok ()) => .ok (P.setSession ref q)
      | (q, .error error) => ⟨P.setSession ref q, [], some error⟩

/-- `send`, `src/peer_pool.js:248–275`, given the peers the selection function returns: an
exception of `sendToPeer` is reported as `failedToSendMessage`; one of computing an id escapes. -/
def send (P : PeerPool) : List PeerInfo → PoolResult
  | [] => .ok P
  | peerInfo :: rest =>
    match getPeerIdFromPeerInfo peerInfo with
    | .error error => ⟨P, [], some error⟩
    | .ok peerId =>
      let r := P.sendToPeer peerId
      let reported : PoolResult := match r.error with
        | some error => .ok r.pool (r.events ++ [.failedToSendMessage error])
        | none => r
      reported.andThen (·.send rest)

/-- The synchronous part of `requestFromPeer`, `src/peer_pool.js:277–287`. -/
def requestFromPeer (P : PeerPool) (peerId : PeerId) (procedure : String) : PoolResult :=
  match P.getPeer peerId with
  | none => ⟨P, [], some (requestFailError
      ("Request failed because a peer with id " ++ peerId ++ " could not be found"))⟩
  | some ref => P.sessionStep ref (.request procedure)

/-- The synchronous part of `request`, `src/peer_pool.js:224–246`, given the peers the
selection function returns. -/
def request (P : PeerPool) (selectedPeers : List PeerInfo) (procedure : String) : PoolResult :=
  match selectedPeers with
  | [] => ⟨P, [], some (requestFailError "Request failed due to no peers found in peer selection")⟩
  | peerInfo :: _ =>
    match getPeerIdFromPeerInfo peerInfo with
    | .error error => ⟨P, [], some error⟩
    | .ok peerId => P.requestFromPeer peerId procedure

/-- An unban timer fires, `_handleUnbanPeer`: emit `unbanPeer`. -/
def unbanTimer (P : PeerPool) (index : Nat) : PoolResult :=
  match P.unbanTimers[index]? with
  | some peerId => .ok { P with unbanTimers := P.unbanTimers.eraseIdx index } [.unbanPeer peerId]
  | none => .ok P

/-- The shuffle interval fires: `_evictPeer(PEER_KIND_OUTBOUND)`. -/
def shuffleTick (P : PeerPool) (choice : Nat) : PoolResult :=
  if P.outboundShuffleInterval then P.evictPeer .outbound choice else .ok P

end PeerPool

end Lp2p
