import Lp2p.Pool.Base

/-!
# Runs of a pool

Everything that can happen to a pool: the calls the application makes on it, the firings of
its timers, and every step of each of its sessions, whether or not the session is still in a
map. `PeerPool.step` runs one of them and `PeerPool.run` a sequence; an exception ends the call
that threw it, not the run.
-/

namespace Lp2p

open Lp2p.Js

/-- One thing that happens to a pool. -/
inductive PoolStep
  | addInboundPeer (peerInfo : PeerInfo) (socket : Socket) (now choice : Nat)
  | addOutboundPeer (peerId : PeerId) (peerInfo : PeerInfo) (now : Nat)
  | triggerNewConnections (newPeers triedPeers fixedPeers peersToConnect : List PeerInfo)
      (now : Nat)
  | removeInboundPeer (peerId : PeerId) (code : DisconnectCode)
  | removeOutboundPeer (peerId : PeerId) (code : DisconnectCode)
  | removeAllPeers
  | shuffleTick (choice : Nat)
  | applyPenalty (peerId : PeerId) (penalty : Int)
  | applyNodeInfo (nodeInfo : NodeInfo)
  | send (selectedPeers : List PeerInfo)
  | request (selectedPeers : List PeerInfo) (procedure : String)
  | unbanTimer (index : Nat)
  | session (ref : Nat) (s : SessionStep)
  deriving DecidableEq

namespace PeerPool

/-- One step of a pool. -/
def step (P : PeerPool) : PoolStep → PoolResult
  | .addInboundPeer peerInfo socket now choice => P.addInboundPeer peerInfo socket now choice
  | .addOutboundPeer peerId peerInfo now => P.addOutboundPeer peerId peerInfo now
  | .triggerNewConnections newPeers triedPeers fixedPeers peersToConnect now =>
    P.triggerNewConnections newPeers triedPeers fixedPeers peersToConnect now
  | .removeInboundPeer peerId code => (P.removeInboundPeer peerId code).2
  | .removeOutboundPeer peerId code => (P.removeOutboundPeer peerId code).2
  | .removeAllPeers => P.removeAllPeers
  | .shuffleTick choice => P.shuffleTick choice
  | .applyPenalty peerId penalty => P.applyPenalty peerId penalty
  | .applyNodeInfo nodeInfo => P.applyNodeInfo nodeInfo
  | .send selectedPeers => P.send selectedPeers
  | .request selectedPeers procedure => P.request selectedPeers procedure
  | .unbanTimer index => P.unbanTimer index
  | .session ref s => P.sessionStep ref s

/-- A sequence of steps: the final pool and every event emitted, in order. -/
def run (P : PeerPool) : List PoolStep → PeerPool × List PoolEvent
  | [] => (P, [])
  | s :: rest =>
    let r := P.step s
    let (P', later) := r.pool.run rest
    (P', r.events ++ later)

/-- A run of no steps leaves the pool and emits nothing. -/
@[simp] theorem run_nil (P : PeerPool) : P.run [] = (P, []) := rfl

/-- A run takes its first step, then runs the rest from where it left the pool. -/
@[simp] theorem run_cons (P : PeerPool) (s : PoolStep) (rest : List PoolStep) :
    P.run (s :: rest) = (((P.step s).pool.run rest).1,
      (P.step s).events ++ ((P.step s).pool.run rest).2) := rfl

end PeerPool

end Lp2p
