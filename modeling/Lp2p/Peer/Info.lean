import Mathlib.Data.Rat.Defs

/-!
# Peer information and node information

`PeerInfo` is the record a session is created from and advertises (spec §3): the address
fields that identify the peer, the height that `Peer` caches (`src/peer/base.js:92`) and the
`isPassive` flag that `applyNodeInfo` reads (`src/peer/base.js:292`). `NodeInfo` is the
local node's advertised state; the pool reads only the keys of its `modules` object
(`src/peer_pool.js:367–371`).
-/

namespace Lp2p

/-- Peer identifiers, `"<ip>:<port>"` or `"[<ip>]:<port>"`. -/
abbrev PeerId := String

/-- A discovered peer's address and the advertised facts the sessions read. -/
structure PeerInfo where
  ipAddress : String
  wsPort : Nat
  height : Option ℚ := none
  isPassive : Bool := false
  deriving DecidableEq, Repr

/-- The local node's advertised state; `modules` lists the keys of `nodeInfo.modules`,
`none` when the field is absent. -/
structure NodeInfo where
  modules : Option (List String) := none
  deriving DecidableEq, Repr

end Lp2p
