import Lp2p.Js.String
import Lp2p.Js.Map
import Lp2p.Js.Number
import Lp2p.Js.Array
import Lp2p.Js.Buffer
import Lp2p.Js.Json
import Lp2p.Errors
import Lp2p.Peer.Info
import Lp2p.Address.Net
import Lp2p.Address.Utils
import Lp2p.Address.Canonical
import Lp2p.Address.Network
import Lp2p.Address.PeerId
import Lp2p.Peer.Base
import Lp2p.Peer.Frames
import Lp2p.Peer.Session
import Lp2p.Peer.Ban
import Lp2p.Peer.Productivity
import Lp2p.Peer.Lifecycle
import Lp2p.Peer.Identity
import Lp2p.Peer.Validation
import Lp2p.Peer.Sanitize
import Lp2p.Peer.Rates
import Lp2p.Pool.Base
import Lp2p.Pool.Run
import Lp2p.Pool.Inv
import Lp2p.Pool.Events
import Lp2p.Pool.Quota
import Lp2p.Pool.Sessions
import Lp2p.Pool.Identity
import Lp2p.Pool.Reachable
import Lp2p.Pool.Eviction
import Lp2p.Pool.Connect
import Lp2p.Pool.Timers
import Lp2p.Peer.Socket
import Lp2p.Pool.Delivery
import Lp2p.Peer.Wire
