import Lp2p.Address.Utils
import Lp2p.Errors
import Lp2p.Js.Map
import Lp2p.Js.Number

/-!
# Peer sessions

A session of `src/peer/base.js` with the overrides of `InboundPeer` (`src/peer/inbound.js`)
and `OutboundPeer` (`src/unnamed/part_003`). The record holds every field the methods read;
the socket the session owns records each call made on it, so that what reaches the
transport can be read off the state. A method returns the session it leaves and the events
it emits, in order; the pool runs its listeners on those events afterwards, which is the
order JavaScript runs them in, since no listener of the pool reads or writes the emitting
session before the method's last step.

Timers are flags: a cleared `setInterval` never fires again, and the ping timer of an
inbound session is scheduled, in flight, or cleared. Requests awaiting their `invoke` are
kept in `inFlight`, in the order they were made; the step that settles one is the rest of
`request` after its `await`.
-/

namespace Lp2p

open Lp2p.Js Lp2p.Address

/-- `PEER_KIND_INBOUND` and `PEER_KIND_OUTBOUND`. -/
inductive PeerKind
  | inbound
  | outbound
  deriving DecidableEq, Repr

/-- Modelled from the spec: the status codes of `disconnect_status_codes`, which is not
under src/ (spec §6): `1000` and the named codes, which stay symbolic. -/
inductive DisconnectCode
  | code (n : Nat)
  | forbiddenConnection
  | failedToRespond
  | evictedPeer
  deriving DecidableEq, Repr

/-- `INTENTIONAL_DISCONNECT_STATUS_CODE` and the default `code = 1000` of `disconnect`. -/
def intentionalDisconnectStatusCode : DisconnectCode := .code 1000

/-- A call a session makes on its socket. -/
inductive SocketCall
  | transmit (event : String)
  | invoke (event : String)
  | connect
  | disconnect (code : DisconnectCode)
  | closeListener (stream : String)
  | killListener (stream : String)
  | killProcedure (stream : String)
  | killReceiver (stream : String)
  | endRequest
  | errorRequest
  deriving DecidableEq, Repr

/-- The socket a session owns: whether the transport reports it open, every call made on it,
oldest first, and whether the session's `for await` loops over its `rpc-request` procedure
and `remote-message` receiver streams are still running. -/
structure Socket where
  isOpen : Bool := false
  calls : List SocketCall := []
  rpcConsumer : Bool := true
  messageConsumer : Bool := true
  deriving DecidableEq, Repr

/-- Whether a call is a `disconnect`. -/
def SocketCall.isDisconnect : SocketCall → Bool
  | .disconnect _ => true
  | _ => false

/-- Make calls on a socket; a `disconnect` leaves it closed. -/
def Socket.callAll (s : Socket) (cs : List SocketCall) : Socket :=
  { s with isOpen := s.isOpen && !cs.any SocketCall.isDisconnect, calls := s.calls ++ cs }

/-- Whether the session's `for await` loop over the socket's listener stream `stream` still
runs: `closeListener` ends the stream after the events already written to it, `killListener`
at once (`src/peer/inbound.js:109–122`, `src/unnamed/part_003:176–192`), so an event the
transport reports after either call is not handled. -/
def Socket.listens (s : Socket) (stream : String) : Bool :=
  !(s.calls.contains (.closeListener stream) || s.calls.contains (.killListener stream))

/-- `REMOTE_EVENT_RPC_REQUEST`. -/
def remoteEventRPCRequest : String := "rpc-request"

/-- `REMOTE_EVENT_MESSAGE`. -/
def remoteEventMessage : String := "remote-message"

/-- `REMOTE_RPC_UPDATE_PEER_INFO`. -/
def remoteRPCUpdatePeerInfo : String := "updateMyself"

/-- `REMOTE_RPC_GET_NODE_INFO`. -/
def remoteRPCGetNodeInfo : String := "status"

/-- `REMOTE_RPC_GET_PEERS_LIST`. -/
def remoteRPCGetPeersList : String := "list"

/-- `REMOTE_MESSAGE_NODE_INFO_CHANGED`. -/
def remoteMessageNodeInfoChanged : String := "nodeInfoChanged"

/-- `EVENT_PING`. -/
def eventPing : String := "ping"

/-- The outbound socket's `ping` procedure loop, `src/unnamed/part_003:155–159`: each request
is answered with `request.end(RESPONSE_PONG)` until `disconnect` kills the procedure. An
inbound socket binds no `ping` procedure, so a ping request on it is not answered. -/
def Socket.answerPing (kind : PeerKind) (s : Socket) : Socket :=
  if kind = .outbound ∧ !s.calls.contains (.killProcedure eventPing) then
    s.callAll [.endRequest]
  else s

/-- `DEFAULT_REPUTATION_SCORE`. -/
def defaultReputationScore : Int := 100

/-- `DEFAULT_PRODUCTIVITY_RESET_INTERVAL`, in milliseconds. -/
def defaultProductivityResetInterval : Nat := 20000

/-- `RATE_NORMALIZATION_FACTOR`. -/
def rateNormalizationFactor : ℚ := 1000

/-- The productivity record, `src/peer/base.js:64–69`. -/
structure Productivity where
  requestCounter : Nat
  responseCounter : Nat
  responseRate : JsNumber
  lastResponded : Nat
  deriving DecidableEq, Repr

/-- `DEFAULT_PRODUCTIVITY`. -/
def defaultProductivity : Productivity := ⟨0, 0, .finite 0, 0⟩

/-- The fields of `peerConfig` that the session's methods read. -/
structure PeerConfig where
  rateCalculationInterval : Nat
  wsMaxMessageRate : ℚ
  wsMaxMessageRatePenalty : Int
  deriving DecidableEq, Repr

/-- The inbound keep-alive: a ping timer scheduled, a ping awaiting its `invoke` since the
given time, or neither. Outbound sessions never ping. -/
inductive PingState
  | idle
  | scheduled
  | inFlight (start : Nat)
  deriving DecidableEq, Repr

/-- Whose `await` a request in flight returns to: the pool's `_applyNodeInfoOnPeer`,
`fetchStatus` and `fetchPeers` of the outbound `connect` handler, or a caller outside the
session. -/
inductive Caller
  | pushNodeInfo
  | fetchStatus
  | fetchPeers
  | application
  deriving DecidableEq, Repr

/-- A request awaiting its `invoke`. -/
structure PendingRequest where
  procedure : String
  caller : Caller
  deriving DecidableEq, Repr

/-- How the transport settles an `invoke`: a response body, truthy or not, a `TimeoutError`,
or another error, each with the transport's message. -/
inductive InvokeOutcome
  | response (truthy : Bool)
  | timeout (message : String)
  | failure (message : String)
  deriving DecidableEq, Repr

/-- The names of the events a session emits. -/
inductive PeerEventName
  | requestReceived
  | invalidRequestReceived
  | messageReceived
  | invalidMessageReceived
  | banPeer
  | unbanPeer
  | discoveredPeer
  | updatedPeerInfo
  | failedPeerInfoUpdate
  | failedToCollectPeerDetailsOnConnect
  | failedToFetchPeers
  | failedToFetchPeerInfo
  | connectOutbound
  | connectAbortOutbound
  | closeOutbound
  | closeInbound
  | outboundSocketError
  | inboundSocketError
  deriving DecidableEq, Repr

/-- The packet of a close event. -/
structure ClosePacket where
  peerInfo : PeerInfo
  code : DisconnectCode
  deriving DecidableEq, Repr

/-- An event a session emits, with the part of its payload the model keeps: the procedure or
event and the normalised rate of a request or message, the session's id, the peer info, or
the error. -/
inductive PeerEvent
  | requestReceived (procedure : String) (rate : JsNumber)
  | invalidRequestReceived (peerId : PeerId)
  | messageReceived (event : String) (rate : JsNumber)
  | invalidMessageReceived (peerId : PeerId)
  | banPeer (peerId : PeerId)
  | updatedPeerInfo (peerInfo : PeerInfo)
  | failedPeerInfoUpdate (error : JsError)
  | connectOutbound (peerInfo : PeerInfo)
  | closeOutbound (packet : ClosePacket)
  | closeInbound (packet : ClosePacket)
  | outboundSocketError
  | inboundSocketError
  deriving DecidableEq, Repr

/-- The name an event is emitted under. -/
def PeerEvent.name : PeerEvent → PeerEventName
  | .requestReceived _ _ => .requestReceived
  | .invalidRequestReceived _ => .invalidRequestReceived
  | .messageReceived _ _ => .messageReceived
  | .invalidMessageReceived _ => .invalidMessageReceived
  | .banPeer _ => .banPeer
  | .updatedPeerInfo _ => .updatedPeerInfo
  | .failedPeerInfoUpdate _ => .failedPeerInfoUpdate
  | .connectOutbound _ => .connectOutbound
  | .closeOutbound _ => .closeOutbound
  | .closeInbound _ => .closeInbound
  | .outboundSocketError => .outboundSocketError
  | .inboundSocketError => .inboundSocketError

/-- What a session is created with and never changes: its kind, the peer info and config
passed to the constructor, the address, the identifier and `connectTime`. -/
structure PeerIdentity where
  kind : PeerKind
  initialPeerInfo : PeerInfo
  peerConfig : PeerConfig
  ipAddress : String
  wsPort : Nat
  id : PeerId
  connectTime : Nat
  deriving DecidableEq

/-- A session, `Peer` with the fields of its subclass. -/
structure Peer where
  ident : PeerIdentity
  peerInfo : PeerInfo
  active : Bool
  height : ℚ
  reputation : Int
  latency : Nat
  rpcCounter : JsMap String Nat
  rpcRates : JsMap String JsNumber
  messageCounter : JsMap String Nat
  messageRates : JsMap String JsNumber
  wsMessageCount : Nat
  wsMessageRate : JsNumber
  counterResetInterval : Bool
  productivityResetInterval : Bool
  productivity : Productivity
  socket : Option Socket
  nodeInfo : Option NodeInfo
  ping : PingState
  inFlight : List PendingRequest
  listeners : List PeerEventName
  deriving DecidableEq

namespace Peer

/-- The `kind` field of the subclass. -/
def kind (p : Peer) : PeerKind := p.ident.kind

/-- The `id` getter. -/
def id (p : Peer) : PeerId := p.ident.id

/-- The `ipAddress` getter. -/
def ipAddress (p : Peer) : String := p.ident.ipAddress

/-- The `wsPort` getter. -/
def wsPort (p : Peer) : Nat := p.ident.wsPort

/-- `this._peerConfig`. -/
def peerConfig (p : Peer) : PeerConfig := p.ident.peerConfig

/-- The state the `Peer` constructor builds (`src/peer/base.js:83–143`) once the
identifier `id` is computed, given the subclass's kind, socket and keep-alive. -/
def init (kind : PeerKind) (peerInfo : PeerInfo) (peerConfig : PeerConfig)
    (socket : Option Socket) (ping : PingState) (now : Nat) (id : PeerId) : Peer :=
  { ident := { kind, initialPeerInfo := peerInfo, peerConfig, ipAddress := peerInfo.ipAddress,
               wsPort := peerInfo.wsPort, id, connectTime := now },
    peerInfo, active := true, height := peerInfo.height.getD 0,
    reputation := defaultReputationScore, latency := 0,
    rpcCounter := .empty, rpcRates := .empty, messageCounter := .empty, messageRates := .empty,
    wsMessageCount := 0, wsMessageRate := .finite 0,
    counterResetInterval := true, productivityResetInterval := true,
    productivity := defaultProductivity, socket, nodeInfo := none, ping, inFlight := [],
    listeners := [] }

/-- The `Peer` constructor, `src/peer/base.js:81–143`: computing the identifier can throw. -/
def create (kind : PeerKind) (peerInfo : PeerInfo) (peerConfig : PeerConfig)
    (socket : Option Socket) (ping : PingState) (now : Nat) : Except JsError Peer := do
  let id ← getPeerIdFromPeerInfo { ipAddress := peerInfo.ipAddress, wsPort := peerInfo.wsPort }
  pure (init kind peerInfo peerConfig socket ping now id)

/-- `new InboundPeer(peerInfo, socket, peerConfig)`, `src/peer/inbound.js:45–75`: the ping
timer is scheduled and the accepted socket attached. -/
def createInbound (peerInfo : PeerInfo) (socket : Socket) (peerConfig : PeerConfig)
    (now : Nat) : Except JsError Peer :=
  create .inbound peerInfo peerConfig (some socket) .scheduled now

/-- `new OutboundPeer(peerInfo, peerConfig)`, `src/unnamed/part_003:48–51`: no socket yet. -/
def createOutbound (peerInfo : PeerInfo) (peerConfig : PeerConfig) (now : Nat) :
    Except JsError Peer :=
  create .outbound peerInfo peerConfig none .idle now

/-- The constructor returns `init` under the id it computes, or throws. -/
theorem create_eq_init {kind : PeerKind} {peerInfo : PeerInfo} {peerConfig : PeerConfig}
    {socket : Option Socket} {ping : PingState} {now : Nat} {p : Peer}
    (h : create kind peerInfo peerConfig socket ping now = .ok p) :
    ∃ id, p = init kind peerInfo peerConfig socket ping now id := by
  simp only [create] at h
  cases hid : getPeerIdFromPeerInfo { ipAddress := peerInfo.ipAddress, wsPort := peerInfo.wsPort }
  · rw [hid] at h; cases h
  · rw [hid] at h; cases h; exact ⟨_, rfl⟩

/-- `_unbindHandlersFromInboundSocket` (`src/peer/inbound.js:109–122`) and
`_unbindHandlersFromOutboundSocket` (`src/unnamed/part_003:176–192`). -/
def unbindSocketCalls : PeerKind → List SocketCall
  | .inbound =>
    [.closeListener "error", .closeListener "close", .killListener "message",
      .killProcedure remoteEventRPCRequest, .killReceiver remoteEventMessage]
  | .outbound =>
    [.closeListener "error", .closeListener "connect", .closeListener "connectAbort",
      .closeListener "close", .killListener "message", .killProcedure eventPing,
      .killProcedure remoteEventRPCRequest, .killReceiver remoteEventMessage]

/-- `Peer.disconnect`, `src/peer/base.js:315–324`: only the first call clears the two
intervals and disconnects the socket. -/
def disconnectBase (p : Peer) (code : DisconnectCode) : Peer :=
  if p.active then
    { p with active := false, counterResetInterval := false, productivityResetInterval := false,
             socket := p.socket.map (·.callAll [.disconnect code]) }
  else p

/-- `InboundPeer.disconnect` and `OutboundPeer.disconnect`: the base method, then the
socket's streams are closed or killed, on every call. -/
def disconnect (p : Peer) (code : DisconnectCode) : Peer :=
  let q := p.disconnectBase code
  { q with socket := q.socket.map (·.callAll (unbindSocketCalls p.kind)) }

/-- `_banPeer`, `src/peer/base.js:475–478`: emit `banPeer`, then disconnect. -/
def banPeer (p : Peer) : Peer × List PeerEvent :=
  (p.disconnect .forbiddenConnection, [.banPeer p.id])

/-- `applyPenalty`, `src/peer/base.js:265–270`. -/
def applyPenalty (p : Peer) (penalty : Int) : Peer × List PeerEvent :=
  let p := { p with reputation := p.reputation - penalty }
  if p.reputation ≤ 0 then p.banPeer else (p, [])

/-- The message rate a rate tick measures, `(this._wsMessageCount * RATE_NORMALIZATION_FACTOR)
/ this._rateInterval`, `src/peer/base.js:105–106`. -/
def measuredRate (p : Peer) : JsNumber :=
  ((JsNumber.finite p.wsMessageCount).mul rateNormalizationFactor).div
    p.peerConfig.rateCalculationInterval

/-- The callback of `_counterResetInterval`, `src/peer/base.js:104–132`: measure the message
rate; above `wsMaxMessageRate` apply the penalty and rotate nothing, else rotate the
per-procedure and per-event counters into rates. -/
def rateTick (p : Peer) : Peer × List PeerEvent :=
  if p.counterResetInterval then
    let interval : ℚ := p.peerConfig.rateCalculationInterval
    let p' := { p with wsMessageRate := p.measuredRate, wsMessageCount := 0 }
    if p.measuredRate.gtFinite p.peerConfig.wsMaxMessageRate then
      p'.applyPenalty p.peerConfig.wsMaxMessageRatePenalty
    else
      ({ p' with rpcRates := p.rpcCounter.mapValues (fun v => (JsNumber.finite v).div interval),
                 rpcCounter := .empty,
                 messageRates := p.messageCounter.mapValues (fun v => (JsNumber.finite v).div interval),
                 messageCounter := .empty }, [])
  else (p, [])

/-- The callback of `_productivityResetInterval`, `src/peer/base.js:134–142`. -/
def productivityTick (p : Peer) (now : Nat) : Peer :=
  if p.productivityResetInterval ∧
      p.productivity.lastResponded < now - defaultProductivityResetInterval then
    { p with productivity := defaultProductivity }
  else p

/-- Whether the loop over the listener stream `stream` of the session's socket still runs;
a session without socket has no loop. -/
def listensOn (p : Peer) (stream : String) : Bool := (p.socket.map (·.listens stream)).getD false

/-- `_handleWSMessage`, `src/peer/base.js:185–187`, run on an event of the socket's `message`
stream unless the stream was killed. -/
def handleWSMessage (p : Peer) : Peer :=
  { p with wsMessageCount :=
      if p.listensOn "message" then p.wsMessageCount + 1 else p.wsMessageCount }

/-- `_createOutboundSocket` as `OutboundPeer.send`, `request` and `connect` call it when the
session has no socket: a new, unconnected socket. -/
def ensureOutboundSocket (p : Peer) : Peer :=
  if p.kind = .outbound ∧ p.socket = none then { p with socket := some {} } else p

/-- The error of `send`, `request` and `connect` on a session without socket. -/
def socketDoesNotExist : JsError := plainError "Peer socket does not exist"

/-- `send`, `src/peer/base.js:326–334`, after `OutboundPeer.send` made the socket. -/
def send (p : Peer) : Peer × Except JsError Unit :=
  let p := p.ensureOutboundSocket
  match p.socket with
  | none => (p, .error socketDoesNotExist)
  | some s => ({ p with socket := some (s.callAll [.transmit remoteEventMessage]) }, .ok ())

/-- The synchronous part of `request`, `src/peer/base.js:336–348`, after
`OutboundPeer.request` made the socket: count the request, then `invoke`. -/
def request (p : Peer) (procedure : String) (caller : Caller) : Peer × Except JsError Unit :=
  let p := p.ensureOutboundSocket
  let p := { p with productivity :=
    { p.productivity with requestCounter := p.productivity.requestCounter + 1 } }
  match p.socket with
  | none => (p, .error socketDoesNotExist)
  | some s =>
    ({ p with socket := some (s.callAll [.invoke remoteEventRPCRequest]),
              inFlight := p.inFlight ++ [⟨procedure, caller⟩] }, .ok ())

/-- The peer a request error names, `` `${this.ipAddress}:${this.wsPort}` ``. -/
def errorPeer (p : Peer) : String := p.ipAddress ++ ":" ++ toString p.wsPort

/-- The rest of `request` once the `invoke` of the request in flight at `index` settles,
`src/peer/base.js:349–381`. A timeout disconnects; a truthy response updates productivity. -/
def settleRequest (p : Peer) (index : Nat) (outcome : InvokeOutcome) (now : Nat) :
    Peer × Option (PendingRequest × Except JsError Unit) :=
  match p.inFlight[index]? with
  | none => (p, none)
  | some pending =>
    let p := { p with inFlight := p.inFlight.eraseIdx index }
    match outcome with
    | .timeout message =>
      (p.disconnect .failedToRespond, some (pending, .error (rpcTimeoutError message p.errorPeer)))
    | .failure message => (p, some (pending, .error (rpcResponseError message p.errorPeer)))
    | .response true =>
      let responseCounter := p.productivity.responseCounter + 1
      ({ p with productivity :=
          { p.productivity with
            lastResponded := now, responseCounter,
            responseRate := (JsNumber.finite responseCounter).div p.productivity.requestCounter } },
        some (pending, .ok ()))
    | .response false =>
      (p, some (pending, .error (rpcResponseError
        ("Failed to handle response for procedure " ++ pending.procedure) p.errorPeer)))

/-- `connect`: the base method only checks for the socket; `OutboundPeer.connect` makes the
socket and connects it. -/
def connect (p : Peer) : Peer × Except JsError Unit :=
  match p.kind with
  | .inbound => (p, if p.socket.isSome then .ok () else .error socketDoesNotExist)
  | .outbound =>
    let p := p.ensureOutboundSocket
    ({ p with socket := p.socket.map (·.callAll [.connect]) }, .ok ())

/-- The synchronous part of `applyNodeInfo`, `src/peer/base.js:290–303`: a passive peer is
sent `nodeInfoChanged`, any other is requested `updateMyself`. -/
def applyNodeInfo (p : Peer) (nodeInfo : NodeInfo) (caller : Caller) :
    Peer × Except JsError Unit :=
  let p := { p with nodeInfo := some nodeInfo }
  if p.peerInfo.isPassive then
    match p.socket with
    | none => (p, .error (plainError "Passive peer socket does not exist"))
    | some s => ({ p with socket := some (s.callAll [.transmit remoteMessageNodeInfoChanged]) },
        .ok ())
  else p.request remoteRPCUpdatePeerInfo caller

/-- `_sendPing` when the ping timer fires, `src/peer/inbound.js:64–68`: `invoke('ping')`. -/
def sendPing (p : Peer) (now : Nat) : Peer :=
  match p.ping with
  | .scheduled =>
    { p with ping := .inFlight now, socket := p.socket.map (·.callAll [.invoke eventPing]) }
  | _ => p

/-- The rest of `_sendPing` once the ping settles, either way, `src/peer/inbound.js:69–70`:
record the latency and schedule the next ping. -/
def settlePing (p : Peer) (now : Nat) : Peer :=
  match p.ping with
  | .inFlight start => { p with latency := now - start, ping := .scheduled }
  | _ => p

/-- The socket's `close` event: `_handleInboundSocketClose` clears a scheduled ping and
reports the constructor's peer info (`src/peer/inbound.js:51–63`); the outbound listener
reports the current one (`src/unnamed/part_003:141–151`). The close that `disconnect` causes
is written to the `close` stream before `closeListener('close')` ends it, so it is handled
too: a close is handled whenever the transport reports it. -/
def handleSocketClose (p : Peer) (code : DisconnectCode) : Peer × List PeerEvent :=
  match p.kind with
  | .inbound =>
    ({ p with ping := if p.ping = .scheduled then .idle else p.ping,
              socket := p.socket.map fun s => { s with isOpen := false } },
      [.closeInbound ⟨p.ident.initialPeerInfo, code⟩])
  | .outbound =>
    ({ p with socket := p.socket.map fun s => { s with isOpen := false } },
      [.closeOutbound ⟨p.peerInfo, code⟩])

/-- The transport reports the socket open. On an outbound session this is the `connect`
event (`src/unnamed/part_003:128–135`), handled while the `connect` stream is not closed:
emit `connectOutbound`, then start `fetchStatus` and `discoverPeers`, whose first steps are
the requests `status` and `list`. -/
def handleSocketOpen (p : Peer) : Peer × List PeerEvent :=
  let handled := p.listensOn "connect"
  let p : Peer := { p with socket := p.socket.map fun s => { s with isOpen := true } }
  match p.kind with
  | .inbound => (p, [])
  | .outbound =>
    if handled then
      ((((p.request remoteRPCGetNodeInfo .fetchStatus).1.request remoteRPCGetPeersList
        .fetchPeers).1), [.connectOutbound p.peerInfo])
    else (p, [])

/-- The socket's `error` event while the `error` stream is not closed: `inboundSocketError`
or `outboundSocketError` (`src/peer/inbound.js:48–50`, `src/unnamed/part_003:124–126`). After
`disconnect` closed the stream, an error is not handled. -/
def handleSocketError (p : Peer) : List PeerEvent :=
  if p.listensOn "error" then
    match p.kind with
    | .inbound => [.inboundSocketError]
    | .outbound => [.outboundSocketError]
  else []

/-- A ping request of the remote peer on the session's socket. -/
def handlePingRequest (p : Peer) : Peer := { p with socket := p.socket.map (·.answerPing p.kind) }

/-- The fields of a session that traffic on it never changes: its identity, its lifecycle
flags and reputation, its productivity and requests in flight, its keep-alive and the pool's
listeners on it. -/
structure Control where
  ident : PeerIdentity
  active : Bool
  counterResetInterval : Bool
  productivityResetInterval : Bool
  reputation : Int
  productivity : Productivity
  inFlight : List PendingRequest
  ping : PingState
  listeners : List PeerEventName

/-- The control fields of a session. -/
def control (p : Peer) : Control :=
  ⟨p.ident, p.active, p.counterResetInterval, p.productivityResetInterval, p.reputation,
    p.productivity, p.inFlight, p.ping, p.listeners⟩

/-- `ConnectionState`. -/
inductive ConnectionState
  | connecting
  | open
  | closed
  deriving DecidableEq, Repr

/-- The `state` getter, `src/peer/base.js:276–284`. -/
def state (p : Peer) : ConnectionState :=
  match p.socket with
  | some s => if s.isOpen then .open else .closed
  | none => .closed

end Peer

end Lp2p
