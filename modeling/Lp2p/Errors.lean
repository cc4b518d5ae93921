import Lp2p.Js.String

/-!
# Error classes

The error classes of `src/errors.js` (`src/unnamed/part_002:16–116`) that the pool and the
sessions throw: each sets its `name`, and the two RPC errors prefix their message with the
peer they concern.
-/

namespace Lp2p

open Lp2p.Js

/-- `new Error(message)`. -/
def plainError (message : String) : JsError := .error "Error" message

/-- `new RPCResponseError(message, peerId)`, `src/errors.js:39–45`. -/
def rpcResponseError (message peerId : String) : JsError :=
  .error "RPCResponseError" ("[Peer " ++ peerId ++ "] " ++ message)

/-- `new RPCTimeoutError(message, peerId)`, `src/errors.js:47–53`. -/
def rpcTimeoutError (message peerId : String) : JsError :=
  .error "RPCTimeoutError" ("[Peer " ++ peerId ++ "] " ++ message)

/-- `new RPCResponseAlreadySentError(message)`, `src/errors.js:62–67`. -/
def rpcResponseAlreadySentError (message : String) : JsError :=
  .error "ResponseAlreadySentError" message

/-- `new InvalidRPCResponseError(message)`, `src/errors.js:55–60`. -/
def invalidRPCResponseError (message : String) : JsError := .error "InvalidRPCResponseError" message

/-- `new InvalidPeerError(message)`, `src/errors.js:69–74`. -/
def invalidPeerError (message : String) : JsError := .error "InvalidPeerError" message

/-- `new RequestFailError(message)`, `src/errors.js:76–81`. -/
def requestFailError (message : String) : JsError := .error "RequestFailError" message

/-- `new SendFailError(message)`, `src/errors.js:83–88`. -/
def sendFailError (message : String) : JsError := .error "SendFailError" message

/-- `new InvalidRPCRequestError(message)`, `src/errors.js:90–95`. -/
def invalidRPCRequestError (message : String) : JsError := .error "InvalidRPCRequestError" message

/-- `new InvalidProtocolMessageError(message)`, `src/errors.js:97–102`. -/
def invalidProtocolMessageError (message : String) : JsError :=
  .error "InvalidProtocolMessageError" message

end Lp2p
