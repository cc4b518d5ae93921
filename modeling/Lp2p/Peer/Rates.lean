import Lp2p.Peer.Ban

/-!
# Rate windows

`_updateRPCCounter` and `_updateMessageCounter` (`src/peer/base.js:480–502`) count every valid
request under its procedure and every valid message under its event, and the counter interval
(`src/peer/base.js:104–132`) turns the counts into rates, divided by the rate interval, and
starts the counts again; when the measured WebSocket message rate is above
`wsMaxMessageRate` it applies the penalty instead and leaves the counters as they are. The
rate `_handleRawRPC` and `_handleRawMessage` attach to `requestReceived` and `messageReceived`
is read from the rates.

The abstract model splits the frames a session counted into windows at the rotations: the
windows the rotations closed, and the open one. The counters refine the open window and the
rates the window the last rotation closed, so the rate a frame reports is `windowRate` of the
count `c` of its key between the two most recent rotations: `c / rateInterval` rounded to a
double, then `* 1000` rounded again, which is not always `1000 * c / rateInterval`.
-/

namespace Lp2p

open Lp2p.Js

/-! ### The windows -/

/-- The two streams whose frames a session counts: requests by procedure, messages by
event. -/
inductive Channel
  | rpc
  | message
  deriving DecidableEq, Repr

/-- What a step does to the windows: count a frame of a channel under its key, or rotate. -/
inductive RateOp
  | count (channel : Channel) (key : String)
  | rotate
  deriving DecidableEq, Repr

/-- The key an op counts on a channel. -/
def RateOp.key (channel : Channel) : RateOp → Option String
  | .count c key => if c = channel then some key else none
  | .rotate => none

/-- The keys of one channel's frames: those of the windows the rotations closed, oldest
first, and those of the open window. -/
structure Window where
  closed : List (List String)
  current : List String
  deriving DecidableEq, Repr

namespace Window

/-- Count a frame in the open window. -/
def count (w : Window) (key : String) : Window := ⟨w.closed, w.current ++ [key]⟩

/-- Close the open window. -/
def rotate (w : Window) : Window := ⟨w.closed ++ [w.current], []⟩

/-- The window the last rotation closed; none before the first. -/
def last (w : Window) : List String := w.closed.getLast?.getD []

/-- Counting a frame leaves the window the last rotation closed. -/
@[simp] theorem last_count (w : Window) (key : String) : (w.count key).last = w.last := rfl

/-- A rotation closes the open window. -/
@[simp] theorem last_rotate (w : Window) : w.rotate.last = w.current := by
  simp [rotate, last]

end Window

/-- One op on the windows of both channels. -/
def applyRateOp (w : Channel → Window) : RateOp → Channel → Window
  | .count channel key => fun c => if c = channel then (w c).count key else w c
  | .rotate => fun c => (w c).rotate

/-- The windows a sequence of ops leaves, from none. -/
def windowsOf (ops : List RateOp) : Channel → Window :=
  ops.foldl applyRateOp fun _ => ⟨[], []⟩

/-- No op leaves every channel without a window. -/
@[simp] theorem windowsOf_nil : windowsOf [] = fun _ => ⟨[], []⟩ := rfl

/-- The windows after one more op. -/
@[simp] theorem windowsOf_concat (ops : List RateOp) (op : RateOp) :
    windowsOf (ops ++ [op]) = applyRateOp (windowsOf ops) op := by
  simp [windowsOf]

/-- The keys of a channel's frames counted since the last rotation of `ops`, or since the start
when there was none. -/
def openWindowKeys (channel : Channel) (ops : List RateOp) : List String :=
  (ops.reverse.takeWhile (· != .rotate)).reverse.filterMap (RateOp.key channel)

/-- The keys of a channel's frames counted between the two most recent rotations of `ops`,
since the start when there was one, none when there was none. -/
def lastWindowKeys (channel : Channel) (ops : List RateOp) : List String :=
  match ops.reverse.dropWhile (· != .rotate) with
  | [] => []
  | _ :: older => openWindowKeys channel older.reverse

/-- The open window holds the keys counted since the last rotation. -/
theorem current_windowsOf (channel : Channel) (ops : List RateOp) :
    (windowsOf ops channel).current = openWindowKeys channel ops := by
  induction ops using List.reverseRecOn with
  | nil => rfl
  | append_singleton ops op ih =>
    cases op with
    | rotate => simp [applyRateOp, Window.rotate, openWindowKeys]
    | count c key =>
      by_cases hc : channel = c
      · subst hc; simp [applyRateOp, Window.count, openWindowKeys, ih, RateOp.key]
      · simp [applyRateOp, openWindowKeys, ih, RateOp.key, hc, Ne.symm hc]

/-- The window the last rotation closed holds the keys counted between the two most recent
rotations. -/
theorem last_windowsOf (channel : Channel) (ops : List RateOp) :
    (windowsOf ops channel).last = lastWindowKeys channel ops := by
  induction ops using List.reverseRecOn with
  | nil => rfl
  | append_singleton ops op ih =>
    cases op with
    | rotate => simp [applyRateOp, lastWindowKeys, current_windowsOf]
    | count c key =>
      have hdrop : (RateOp.count c key :: ops.reverse).dropWhile (· != .rotate) =
          ops.reverse.dropWhile (· != .rotate) := List.dropWhile_cons_of_pos rfl
      have hlast : lastWindowKeys channel (ops ++ [.count c key]) = lastWindowKeys channel ops := by
        simp only [lastWindowKeys, List.reverse_append, List.reverse_singleton,
          List.singleton_append, hdrop]
      rw [hlast, ← ih, windowsOf_concat, applyRateOp]
      dsimp only
      split_ifs <;> rfl

/- Two rotations: the window between them counted one request, `b`. -/
example : lastWindowKeys .rpc [.count .rpc "a", .rotate, .count .rpc "b", .count .message "c",
    .rotate, .count .rpc "d"] = ["b"] := by
  decide

/-- After a rotation the last window is the one it closed. -/
theorem lastWindowKeys_concat_rotate (channel : Channel) (ops : List RateOp) :
    lastWindowKeys channel (ops ++ [.rotate]) = openWindowKeys channel ops := by
  simp [lastWindowKeys]

/-- A run of counts of one key, with no rotation, is an open window of that key. -/
theorem openWindowKeys_replicate (channel : Channel) (key : String) (k : Nat) :
    openWindowKeys channel (List.replicate k (.count channel key)) = List.replicate k key := by
  simp [openWindowKeys, List.takeWhile_replicate, RateOp.key, List.filterMap_replicate]

/-- Every frame counted is in exactly one window: the closed windows, then the open one, are
the keys of the counted frames in order. -/
theorem keys_windowsOf (channel : Channel) (ops : List RateOp) :
    (windowsOf ops channel).closed.flatten ++ (windowsOf ops channel).current =
      ops.filterMap (RateOp.key channel) := by
  induction ops using List.reverseRecOn with
  | nil => rfl
  | append_singleton ops op ih =>
    cases op with
    | rotate => simpa [applyRateOp, Window.rotate, RateOp.key] using ih
    | count c key =>
      by_cases hc : channel = c
      · subst hc; simp [applyRateOp, Window.count, RateOp.key, ← ih]
      · simpa [applyRateOp, RateOp.key, hc, Ne.symm hc] using ih

/-! ### Counters and rates refine the windows -/

/-- The entry a counter holds for a key counted in `keys`: its count, none when it is 0. -/
def countEntry (keys : List String) (key : String) : Option Nat :=
  if keys.count key = 0 then none else some (keys.count key)

/-- The entry of a key after one more counted key: one more for that key, the same for others. -/
theorem countEntry_concat (keys : List String) (key k : String) :
    countEntry (keys ++ [key]) k =
      if k = key then some ((countEntry keys key).getD 0 + 1) else countEntry keys k := by
  by_cases hk : k = key
  · subst hk; by_cases h0 : keys.count k = 0 <;> simp [countEntry, h0]
  · simp [countEntry, hk, List.count_singleton, Ne.symm hk]

/-- A counter and the rates of one channel refine its window: the counter counts the open
window, and the rates are the counts of the window the last rotation closed over the
interval. -/
structure WindowTracks (counter : JsMap String Nat) (rates : JsMap String JsNumber)
    (interval : ℚ) (w : Window) : Prop where
  counter : ∀ key, counter.get? key = countEntry w.current key
  rates : ∀ key, rates.get? key =
    (countEntry w.last key).map fun c : Nat => (JsNumber.finite c).div interval

namespace WindowTracks

variable {counter : JsMap String Nat} {rates : JsMap String JsNumber} {interval : ℚ}
  {w : Window}

/-- Counting a frame in the counter counts it in the open window. -/
theorem count (h : WindowTracks counter rates interval w) (key : String) :
    WindowTracks (counter.set key ((counter.get? key).getD 0 + 1)) rates interval
      (w.count key) :=
  ⟨fun k => by simp [h.counter, Window.count, countEntry_concat], h.rates⟩

/-- A rotation turns the counts into rates and starts a counter from empty. -/
theorem rotate (h : WindowTracks counter rates interval w) :
    WindowTracks .empty (counter.mapValues fun v => (JsNumber.finite v).div interval) interval
      w.rotate :=
  ⟨fun k => by simp [Window.rotate, countEntry],
    fun k => by rw [JsMap.get?_mapValues, h.counter, Window.last_rotate]⟩

end WindowTracks

/-- The rate of a key counted `c` times in the window the last rotation closed:
`c / rateInterval`, replaced by 0 when falsy, times `1000`, each operation rounded to a double.
A key the window did not count has `c = 0`, and rate 0. -/
def windowRate (interval : ℚ) (c : Nat) : JsNumber :=
  let rate := (JsNumber.finite c).div interval
  (if rate.truthy then rate else .finite 0).mul rateNormalizationFactor

/-- The normalised rate of rates that refine a window is the window's rate. -/
theorem normalisedRate_of_tracks {counter : JsMap String Nat} {rates : JsMap String JsNumber}
    {interval : ℚ} {w : Window} (h : WindowTracks counter rates interval w) (key : String) :
    Peer.normalisedRate rates key = windowRate interval (w.last.count key) := by
  rw [Peer.normalisedRate, h.rates, countEntry, windowRate]
  split
  · next h0 => simp [h0]
  · simp only [Option.map_some', Option.filter]; split <;> rfl

/-- The steps other than the rate tick and the frames. -/
def SessionStep.KeepsRates : SessionStep → Prop
  | .rateTick | .rpcFrame .. | .messageFrame .. => False
  | _ => True

namespace Peer

/-- The counters and rates of a session. -/
structure RateState where
  rpcCounter : JsMap String Nat
  rpcRates : JsMap String JsNumber
  messageCounter : JsMap String Nat
  messageRates : JsMap String JsNumber

/-- The counter of a channel, `_rpcCounter` or `_messageCounter`. -/
def RateState.counter (r : RateState) : Channel → JsMap String Nat
  | .rpc => r.rpcCounter
  | .message => r.messageCounter

/-- The rates of a channel, `_rpcRates` or `_messageRates`. -/
def RateState.rates (r : RateState) : Channel → JsMap String JsNumber
  | .rpc => r.rpcRates
  | .message => r.messageRates

/-- The counters and rates of a session. -/
def rateState (p : Peer) : RateState :=
  ⟨p.rpcCounter, p.rpcRates, p.messageCounter, p.messageRates⟩

/-- The rates of the messages are `_messageRates`. -/
@[simp] theorem rateState_rates_message (p : Peer) : p.rateState.rates .message = p.messageRates :=
  rfl

/-- A session's counters and rates refine the windows of both channels. -/
def Tracks (p : Peer) (w : Channel → Window) : Prop :=
  ∀ channel, WindowTracks (p.rateState.counter channel) (p.rateState.rates channel)
    p.peerConfig.rateCalculationInterval (w channel)

/-- Only the counters, the rates and the config matter to tracking. -/
theorem Tracks.of_rateState {p q : Peer} {w : Channel → Window} (h : p.Tracks w)
    (hr : q.rateState = p.rateState) (hc : q.peerConfig = p.peerConfig) : q.Tracks w := by
  intro channel; rw [hr, hc]; exact h channel

/-- `_updateRPCCounter` counts the procedure in the open request window. -/
theorem Tracks.updateRPCCounter {p : Peer} {w : Channel → Window} (h : p.Tracks w)
    (procedure : String) :
    (p.updateRPCCounter procedure).Tracks (applyRateOp w (.count .rpc procedure)) := by
  intro channel; cases channel
  · exact (h .rpc).count procedure
  · exact h .message

/-- `_updateMessageCounter` counts the event in the open message window. -/
theorem Tracks.updateMessageCounter {p : Peer} {w : Channel → Window} (h : p.Tracks w)
    (event : String) :
    (p.updateMessageCounter event).Tracks (applyRateOp w (.count .message event)) := by
  intro channel; cases channel
  · exact h .rpc
  · exact (h .message).count event

/-- A fresh session counts nothing and has no rates. -/
theorem init_tracks (kind : PeerKind) (peerInfo : PeerInfo) (peerConfig : PeerConfig)
    (socket : Option Socket) (ping : PingState) (now : Nat) (id : PeerId) :
    (init kind peerInfo peerConfig socket ping now id).Tracks (windowsOf []) := by
  intro channel
  cases channel <;> exact ⟨fun _ => rfl, fun _ => rfl⟩

/-! ### What each step does to the counters -/

/-- Calls on the socket leave the counters and rates. -/
@[simp] theorem callSocket_rateState (p : Peer) (cs : List SocketCall) :
    (p.callSocket cs).rateState = p.rateState := rfl

/-- `disconnect` leaves the counters and rates. -/
@[simp] theorem disconnect_rateState (p : Peer) (code : DisconnectCode) :
    (p.disconnect code).rateState = p.rateState := by
  rw [disconnect_eq]; rfl

/-- `applyPenalty` leaves the counters and rates. -/
@[simp] theorem applyPenalty_rateState (p : Peer) (penalty : Int) :
    (p.applyPenalty penalty).1.rateState = p.rateState := by
  simp only [applyPenalty, banPeer]; split
  · exact disconnect_rateState _ _
  · rfl

/-- Creating an outbound socket leaves the counters and rates. -/
@[simp] theorem ensureOutboundSocket_rateState (p : Peer) :
    p.ensureOutboundSocket.rateState = p.rateState := by
  unfold ensureOutboundSocket; split <;> rfl

/-- `request` leaves the counters and rates. -/
theorem request_rateState (p : Peer) (procedure : String) (caller : Caller) :
    (p.request procedure caller).1.rateState = p.rateState := by
  simp only [request]; split <;> exact ensureOutboundSocket_rateState p

/-- A step other than the rate tick and the frames keeps the counters and the rates. -/
theorem step_rateState (p : Peer) (s : SessionStep) (hs : s.KeepsRates) :
    (p.step s).1.rateState = p.rateState := by
  cases s <;> simp only [SessionStep.KeepsRates] at hs
  case applyPenalty => exact applyPenalty_rateState p _
  case productivityTick => simp only [step, productivityTick]; split <;> rfl
  case request => exact request_rateState p _ _
  case settle =>
    simp only [step, settleRequest]
    split
    · rfl
    · split
      · exact disconnect_rateState _ _
      all_goals rfl
  case statusResponse data => cases data <;> rfl
  case send => simp only [step, send]; split <;> exact ensureOutboundSocket_rateState p
  case connect =>
    simp only [step, connect]; split
    · rfl
    · exact ensureOutboundSocket_rateState p
  case applyNodeInfo =>
    simp only [step, applyNodeInfo]; split
    · split <;> rfl
    · exact request_rateState _ _ _
  case disconnect => exact disconnect_rateState p _
  case pingTimer => simp only [step, sendPing]; split <;> rfl
  case pingSettle => simp only [step, settlePing]; split <;> rfl
  case socketOpen =>
    simp only [step, handleSocketOpen]; split
    · rfl
    · split
      · exact (request_rateState _ _ _).trans (request_rateState _ _ _)
      · rfl
  case socketClose => simp only [step, handleSocketClose]; split <;> rfl
  all_goals rfl

/-! ### Ticks and frames -/

/-- Whether a rate tick rotates: its interval is live and the measured message rate is not
above `wsMaxMessageRate`. -/
def rotates (p : Peer) : Bool :=
  p.counterResetInterval && !p.measuredRate.gtFinite p.peerConfig.wsMaxMessageRate

/-- Whether the socket's `rpc-request` loop hands the next request to `_handleRawRPC`: the
loop runs and the procedure was not killed, as `receiveRPC` checks. -/
def handlesRPC (p : Peer) : Bool :=
  match p.socket with
  | some s => decide (s.rpcConsumer ∧ .killProcedure remoteEventRPCRequest ∉ s.calls)
  | none => false

/-- Whether the socket's `remote-message` loop hands the next packet to `_handleRawMessage`,
as `receiveMessage` checks. -/
def handlesMessage (p : Peer) : Bool :=
  match p.socket with
  | some s => decide (s.messageConsumer ∧ .killReceiver remoteEventMessage ∉ s.calls)
  | none => false

/-- What a step does to the windows: a request or a message handed to its handler is counted
under its key when it is valid, and a tick rotates when `rotates` holds. -/
def rateOps (p : Peer) : SessionStep → List RateOp
  | .rateTick => if p.rotates then [.rotate] else []
  | .rpcFrame packet _ _ =>
    if p.handlesRPC then
      match validateRPCRequest packet with
      | .ok (procedure, _) => [.count .rpc procedure]
      | .error _ => []
    else []
  | .messageFrame packet _ =>
    if p.handlesMessage then
      match validateProtocolMessage packet with
      | .ok event => [.count .message event]
      | .error _ => []
    else []
  | _ => []

/-- The rate an event reports is read from these rates: `requestReceived` from the
requests', `messageReceived` from the messages'; other events report none. -/
def RateState.Reports (r : RateState) : PeerEvent → Prop
  | .requestReceived procedure rate => rate = normalisedRate (r.rates .rpc) procedure
  | .messageReceived event rate => rate = normalisedRate (r.rates .message) event
  | _ => True

/-- A tick that does not rotate leaves the counters and the rates: its interval was cleared,
or it applied the penalty. -/
theorem rateTick_rateState (p : Peer) (h : p.rotates = false) :
    p.rateTick.1.rateState = p.rateState := by
  unfold rateTick
  split
  · split
    · exact applyPenalty_rateState _ _
    · next ha hg => simp [rotates, ha, hg] at h
  · rfl

/-- A tick that rotates turns the counts into rates and starts them again; one that does not
leaves them. -/
theorem rateTick_tracks {p : Peer} {w : Channel → Window} (h : p.Tracks w) :
    p.rateTick.1.Tracks ((p.rateOps .rateTick).foldl applyRateOp w) := by
  have hc : p.rateTick.1.peerConfig = p.peerConfig := by simp [peerConfig, (rateTick_eq p).1]
  simp only [rateOps]
  cases hr : p.rotates
  · exact h.of_rateState (rateTick_rateState p hr) hc
  · simp only [rotates, Bool.and_eq_true, Bool.not_eq_true'] at hr
    intro channel
    simp only [rateTick, hr.1, hr.2, if_true, List.foldl_cons, List.foldl_nil]
    cases channel
    · exact (h .rpc).rotate
    · exact (h .message).rotate

/-- Answering a request itself leaves the counters and rates. -/
theorem answerRequest_rateState (p : Peer) (procedure : String) (data : Except JsError PeerInfo)
    (onUpdated : Reaction) :
    (p.answerRequest procedure data onUpdated).peer.rateState = p.rateState := by
  unfold answerRequest handleUpdatePeerInfo
  split_ifs
  · split
    · split <;> rfl
    · rfl
  all_goals rfl

/-- The application's answer to a request leaves the counters and rates. -/
theorem reactToRequest_rateState (p : Peer) (procedure : String) (sent : Bool)
    (onRequest : Reaction) :
    (p.reactToRequest procedure sent onRequest).1.rateState = p.rateState := by
  unfold reactToRequest
  split
  · split
    · rfl
    · split <;> rfl
    · rfl
  · rfl

/-- Answering a request itself reports no rate. -/
theorem answerRequest_reports (r : RateState) (p : Peer) (procedure : String)
    (data : Except JsError PeerInfo) (onUpdated : Reaction) :
    ∀ e ∈ (p.answerRequest procedure data onUpdated).events, r.Reports e := by
  unfold answerRequest handleUpdatePeerInfo
  split_ifs
  · split
    · split <;> simp [RateState.Reports]
    · simp [RateState.Reports]
  all_goals simp

/-- `_handleRawRPC` counts a valid request, and reports the rate of its procedure read before
the count. -/
theorem handleRawRPC_counts (p : Peer) (packet : RpcPacket) (onUpdated onRequest : Reaction) :
    ((p.handleRawRPC packet onUpdated onRequest).peer.rateState =
      match validateRPCRequest packet with
      | .ok (procedure, _) => (p.updateRPCCounter procedure).rateState
      | .error _ => p.rateState) ∧
    ∀ e ∈ (p.handleRawRPC packet onUpdated onRequest).events, p.rateState.Reports e := by
  unfold handleRawRPC
  cases validateRPCRequest packet with
  | error => exact ⟨rfl, by simp [RateState.Reports]⟩
  | ok r =>
    dsimp only
    split
    · exact ⟨answerRequest_rateState _ _ _ _, answerRequest_reports _ _ _ _ _⟩
    · refine ⟨(reactToRequest_rateState _ _ _ _).trans (answerRequest_rateState _ _ _ _), ?_⟩
      intro e he
      rcases List.mem_append.1 he with he | he
      · exact answerRequest_reports _ _ _ _ _ e he
      · rw [List.mem_singleton.1 he]; rfl

/-- `_handleRawMessage` counts a valid message, and reports the rate of its event read before
the count. -/
theorem handleRawMessage_counts (p : Peer) (packet : MessagePacket) (onMessage : Reaction) :
    ((p.handleRawMessage packet onMessage).1.rateState =
      match validateProtocolMessage packet with
      | .ok event => (p.updateMessageCounter event).rateState
      | .error _ => p.rateState) ∧
    ∀ e ∈ (p.handleRawMessage packet onMessage).2.1, p.rateState.Reports e := by
  unfold handleRawMessage
  cases validateProtocolMessage packet with
  | error => exact ⟨rfl, by simp [RateState.Reports]⟩
  | ok event => exact ⟨rfl, by simp [RateState.Reports]; rfl⟩

/-- A request frame reaches `_handleRawRPC` exactly when the loop hands it on. -/
theorem receiveRPC_eq (p : Peer) (packet : RpcPacket) (onUpdated onRequest : Reaction) :
    (p.receiveRPC packet onUpdated onRequest).1.rateState =
        (if p.handlesRPC then (p.handleRawRPC packet onUpdated onRequest).peer else p).rateState ∧
      (p.receiveRPC packet onUpdated onRequest).2 =
        if p.handlesRPC then (p.handleRawRPC packet onUpdated onRequest).events else [] := by
  unfold receiveRPC handlesRPC
  cases p.socket with
  | none => simp
  | some s =>
    by_cases hg : s.rpcConsumer ∧ .killProcedure remoteEventRPCRequest ∉ s.calls <;>
      simp [hg, rateState]

/-- A message frame reaches `_handleRawMessage` exactly when the loop hands it on. -/
theorem receiveMessage_eq (p : Peer) (packet : MessagePacket) (onMessage : Reaction) :
    (p.receiveMessage packet onMessage).1.rateState =
        (if p.handlesMessage then (p.handleRawMessage packet onMessage).1 else p).rateState ∧
      (p.receiveMessage packet onMessage).2 =
        if p.handlesMessage then (p.handleRawMessage packet onMessage).2.1 else [] := by
  unfold receiveMessage handlesMessage
  cases p.socket with
  | none => simp
  | some s =>
    by_cases hg : s.messageConsumer ∧ .killReceiver remoteEventMessage ∉ s.calls <;>
      simp [hg, rateState]

/-- A request frame moves the counters as its ops move the windows. -/
theorem receiveRPC_tracks {p : Peer} {w : Channel → Window} (h : p.Tracks w)
    (packet : RpcPacket) (onUpdated onRequest : Reaction) :
    (p.receiveRPC packet onUpdated onRequest).1.Tracks
      ((p.rateOps (.rpcFrame packet onUpdated onRequest)).foldl applyRateOp w) := by
  have hc : (p.receiveRPC packet onUpdated onRequest).1.peerConfig = p.peerConfig :=
    congrArg PeerIdentity.peerConfig (step_ident p (.rpcFrame packet onUpdated onRequest))
  have hr := (receiveRPC_eq p packet onUpdated onRequest).1
  have hh := (handleRawRPC_counts p packet onUpdated onRequest).1
  simp only [rateOps]
  cases hs : p.handlesRPC
  · exact h.of_rateState (by simpa [hs] using hr) hc
  · simp only [hs, if_true] at hr ⊢
    rw [hh] at hr
    cases hv : validateRPCRequest packet with
    | error => rw [hv] at hr; exact h.of_rateState hr hc
    | ok r => rw [hv] at hr; exact (h.updateRPCCounter r.1).of_rateState hr hc

/-- A message frame moves the counters as its ops move the windows. -/
theorem receiveMessage_tracks {p : Peer} {w : Channel → Window} (h : p.Tracks w)
    (packet : MessagePacket) (onMessage : Reaction) :
    (p.receiveMessage packet onMessage).1.Tracks
      ((p.rateOps (.messageFrame packet onMessage)).foldl applyRateOp w) := by
  have hc : (p.receiveMessage packet onMessage).1.peerConfig = p.peerConfig :=
    congrArg PeerIdentity.peerConfig (step_ident p (.messageFrame packet onMessage))
  have hr := (receiveMessage_eq p packet onMessage).1
  have hh := (handleRawMessage_counts p packet onMessage).1
  simp only [rateOps]
  cases hs : p.handlesMessage
  · exact h.of_rateState (by simpa [hs] using hr) hc
  · simp only [hs, if_true] at hr ⊢
    rw [hh] at hr
    cases hv : validateProtocolMessage packet with
    | error => rw [hv] at hr; exact h.of_rateState hr hc
    | ok event => rw [hv] at hr; exact (h.updateMessageCounter event).of_rateState hr hc

/-- Each step keeps the counters and rates refining the windows, moved by the step's ops. -/
theorem step_tracks {p : Peer} {w : Channel → Window} (h : p.Tracks w) (s : SessionStep) :
    (p.step s).1.Tracks ((p.rateOps s).foldl applyRateOp w) := by
  by_cases hs : s.KeepsRates
  · have hops : p.rateOps s = [] := by
      cases s <;> simp only [SessionStep.KeepsRates] at hs <;> rfl
    rw [hops]
    exact h.of_rateState (step_rateState p s hs) (by simp [peerConfig])
  cases s with
  | rateTick => exact rateTick_tracks h
  | rpcFrame packet onUpdated onRequest => exact receiveRPC_tracks h packet onUpdated onRequest
  | messageFrame packet onMessage => exact receiveMessage_tracks h packet onMessage
  | _ => exact absurd trivial hs

/-- Every rate a step reports is read from the rates before it. -/
theorem step_reports (p : Peer) (s : SessionStep) : ∀ e ∈ (p.step s).2, p.rateState.Reports e := by
  cases s with
  | applyPenalty => simp only [step, applyPenalty, banPeer]; split <;> simp [RateState.Reports]
  | rateTick =>
    simp only [step, rateTick, applyPenalty, banPeer]; split_ifs <;> simp [RateState.Reports]
  | statusResponse data => cases data <;> simp [step, fetchStatusResponse, RateState.Reports]
  | socketOpen =>
    simp only [step, handleSocketOpen]; split <;> (try split) <;> simp [RateState.Reports]
  | socketClose => simp only [step, handleSocketClose]; split <;> simp [RateState.Reports]
  | socketError =>
    simp only [step, handleSocketError]; split <;> (try split) <;> simp [RateState.Reports]
  | rpcFrame packet onUpdated onRequest =>
    rw [step, (receiveRPC_eq p packet onUpdated onRequest).2]
    split
    · exact (handleRawRPC_counts p packet onUpdated onRequest).2
    · simp
  | messageFrame packet onMessage =>
    rw [step, (receiveMessage_eq p packet onMessage).2]
    split
    · exact (handleRawMessage_counts p packet onMessage).2
    · simp
  | _ => simp [step]

/-- The ops of a run, each step's read off the state before it. -/
def runOps (p : Peer) : List SessionStep → List RateOp
  | [] => []
  | s :: rest => p.rateOps s ++ (p.step s).1.runOps rest

/-- Over a whole run the counters and rates refine the windows of the run's ops. -/
theorem run_tracks {p : Peer} {w : Channel → Window} (h : p.Tracks w) (steps : List SessionStep) :
    (p.run steps).1.Tracks ((p.runOps steps).foldl applyRateOp w) := by
  induction steps generalizing p w with
  | nil => exact h
  | cons s rest ih =>
    simp only [run_cons, runOps, List.foldl_append]
    exact ih (step_tracks h s)

/-- A run leaves the session's config. -/
theorem run_peerConfig (p : Peer) (steps : List SessionStep) :
    (p.run steps).1.peerConfig = p.peerConfig := by
  induction steps generalizing p with
  | nil => rfl
  | cons s rest ih => rw [run_cons, ih]; exact congrArg PeerIdentity.peerConfig (step_ident p s)

/-! ### The law of the windows -/

/-- Take a session as the constructor builds it, any run `pre` of it, and any step after.
Every `requestReceived` or `messageReceived` event the step emits reports
`(c / rateCalculationInterval) * 1000`, each operation rounded to a double, for the count `c` of
its key between the two most recent rotations of the run, and 0 for a key absent from that
window; a tick whose measured message
rate is above `wsMaxMessageRate` leaves the counters and the rates as they were; the counters
hold the counts since the last rotation; and every frame the run counted is in exactly one
window: the closed windows in order, then the open one, are the counted keys. -/
theorem reported_rates_follow_windows (kind : PeerKind) (peerInfo : PeerInfo)
    (peerConfig : PeerConfig) (socket : Option Socket) (ping : PingState) (now : Nat)
    (id : PeerId) (pre : List SessionStep) (s : SessionStep) :
    let q := ((init kind peerInfo peerConfig socket ping now id).run pre).1
    let ops := (init kind peerInfo peerConfig socket ping now id).runOps pre
    (∀ procedure rate, .requestReceived procedure rate ∈ (q.step s).2 →
      rate = windowRate peerConfig.rateCalculationInterval
        ((lastWindowKeys .rpc ops).count procedure)) ∧
    (∀ event rate, .messageReceived event rate ∈ (q.step s).2 →
      rate = windowRate peerConfig.rateCalculationInterval
        ((lastWindowKeys .message ops).count event)) ∧
    (q.measuredRate.gtFinite q.peerConfig.wsMaxMessageRate →
      (q.step .rateTick).1.rateState = q.rateState) ∧
    (∀ channel key,
      (q.rateState.counter channel).get? key = countEntry (openWindowKeys channel ops) key) ∧
    ∀ channel, (windowsOf ops channel).closed.flatten ++ openWindowKeys channel ops =
      ops.filterMap (RateOp.key channel) := by
  intro q ops
  have ht : q.Tracks (windowsOf ops) :=
    run_tracks (init_tracks kind peerInfo peerConfig socket ping now id) pre
  have hrate : ∀ channel key, normalisedRate (q.rateState.rates channel) key =
      windowRate peerConfig.rateCalculationInterval ((lastWindowKeys channel ops).count key) := by
    intro channel key
    rw [normalisedRate_of_tracks (ht channel), last_windowsOf, run_peerConfig]
    rfl
  refine ⟨fun procedure rate he => (step_reports q s _ he).trans (hrate .rpc procedure),
    fun event rate he => (step_reports q s _ he).trans (hrate .message event),
    fun hg => rateTick_rateState q (by simp [rotates, hg]),
    fun channel key => by rw [(ht channel).counter, current_windowsOf],
    fun channel => by rw [← current_windowsOf]; exact keys_windowsOf channel ops⟩

/-! ### Two roundings

The rate is `c / rateInterval` rounded, then `* 1000` rounded: 201 messages in a window of
100 ms report `2009.9999999999998`, not `2010`. -/

/-- A message frame handed to `_handleRawMessage`, whose listeners return, reports its event's
rate, counts it, and leaves the loop running and the next tick as it was. -/
theorem step_messageFrame_returns {p : Peer} (hp : p.handlesMessage) (event : String) :
    (p.step (.messageFrame (.message event) .returns)).2 =
        [.messageReceived event (normalisedRate p.messageRates event)] ∧
      (p.step (.messageFrame (.message event) .returns)).1.handlesMessage ∧
      (p.step (.messageFrame (.message event) .returns)).1.rotates = p.rotates ∧
      p.rateOps (.messageFrame (.message event) .returns) = [.count .message event] := by
  unfold handlesMessage at hp
  split at hp
  · next s hs =>
    simp only [decide_eq_true_eq] at hp
    simp only [step, receiveMessage, hs, hp, and_self, if_true, handleRawMessage,
      validateProtocolMessage, throwsOn, rateOps, handlesMessage, Option.map_some', rotates,
      updateMessageCounter]
    exact ⟨rfl, by simpa using hp.2, rfl, rfl⟩
  · cases hp

/-- Frames of one message, each handed on and answered by returning listeners, count one
each and leave the loop running and the next tick as it was. -/
theorem run_messageFrames {p : Peer} (hp : p.handlesMessage) (event : String) (k : Nat)
    (rest : List SessionStep) :
    p.runOps (List.replicate k (.messageFrame (.message event) .returns) ++ rest) =
        List.replicate k (.count .message event) ++
          (p.run (List.replicate k (.messageFrame (.message event) .returns))).1.runOps rest ∧
      (p.run (List.replicate k (.messageFrame (.message event) .returns))).1.handlesMessage ∧
      (p.run (List.replicate k (.messageFrame (.message event) .returns))).1.rotates =
        p.rotates := by
  induction k generalizing p with
  | zero => exact ⟨rfl, hp, rfl⟩
  | succ k ih =>
    obtain ⟨-, hh, hr, hops⟩ := step_messageFrame_returns hp event
    obtain ⟨ih₁, ih₂, ih₃⟩ := ih hh
    refine ⟨?_, ih₂, ih₃.trans hr⟩
    rw [List.replicate_succ, List.cons_append, runOps, hops, ih₁]
    rfl

/-- A rate tick that rotates keeps the socket. -/
theorem rateTick_socket {p : Peer} (h : p.rotates) : p.rateTick.1.socket = p.socket := by
  simp only [rotates, Bool.and_eq_true, Bool.not_eq_true'] at h
  simp only [rateTick, h.1, h.2, if_true]
  rfl

/-- From a session that hands messages on and whose next tick rotates: `k` messages of one event
and a tick make a window of `k` of them, and the next message reports the rates the tick
computed. -/
theorem messageFrames_then_tick {p : Peer} (hp : p.handlesMessage) (hrot : p.rotates)
    (event : String) (k : Nat) :
    p.runOps (List.replicate k (.messageFrame (.message event) .returns) ++ [.rateTick]) =
        List.replicate k (.count .message event) ++ [.rotate] ∧
      ((p.run (List.replicate k (.messageFrame (.message event) .returns) ++ [.rateTick])).1.step
          (.messageFrame (.message event) .returns)).2 =
        [.messageReceived event (normalisedRate
          (p.run (List.replicate k (.messageFrame (.message event) .returns) ++
            [.rateTick])).1.messageRates event)] := by
  obtain ⟨hops, hh, hr⟩ := run_messageFrames hp event k [.rateTick]
  have hq : (p.run (List.replicate k (.messageFrame (.message event) .returns))).1.rotates :=
    hr.trans hrot
  refine ⟨by rw [hops]; simp [runOps, rateOps, hq], ?_⟩
  simp only [run_append, run_cons, run]
  refine (step_messageFrame_returns ?_ event).1
  unfold handlesMessage at hh ⊢
  rw [show (_ : Peer × List PeerEvent).1 = _ from rfl, step, rateTick_socket hq]
  exact hh

/-- A fresh inbound session whose rate interval is 100 ms. -/
def blockSession : Peer :=
  init .inbound { ipAddress := "1.2.3.4", wsPort := 5000 } ⟨100, 100000, 10⟩ (some {}) .idle 0
    "1.2.3.4:5000"

/-- 201 `block` messages and a rate tick make a window of 201 messages in 100 ms, and the next
message reports `2009.9999999999998`, `2010 - 2^-42`, which is not `1000 * 201 / 100`. -/
theorem reported_rate_rounds_twice :
    (lastWindowKeys .message (blockSession.runOps
        (List.replicate 201 (.messageFrame (.message "block") .returns) ++ [.rateTick]))).count
        "block" = 201 ∧
      ((blockSession.run (List.replicate 201 (.messageFrame (.message "block") .returns) ++
          [.rateTick])).1.step (.messageFrame (.message "block") .returns)).2 =
        [.messageReceived "block" (.finite (mkRat (2010 * 2 ^ 42 - 1) (2 ^ 42)))] ∧
      mkRat (2010 * 2 ^ 42 - 1) (2 ^ 42) ≠ 1000 * 201 / 100 := by
  obtain ⟨hops, hev⟩ := messageFrames_then_tick (p := blockSession) (by decide) (by decide)
    "block" 201
  have hcount := congrArg (fun ops => (lastWindowKeys .message ops).count "block") hops
  simp only [lastWindowKeys_concat_rotate, openWindowKeys_replicate,
    List.count_replicate_self] at hcount
  have ht : (blockSession.run (List.replicate 201 (.messageFrame (.message "block") .returns) ++
      [.rateTick])).1.Tracks (windowsOf (blockSession.runOps
        (List.replicate 201 (.messageFrame (.message "block") .returns) ++ [.rateTick]))) :=
    run_tracks (init_tracks _ _ _ _ _ _ _) _
  have hrate := normalisedRate_of_tracks (ht .message) "block"
  rw [rateState_rates_message, last_windowsOf, hcount, run_peerConfig] at hrate
  have hval : windowRate (blockSession.peerConfig.rateCalculationInterval : ℚ) 201 =
      .finite (mkRat (2010 * 2 ^ 42 - 1) (2 ^ 42)) := by
    decide
  exact ⟨hcount, by rw [hev, hrate, hval], by norm_num [Rat.mkRat_eq_div]⟩

end Peer

end Lp2p
