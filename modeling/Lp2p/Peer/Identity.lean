import Lp2p.Peer.Ban

/-!
# The address a session reports

`Peer` keeps the address it was constructed with in `_ipAddress` and `_wsPort` and computes
its `id` from them once (`src/peer/base.js:81–90`). The peer info it reports can be replaced
later, by an `updateMyself` request (`_handleUpdatePeerInfo`) and by the response to
`fetchStatus`, but both go through `updatePeerInfo` (`src/peer/base.js:252–259`), which puts
the constructor's address back, and an update whose validation fails changes nothing. So the
peer info always carries the session's own address, and the id the pool computes from either
close packet is the session's id.
-/

namespace Lp2p

open Lp2p.Js Lp2p.Address

/-- The steps that may replace the peer info: an incoming request, which may be
`updateMyself`, and the response to `fetchStatus`. -/
def SessionStep.UpdatesPeerInfo : SessionStep → Prop
  | .rpcFrame .. | .statusResponse _ => True
  | _ => False

namespace Peer

/-- The peer info carries the address the session was constructed with. -/
def AddressInv (p : Peer) : Prop :=
  p.peerInfo.ipAddress = p.ipAddress ∧ p.peerInfo.wsPort = p.wsPort

/-- The identity is the one the constructor computes from its peer info. -/
def IdentInv (p : Peer) : Prop :=
  getPeerIdFromPeerInfo p.ident.initialPeerInfo = .ok p.id ∧
    p.ipAddress = p.ident.initialPeerInfo.ipAddress ∧ p.wsPort = p.ident.initialPeerInfo.wsPort

/-- Only the identity and the peer info matter to the address invariant. -/
theorem AddressInv.of_eq {p q : Peer} (hi : q.ident = p.ident) (hp : q.peerInfo = p.peerInfo)
    (h : p.AddressInv) : q.AddressInv := by
  unfold AddressInv ipAddress wsPort
  rw [hi, hp]
  exact h

/-- Only the identity matters to the identity invariant. -/
theorem IdentInv.of_ident {p q : Peer} (hi : q.ident = p.ident) (h : p.IdentInv) :
    q.IdentInv := by
  unfold IdentInv id ipAddress wsPort
  rw [hi]
  exact h

/-- `updatePeerInfo` always leaves the constructor's address in the peer info. -/
theorem updatePeerInfo_addressInv (p : Peer) (newPeerInfo : PeerInfo) :
    (p.updatePeerInfo newPeerInfo).AddressInv :=
  ⟨rfl, rfl⟩

/-- A status response keeps the address invariant. -/
theorem fetchStatusResponse_addressInv {p : Peer} (h : p.AddressInv)
    (data : Except JsError PeerInfo) : (p.fetchStatusResponse data).1.AddressInv := by
  cases data
  · exact h
  · exact updatePeerInfo_addressInv p _

/-- `_handleUpdatePeerInfo` keeps the address invariant. -/
theorem handleUpdatePeerInfo_addressInv {p : Peer} (h : p.AddressInv)
    (data : Except JsError PeerInfo) (onUpdated : Reaction) :
    (p.handleUpdatePeerInfo data onUpdated).peer.AddressInv := by
  unfold handleUpdatePeerInfo
  split
  · split <;> exact h
  · exact updatePeerInfo_addressInv p _

/-- Answering a request itself keeps the address invariant. -/
theorem answerRequest_addressInv {p : Peer} (h : p.AddressInv) (procedure : String)
    (data : Except JsError PeerInfo) (onUpdated : Reaction) :
    (p.answerRequest procedure data onUpdated).peer.AddressInv := by
  unfold answerRequest
  split_ifs
  · exact handleUpdatePeerInfo_addressInv h data onUpdated
  all_goals exact h

/-- The application's answer to a request leaves the peer info. -/
theorem reactToRequest_peerInfo (p : Peer) (procedure : String) (sent : Bool)
    (onRequest : Reaction) :
    (p.reactToRequest procedure sent onRequest).1.peerInfo = p.peerInfo := by
  unfold reactToRequest
  split
  · split
    · rfl
    · split <;> rfl
    · rfl
  · rfl

/-- `_handleRawRPC` keeps the address invariant. -/
theorem handleRawRPC_addressInv {p : Peer} (h : p.AddressInv) (packet : RpcPacket)
    (onUpdated onRequest : Reaction) :
    (p.handleRawRPC packet onUpdated onRequest).peer.AddressInv := by
  unfold handleRawRPC
  split
  · exact h
  · next procedure data _ =>
    have hc : (p.updateRPCCounter procedure).AddressInv := h
    have ha := answerRequest_addressInv hc procedure data onUpdated
    dsimp only
    split
    · exact ha
    · exact ha.of_eq (congrArg Control.ident (reactToRequest_control _ _ _ _))
        (reactToRequest_peerInfo _ _ _ _)

/-- A request frame keeps the address invariant. -/
theorem receiveRPC_addressInv {p : Peer} (h : p.AddressInv) (packet : RpcPacket)
    (onUpdated onRequest : Reaction) : (p.receiveRPC packet onUpdated onRequest).1.AddressInv := by
  simp only [receiveRPC]
  split
  · split
    · exact handleRawRPC_addressInv h packet onUpdated onRequest
    · exact h
  · exact h

/-- Only an incoming request and the status response can replace the peer info. -/
theorem step_peerInfo (p : Peer) (s : SessionStep) (hs : ¬ s.UpdatesPeerInfo) :
    (p.step s).1.peerInfo = p.peerInfo := by
  cases s <;> simp only [SessionStep.UpdatesPeerInfo, not_true_eq_false] at hs
  case applyPenalty => simp only [step, applyPenalty, banPeer]; split <;> simp [disconnect_eq]
  case rateTick =>
    simp only [step, rateTick, applyPenalty, banPeer]
    split_ifs <;> simp [disconnect_eq]
  case productivityTick => simp only [step, productivityTick]; split <;> rfl
  case request => simp only [step, request, ensureOutboundSocket]; split <;> split <;> rfl
  case settle =>
    simp only [step, settleRequest]; split
    · rfl
    · split <;> simp [disconnect_eq]
  case send => simp only [step, send, ensureOutboundSocket]; split <;> split <;> rfl
  case connect => simp only [step, connect, ensureOutboundSocket]; split <;> split_ifs <;> rfl
  case applyNodeInfo =>
    simp only [step, applyNodeInfo, request, ensureOutboundSocket]
    split
    · split <;> rfl
    · split <;> split <;> rfl
  case disconnect => simp [step, disconnect_eq]
  case pingTimer => simp only [step, sendPing]; split <;> rfl
  case pingSettle => simp only [step, settlePing]; split <;> rfl
  case socketOpen =>
    simp only [step, handleSocketOpen, request, ensureOutboundSocket]
    repeat' split
    all_goals rfl
  case socketClose => simp only [step, handleSocketClose]; split <;> rfl
  case messageFrame =>
    simp only [step, receiveMessage, handleRawMessage]
    repeat' split
    all_goals rfl
  all_goals rfl

/-- Every step keeps the constructor's address in the peer info. -/
theorem step_addressInv {p : Peer} (h : p.AddressInv) (s : SessionStep) :
    (p.step s).1.AddressInv := by
  by_cases hs : s.UpdatesPeerInfo
  · cases s <;> simp only [SessionStep.UpdatesPeerInfo] at hs
    · exact fetchStatusResponse_addressInv h _
    · exact receiveRPC_addressInv h _ _ _
  · exact h.of_eq (step_ident p s) (step_peerInfo p s hs)

/-- Over every run, the identity is kept and the peer info keeps the constructor's address. -/
theorem run_addressInv {p : Peer} (h : p.AddressInv) (steps : List SessionStep) :
    (p.run steps).1.ident = p.ident ∧ (p.run steps).1.AddressInv := by
  induction steps generalizing p with
  | nil => exact ⟨rfl, h⟩
  | cons s rest ih =>
    obtain ⟨hi, ha⟩ := ih (step_addressInv h s)
    exact ⟨hi.trans (step_ident p s), ha⟩

/-- `updateMyself` with data that failed validation leaves the peer info as it was. -/
theorem handleUpdatePeerInfo_error_peerInfo (p : Peer) (error : JsError) (onUpdated : Reaction) :
    (p.handleUpdatePeerInfo (.error error) onUpdated).peer.peerInfo = p.peerInfo := by
  simp only [handleUpdatePeerInfo]; split <;> rfl

/-- An update whose validation failed leaves the peer info exactly as it was, whether it came
as an `updateMyself` request or as the response to `fetchStatus`. -/
theorem failed_update_peerInfo (p : Peer) (error : JsError) (onUpdated onRequest : Reaction) :
    (p.step (.rpcFrame (.request remoteRPCUpdatePeerInfo (.error error)) onUpdated
      onRequest)).1.peerInfo = p.peerInfo ∧
    (p.step (.statusResponse (.error error))).1.peerInfo = p.peerInfo := by
  refine ⟨?_, rfl⟩
  simp only [step, receiveRPC]
  split
  · split
    · simp only [handleRawRPC, validateRPCRequest, answerRequest, if_pos rfl]
      split
      · exact handleUpdatePeerInfo_error_peerInfo _ _ _
      · exact (reactToRequest_peerInfo _ _ _ _).trans (handleUpdatePeerInfo_error_peerInfo _ _ _)
    · rfl
  · rfl

/-- A session the constructor returns keeps the peer info it was given, carries its address
and the id computed from it. -/
theorem create_identInv {kind : PeerKind} {peerInfo : PeerInfo} {peerConfig : PeerConfig}
    {socket : Option Socket} {ping : PingState} {now : Nat} {p : Peer}
    (h : create kind peerInfo peerConfig socket ping now = .ok p) :
    p.ident.initialPeerInfo = peerInfo ∧ p.IdentInv ∧ p.AddressInv := by
  simp only [create] at h
  cases hid : getPeerIdFromPeerInfo { ipAddress := peerInfo.ipAddress, wsPort := peerInfo.wsPort }
  · rw [hid] at h; cases h
  · rw [hid] at h
    cases h
    exact ⟨rfl, ⟨hid, rfl, rfl⟩, rfl, rfl⟩

/-- The id the pool computes from a close packet of a session is the session's id: the
inbound packet carries the constructor's peer info, the outbound one the current peer info. -/
theorem closePacket_id {p : Peer} (hi : p.IdentInv) (ha : p.AddressInv) (code : DisconnectCode) :
    ∀ e ∈ (p.handleSocketClose code).2, ∀ packet,
      (e = .closeInbound packet ∨ e = .closeOutbound packet) →
        getPeerIdFromPeerInfo packet.peerInfo = .ok p.id := by
  intro e he packet hp
  obtain ⟨hid, hip, hport⟩ := hi
  unfold handleSocketClose at he
  split at he <;> simp only [List.mem_singleton] at he <;> subst he <;>
    simp only [reduceCtorEq, PeerEvent.closeInbound.injEq, PeerEvent.closeOutbound.injEq,
      false_or, or_false] at hp <;> subst hp
  · exact hid
  · rw [← getPeerIdFromPeerInfo_address, ha.1, ha.2, hip, hport, getPeerIdFromPeerInfo_address,
      hid]

/-! ### The cached height

`_height` is assigned once, in the constructor, as `peerInfo.height ? peerInfo.height : 0`
(`src/peer/base.js:92`); the `height` getter returns it (`src/peer/base.js:216–218`), and
`updatePeerInfo` replaces `_peerInfo` alone. -/

/-- `disconnect` leaves the cached height. -/
@[simp] theorem disconnect_height (p : Peer) (code : DisconnectCode) :
    (p.disconnect code).height = p.height := by
  rw [disconnect_eq]

/-- `applyPenalty` leaves the cached height. -/
@[simp] theorem applyPenalty_height (p : Peer) (penalty : Int) :
    (p.applyPenalty penalty).1.height = p.height := by
  simp only [applyPenalty, banPeer]; split <;> simp

/-- Creating an outbound socket leaves the cached height. -/
@[simp] theorem ensureOutboundSocket_height (p : Peer) :
    p.ensureOutboundSocket.height = p.height := by
  unfold ensureOutboundSocket; split <;> rfl

/-- `request` leaves the cached height. -/
@[simp] theorem request_height (p : Peer) (procedure : String) (caller : Caller) :
    (p.request procedure caller).1.height = p.height := by
  simp only [request]; split <;> exact ensureOutboundSocket_height p

/-- `_handleRawRPC` leaves the cached height. -/
theorem handleRawRPC_height (p : Peer) (packet : RpcPacket) (onUpdated onRequest : Reaction) :
    (p.handleRawRPC packet onUpdated onRequest).peer.height = p.height := by
  simp only [handleRawRPC, answerRequest, handleUpdatePeerInfo, reactToRequest]
  repeat' split
  all_goals rfl

/-- No step changes the cached height. -/
theorem step_height (p : Peer) (s : SessionStep) : (p.step s).1.height = p.height := by
  cases s
  case rateTick => simp only [step, rateTick]; split_ifs <;> simp
  case productivityTick => simp only [step, productivityTick]; split <;> rfl
  case wsMessage | pingRequest => rfl
  case settle =>
    simp only [step, settleRequest]; split
    · rfl
    · split <;> simp
  case statusResponse data => cases data <;> rfl
  case send => simp only [step, send]; split <;> exact ensureOutboundSocket_height p
  case connect =>
    simp only [step, connect]; split
    · rfl
    · exact ensureOutboundSocket_height p
  case applyNodeInfo =>
    simp only [step, applyNodeInfo]; split
    · split <;> rfl
    · exact request_height _ _ _
  case pingTimer => simp only [step, sendPing]; split <;> rfl
  case pingSettle => simp only [step, settlePing]; split <;> rfl
  case socketOpen => simp only [step, handleSocketOpen]; split <;> (try split) <;> simp
  case socketClose => simp only [step, handleSocketClose]; split <;> rfl
  case rpcFrame =>
    simp only [step, receiveRPC]; split
    · split
      · exact handleRawRPC_height _ _ _ _
      · rfl
    · rfl
  case messageFrame =>
    simp only [step, receiveMessage, handleRawMessage]
    repeat' split
    all_goals rfl
  all_goals simp [step]

/-- Every session the constructor builds keeps, over every run, the height the constructor
cached from its first peer info, `peerInfo.height || 0`, whatever the peer info says later. -/
theorem cached_height_constant (kind : PeerKind) (peerInfo : PeerInfo) (peerConfig : PeerConfig)
    (socket : Option Socket) (ping : PingState) (now : Nat) (id : PeerId)
    (steps : List SessionStep) :
    ((init kind peerInfo peerConfig socket ping now id).run steps).1.height =
      peerInfo.height.getD 0 := by
  suffices h : ∀ p : Peer, (p.run steps).1.height = p.height from h _
  induction steps with
  | nil => intro p; rfl
  | cons s rest ih => intro p; rw [run_cons, ih, step_height]

/-- A session constructed with height 5 gets the status response of a peer at height 7: its
peer info reports 7, its cached height is still 5. A session constructed with height -5
caches -5, not 0. -/
theorem height_diverges_from_peerInfo :
    ((init .outbound { ipAddress := "1.2.3.4", wsPort := 5000, height := some 5 }
        ⟨1000, 100, 10⟩ none .idle 0 "1.2.3.4:5000").step
        (.statusResponse (.ok { ipAddress := "1.2.3.4", wsPort := 5000, height := some 7 }))).1.peerInfo.height = some 7 ∧
    ((init .outbound { ipAddress := "1.2.3.4", wsPort := 5000, height := some 5 }
        ⟨1000, 100, 10⟩ none .idle 0 "1.2.3.4:5000").step
        (.statusResponse (.ok { ipAddress := "1.2.3.4", wsPort := 5000, height := some 7 }))).1.height = 5 ∧
    (init .inbound { ipAddress := "1.2.3.4", wsPort := 5000, height := some (-5) }
        ⟨1000, 100, 10⟩ none .scheduled 0 "1.2.3.4:5000").height = -5 := by
  decide

end Peer

end Lp2p
