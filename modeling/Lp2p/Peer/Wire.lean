import Lp2p.Peer.Validation

/-!
# The peer info on the wire

Peers exchange peer infos with the address under `ip`; the pool and the sessions keep it under
`ipAddress`. `incomingPeerInfoSanitization` and `outgoingPeerInfoSanitization`
(`src/unnamed/part_001:44–60`) rename the field with a destructuring and a spread,
`const { ip, ...rest } = peerInfo; return { ipAddress: ip, ...rest }`. The new field comes first
and the spread copies the other fields in order; one that already has the new name overwrites
the value in place. So an object with both fields loses the value of the old one, and an object
without the old one gains the new one, `undefined`.

On an object whose first field is the one renamed, and which has no field of the new name, each
function undoes the other.
-/

namespace Lp2p

open Lp2p.Js

/-- `const { key, ...rest } = obj`: the value under the key, `undefined` when there is none, and
the other fields in order. -/
def destructure (obj : ProtocolPeerInfo) (key : String) : FieldValue × ProtocolPeerInfo :=
  ((obj.get? key).getD .undefined, obj.erase key)

/-- `{ key: value, ...rest }`. -/
def spreadAfter (key : String) (value : FieldValue) (rest : ProtocolPeerInfo) : ProtocolPeerInfo :=
  (JsMap.empty.set key value).setAll rest.entries

/-- `const { src, ...rest } = peerInfo; return { dst: src, ...rest }`, the body of both
sanitizations. -/
def renameField (src dst : String) (peerInfo : ProtocolPeerInfo) : ProtocolPeerInfo :=
  let (value, rest) := destructure peerInfo src
  spreadAfter dst value rest

/-- `incomingPeerInfoSanitization`, `src/unnamed/part_001:44–51`. -/
def incomingPeerInfoSanitization (peerInfo : ProtocolPeerInfo) : ProtocolPeerInfo :=
  renameField "ip" "ipAddress" peerInfo

/-- `outgoingPeerInfoSanitization`, `src/unnamed/part_001:53–60`. -/
def outgoingPeerInfoSanitization (peerInfo : ProtocolPeerInfo) : ProtocolPeerInfo :=
  renameField "ipAddress" "ip" peerInfo

/-- Each sanitization, field by field and in its order of keys: the old field is gone; the new
one comes first and holds the object's own value under the new name if it has one, and the value
of the old field otherwise (`undefined` if it has neither); every other field is kept, in
order. -/
theorem renameField_spec (src dst : String) (hne : src ≠ dst) (peerInfo : ProtocolPeerInfo) :
    (∀ key, (renameField src dst peerInfo).get? key =
      if key = src then none
      else if key = dst then (peerInfo.get? dst).or (some ((peerInfo.get? src).getD .undefined))
      else peerInfo.get? key) ∧
    (renameField src dst peerInfo).keys = dst :: peerInfo.keys.filter fun k => k ≠ src ∧ k ≠ dst := by
  refine ⟨fun key => ?_, ?_⟩
  · simp only [renameField, destructure, spreadAfter, JsMap.get?_setAll, JsMap.get?_erase,
      JsMap.get?_set, JsMap.get?_empty]
    by_cases hs : key = src
    · simp [hs, hne]
    · by_cases hd : key = dst <;> simp [hs, hd, Ne.symm hne]
  · have hl : ((peerInfo.erase src).entries.map Prod.fst).Nodup := (peerInfo.erase src).nodup
    simp only [renameField, destructure, spreadAfter]
    rw [JsMap.keys_setAll _ _ hl, JsMap.keys_set]
    simp only [JsMap.keys, JsMap.empty, List.map_nil, List.not_mem_nil, if_false, List.nil_append]
    rw [← JsMap.keys, JsMap.keys_erase, List.filter_filter]
    simp only [List.mem_singleton, List.singleton_append, List.cons.injEq, true_and]
    exact List.filter_congr fun k _ => by rw [Bool.and_comm]; simp

/-- A peer info that has both address fields. -/
def bothAddressesInfo : ProtocolPeerInfo :=
  ⟨[("wsPort", .number "5000"), ("ip", .raw (.string "1.2.3.4")),
    ("ipAddress", .raw (.string "5.6.7.8"))], by decide⟩

/-- `incomingPeerInfoSanitization` on `bothAddressesInfo`. -/
theorem renameField_spec_both_addresses :
    "ip" ≠ "ipAddress" ∧
      (∀ key, (renameField "ip" "ipAddress" bothAddressesInfo).get? key =
        if key = "ip" then none
        else if key = "ipAddress" then (bothAddressesInfo.get? "ipAddress").or
          (some ((bothAddressesInfo.get? "ip").getD .undefined))
        else bothAddressesInfo.get? key) ∧
      (renameField "ip" "ipAddress" bothAddressesInfo).keys =
        "ipAddress" :: bothAddressesInfo.keys.filter fun k => k ≠ "ip" ∧ k ≠ "ipAddress" :=
  ⟨by decide, renameField_spec "ip" "ipAddress" (by decide) bothAddressesInfo⟩

/- The `ip` of `bothAddressesInfo` is dropped: its `ipAddress` comes first and keeps its value. -/
example : (incomingPeerInfoSanitization bothAddressesInfo).entries =
    [("ipAddress", .raw (.string "5.6.7.8")), ("wsPort", .number "5000")] := by
  decide

/-- On an object whose first field is `src` and which has no field `dst`, renaming moves the
first field's value under `dst`, in place. -/
theorem renameField_entries_cons {src dst : String} {value : FieldValue}
    {rest : List (String × FieldValue)} {peerInfo : ProtocolPeerInfo}
    (he : peerInfo.entries = (src, value) :: rest) (hdst : dst ∉ rest.map Prod.fst) :
    (renameField src dst peerInfo).entries = (dst, value) :: rest := by
  have hnd := peerInfo.nodup
  rw [he, List.map_cons, List.nodup_cons] at hnd
  have hget : peerInfo.get? src = some value :=
    (JsMap.get?_eq_some_iff _ _ _).2 (he ▸ .head _)
  have herase : (peerInfo.erase src).entries = rest := by
    simp only [JsMap.erase, he, List.filter_cons, ne_eq, not_true_eq_false, decide_False,
      Bool.false_eq_true, if_false]
    exact List.filter_eq_self.2 fun x hx => by
      have : x.1 ≠ src := fun h => hnd.1 (List.mem_map.2 ⟨x, hx, h⟩)
      simpa using this
  simp only [renameField, destructure, spreadAfter, hget, Option.getD_some]
  rw [JsMap.entries_setAll_of_disjoint _ _ (herase ▸ (peerInfo.erase src).nodup), herase,
    JsMap.entries_set_of_not_mem _ _ _ (by simp [JsMap.keys, JsMap.empty])]
  · rfl
  · intro x hx hk
    rw [JsMap.keys_set] at hk
    simp only [JsMap.keys, JsMap.empty, List.map_nil, List.not_mem_nil, if_false, List.nil_append,
      List.mem_singleton] at hk
    exact hdst (hk ▸ List.mem_map_of_mem _ (herase ▸ hx))

/-- The two sanitizations undo each other on the objects each one produces from an object with
no field of the new name: the renamed field first, the other fields in order. -/
theorem sanitizations_round_trip (peerInfo : ProtocolPeerInfo) :
    (peerInfo.keys.head? = some "ip" → "ipAddress" ∉ peerInfo.keys →
      outgoingPeerInfoSanitization (incomingPeerInfoSanitization peerInfo) = peerInfo) ∧
    (peerInfo.keys.head? = some "ipAddress" → "ip" ∉ peerInfo.keys →
      incomingPeerInfoSanitization (outgoingPeerInfoSanitization peerInfo) = peerInfo) := by
  have hround : ∀ src dst, src ≠ dst → peerInfo.keys.head? = some src → dst ∉ peerInfo.keys →
      renameField dst src (renameField src dst peerInfo) = peerInfo := by
    intro src dst hne hhead hdst
    obtain ⟨⟨k, value⟩, rest, he⟩ : ∃ e rest, peerInfo.entries = e :: rest := by
      cases h : peerInfo.entries with
      | nil => simp [JsMap.keys, h] at hhead
      | cons e rest => exact ⟨e, rest, rfl⟩
    simp only [JsMap.keys, he, List.map_cons, List.head?_cons, Option.some.injEq] at hhead hdst
    subst hhead
    have hnd := peerInfo.nodup
    rw [he, List.map_cons, List.nodup_cons] at hnd
    have hdst' : dst ∉ rest.map Prod.fst := fun h => hdst (.tail _ h)
    apply JsMap.ext_entries
    rw [renameField_entries_cons (renameField_entries_cons he hdst') hnd.1, he]
  exact ⟨hround "ip" "ipAddress" (by decide), hround "ipAddress" "ip" (by decide)⟩

/-- A peer info as a peer sends it. -/
def wireInfo : ProtocolPeerInfo :=
  ⟨[("ip", .raw (.string "1.2.3.4")), ("wsPort", .number "5000")], by decide⟩

/-- A peer info as the pool keeps it. -/
def poolInfo : ProtocolPeerInfo :=
  ⟨[("ipAddress", .raw (.string "1.2.3.4")), ("wsPort", .number "5000")], by decide⟩

/-- Both sanitizations, applied one after the other, give back the record they started from: from
the wire, whose address is under `ip`, and from the pool, whose address is under `ipAddress`. -/
theorem sanitizations_round_trip_one_peer :
    (wireInfo.keys.head? = some "ip" ∧ "ipAddress" ∉ wireInfo.keys ∧
      outgoingPeerInfoSanitization (incomingPeerInfoSanitization wireInfo) = wireInfo) ∧
    (poolInfo.keys.head? = some "ipAddress" ∧ "ip" ∉ poolInfo.keys ∧
      incomingPeerInfoSanitization (outgoingPeerInfoSanitization poolInfo) = poolInfo) :=
  ⟨⟨by decide, by decide, (sanitizations_round_trip wireInfo).1 (by decide) (by decide)⟩,
    ⟨by decide, by decide, (sanitizations_round_trip poolInfo).2 (by decide) (by decide)⟩⟩

end Lp2p
