import Lp2p.Address.Net
import Lp2p.Peer.Info

/-!
# Address normalisation and peer identifiers

`normalizeIPv6Address`, `normalizeAddress` and `getPeerIdFromPeerInfo` of the `utils.js` that
`src/peer_pool.js:51` requires, whose copy is `src/unnamed/part_000` (lines 137–173 and 273–279;
the `src/utils.js` of this tree has no `normalizeAddress`). `normalizeIPv6Address` pads the `::`
with the colons missing from seven, splits at the colons and prints each part through
`parseInt(part, 16).toString(16)`; `':'.repeat` throws when the text already has more than
seven colons. `normalizeAddress` turns a text ending in `ffff:` and a dotted quad into that
IPv4 address, with a regular expression that is case-sensitive and not anchored at the start.
-/

namespace Lp2p.Address

open Lp2p.Js

/-- `IPV6_UNCOMPRESSED_COLON_COUNT`. -/
def ipv6UncompressedColonCount : Nat := 7

/-- One part of the split address: `'0'` for an empty part, else `parseInt(part, 16)`
printed in hexadecimal; `src/unnamed/part_000:142–147`. -/
def normalizeIPv6Part (part : List Char) : List Char :=
  if part = [] then ['0'] else numberToString (parseInt part 16) 16

/-- `normalizeIPv6Address`, `src/unnamed/part_000:137–149`. -/
def normalizeIPv6Address (ipv6Address : List Char) : Except JsError (List Char) := do
  let colonCount := ipv6Address.count ':'
  let colonDiff : Int := ipv6UncompressedColonCount - colonCount
  let fill ← Js.repeat [':'] colonDiff
  let fullColonAddress := replaceDoubleColons (':' :: ':' :: fill) ipv6Address
  pure (join ':' ((split ':' fullColonAddress).map normalizeIPv6Part))

/-- `PROTOCOL_IPV4` and `PROTOCOL_IPV6`. -/
inductive Protocol
  | ipv4
  | ipv6
  deriving DecidableEq, Repr

/-- The `{ protocol, address }` record `normalizeAddress` returns. -/
structure NormalizedAddress where
  protocol : Protocol
  address : String
  deriving DecidableEq, Repr

/-- `[0-9]{1,3}[.][0-9]{1,3}[.][0-9]{1,3}[.][0-9]{1,3}`, the group of `IPV6_HYBRID_REGEX`. -/
def isHybridQuad (s : List Char) : Bool :=
  match split '.' s with
  | [a, b, c, d] => [a, b, c, d].all fun p => p ≠ [] && p.length ≤ 3 && p.all isDecDigit
  | _ => false

/-- `address.match(IPV6_HYBRID_REGEX)[1]` for `/ffff:(quad)$/`: the first `ffff:` whose
remainder is a quad, wherever it starts; `src/unnamed/part_000:116`. -/
def matchIPv6Hybrid : List Char → Option (List Char)
  | [] => none
  | c :: rest =>
    match c :: rest with
    | 'f' :: 'f' :: 'f' :: 'f' :: ':' :: quad =>
      if isHybridQuad quad then some quad else matchIPv6Hybrid rest
    | _ => matchIPv6Hybrid rest

/-- `normalizeAddress`, `src/unnamed/part_000:151–173`. -/
def normalizeAddress (address : String) : Except JsError NormalizedAddress :=
  if isIPv6 address then
    match matchIPv6Hybrid address.data with
    | some quad => .ok ⟨.ipv4, String.mk quad⟩
    | none => do
      let normalized ← normalizeIPv6Address address.data
      pure ⟨.ipv6, String.mk normalized⟩
  else .ok ⟨.ipv4, address⟩

/-- `getPeerIdFromPeerInfo`, `src/unnamed/part_000:273–279`. -/
def getPeerIdFromPeerInfo (peerInfo : PeerInfo) : Except JsError PeerId := do
  let normalized ← normalizeAddress peerInfo.ipAddress
  match normalized.protocol with
  | .ipv6 => pure ("[" ++ normalized.address ++ "]:" ++ toString peerInfo.wsPort)
  | .ipv4 => pure (normalized.address ++ ":" ++ toString peerInfo.wsPort)

/-- The id of a peer info reads only its address fields. -/
theorem getPeerIdFromPeerInfo_address (peerInfo : PeerInfo) :
    getPeerIdFromPeerInfo { ipAddress := peerInfo.ipAddress, wsPort := peerInfo.wsPort } =
      getPeerIdFromPeerInfo peerInfo := rfl

/-- The identifier is not canonical. `::2.3.4.5` and `::2` are different addresses, yet
both get `[0:0:0:0:0:0:0:2]:5000`, because `parseInt` reads the dotted part as the one
group `2`. `::FFFF:1.2.3.4` and `::ffff:1.2.3.4` are the same address, yet they get different
identifiers, because the hybrid expression is case-sensitive. `1:2:3:4:5:6:7::` has eight
colons, so `':'.repeat(-1)` throws and the address gets no identifier at all. -/
theorem getPeerIdFromPeerInfo_not_canonical :
    isIPv6 "::2.3.4.5" = true ∧ isIPv6 "::2" = true ∧
    ipv6Value "::2.3.4.5".data ≠ ipv6Value "::2".data ∧
    getPeerIdFromPeerInfo { ipAddress := "::2.3.4.5", wsPort := 5000 } =
      .ok "[0:0:0:0:0:0:0:2]:5000" ∧
    getPeerIdFromPeerInfo { ipAddress := "::2", wsPort := 5000 } =
      .ok "[0:0:0:0:0:0:0:2]:5000" ∧
    isIPv6 "::FFFF:1.2.3.4" = true ∧ isIPv6 "::ffff:1.2.3.4" = true ∧
    ipv6Value "::FFFF:1.2.3.4".data = ipv6Value "::ffff:1.2.3.4".data ∧
    getPeerIdFromPeerInfo { ipAddress := "::FFFF:1.2.3.4", wsPort := 5000 } =
      .ok "[0:0:0:0:0:0:ffff:1]:5000" ∧
    getPeerIdFromPeerInfo { ipAddress := "::ffff:1.2.3.4", wsPort := 5000 } =
      .ok "1.2.3.4:5000" ∧
    isIPv6 "1:2:3:4:5:6:7::" = true ∧
    ipv6Value "1:2:3:4:5:6:7::".data = some [1, 2, 3, 4, 5, 6, 7, 0] ∧
    getPeerIdFromPeerInfo { ipAddress := "1:2:3:4:5:6:7::", wsPort := 5000 } =
      .error (.error "RangeError" "Invalid count value: -1") := by
  decide

end Lp2p.Address
