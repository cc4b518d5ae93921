import Lp2p.Address.Canonical
import Lp2p.Errors
import Lp2p.Js.Buffer
import Lp2p.Js.Number

/-!
# Network classes and hash buckets

`isPrivate`, `isLocal`, `getNetwork`, `getIPV6Bytes`, `getIPV4Bytes` and `getBucketId` of
`src/unnamed/part_000:175–271`; `src/src/utils.js:68–164` has the same text. The two classifiers
test the text, not the address: on anything that is not an IPv4 text, `isPrivate` looks at the
first two characters before the first colon and `isLocal` at the output of
`normalizeIPv6Address`, which throws on a text with more than seven colons. The IPv6 bytes are
those of the groups `normalizeIPv6Address` prints, each padded to four hexadecimal digits.

SHA-256 is a parameter `hash` (spec §1 treats it as a black box), and `bucketMessage` is the
message `getBucketId` hands to it. `secret` is a non-negative integer; `writeUInt32BE` throws
above `2 ^ 32 - 1`.
-/

namespace Lp2p.Address

open Lp2p.Js

/-- `NETWORK`, `src/unnamed/part_000:40–46`. -/
inductive Network
  | netIPv4
  | netIPv6
  | netPrivate
  | netLocal
  | netOther
  deriving DecidableEq, Repr

/-- The number a `NETWORK` member stands for. -/
def Network.code : Network → Nat
  | .netIPv4 => 0
  | .netIPv6 => 1
  | .netPrivate => 2
  | .netLocal => 3
  | .netOther => 4

/-- `PEER_TYPE`, `src/unnamed/part_000:48–51`. -/
inductive PeerType
  | newPeer
  | triedPeer
  deriving DecidableEq, Repr

/-- `IPV6_UNCOMPRESSED_PART_LENGTH`. -/
def ipv6UncompressedPartLength : Nat := 4

/-- `addressParts[i]` passed to `parseInt` without a radix; a missing part is `undefined`,
which `parseInt` reads as `NaN`, as it reads the empty text. -/
def parsePart (parts : List (List Char)) (i : Nat) : Option Int := parseInt (parts.getD i []) 0

/-- `isPrivate`, `src/unnamed/part_000:175–188`. -/
def isPrivate (address : String) : Bool :=
  if isIPv4 address then
    let addressParts := split '.' address.data
    let addressFirstNumber := parsePart addressParts 0
    let addressSecondNumber := parsePart addressParts 1
    addressFirstNumber = some 10 ||
      (addressFirstNumber = some 172 &&
        (addressSecondNumber.map fun n => decide (16 ≤ n ∧ n ≤ 31)).getD false)
  else
    let firstAddressPart := (split ':' address.data).getD 0 []
    let addressPrefix := firstAddressPart.take 2
    addressPrefix = "fc".data || addressPrefix = "fd".data

/-- `isLocal`, `src/unnamed/part_000:190–198`. -/
def isLocal (address : String) : Except JsError Bool :=
  if isIPv4 address then
    let addressFirstNumber := parsePart (split '.' address.data) 0
    .ok (addressFirstNumber = some 127 || addressFirstNumber = some 0)
  else
    (normalizeIPv6Address address.data).map (· = "0:0:0:0:0:0:0:1".data)

/-- `getNetwork`, `src/unnamed/part_000:200–219`. -/
def getNetwork (address : String) : Except JsError Network :=
  (isLocal address).map fun isLocalAddress =>
    if isLocalAddress then .netLocal
    else if isPrivate address then .netPrivate
    else if isIPv4 address then .netIPv4
    else if isIPv6 address then .netIPv6
    else .netOther

/-- One group of `getIPV6Bytes`: `'0'.repeat(4 - part.length)`, which throws on a part longer
than four, then the part, read as hex. -/
def ipv6PartBytes (part : List Char) : Except JsError Bytes :=
  (Js.repeat ['0'] ((ipv6UncompressedPartLength : Int) - part.length)).map fun zeros =>
    hexToBytes (zeros ++ part)

/-- `getIPV6Bytes`, `src/unnamed/part_000:221–229`. -/
def getIPV6Bytes (ipv6Address : String) : Except JsError Bytes := do
  let normalizedAddress ← normalizeIPv6Address ipv6Address.data
  let addressBuffers ← (split ':' normalizedAddress).mapM ipv6PartBytes
  pure addressBuffers.flatten

/-- `getIPV4Bytes`, `src/unnamed/part_000:231–238`: one byte per part, `parseInt(part)`. -/
def getIPV4Bytes (ipv4Address : String) : Except JsError Bytes :=
  (split '.' ipv4Address.data).mapM fun part => writeUInt8 (parseInt part 0)

/-- The `options` of `getBucketId`. -/
structure BucketOptions where
  secret : Nat
  targetAddress : String
  peerType : PeerType
  bucketCount : Nat
  deriving DecidableEq, Repr

/-- `hash(bytes).readUInt32BE(0) % bucketCount`. -/
def bucketOf (hash : Bytes → Bytes) (bytes : Bytes) (bucketCount : Nat) :
    Except JsError JsNumber :=
  (readUInt32BE (hash bytes)).map fun n =>
    if bucketCount = 0 then .nan else .finite ((n % bucketCount : Nat) : ℚ)

/-- `getBucketId`, `src/unnamed/part_000:240–271`. -/
def getBucketId (hash : Bytes → Bytes) (options : BucketOptions) : Except JsError JsNumber := do
  let secretBytes ← writeUInt32BE options.secret
  let network ← getNetwork options.targetAddress
  let networkBytes : Bytes := [UInt8.ofNat network.code]
  match network with
  | .netOther => throw (plainError "IP address is unsupported.")
  | .netLocal | .netPrivate => bucketOf hash (secretBytes ++ networkBytes) options.bucketCount
  | .netIPv6 | .netIPv4 =>
    let addressBytes ← if network = .netIPv6 then getIPV6Bytes options.targetAddress
      else getIPV4Bytes options.targetAddress
    let bucketBytes := secretBytes ++ networkBytes ++ addressBytes
    bucketOf hash bucketBytes options.bucketCount

/-! ## The message hashed -/

/-- The message `getBucketId` hands to the hash: the secret, the network, and the address
bytes unless the network is local or private. -/
def bucketMessage (options : BucketOptions) : Except JsError Bytes := do
  let secretBytes ← writeUInt32BE options.secret
  let network ← getNetwork options.targetAddress
  match network with
  | .netOther => throw (plainError "IP address is unsupported.")
  | .netLocal | .netPrivate => pure (secretBytes ++ [UInt8.ofNat network.code])
  | .netIPv6 | .netIPv4 =>
    let addressBytes ← if network = .netIPv6 then getIPV6Bytes options.targetAddress
      else getIPV4Bytes options.targetAddress
    pure (secretBytes ++ [UInt8.ofNat network.code] ++ addressBytes)

/-- `getBucketId` hashes `bucketMessage`, whatever the hash. -/
theorem getBucketId_eq (hash : Bytes → Bytes) (options : BucketOptions) :
    getBucketId hash options =
      (bucketMessage options).bind fun message => bucketOf hash message options.bucketCount := by
  unfold getBucketId bucketMessage
  cases writeUInt32BE options.secret <;> cases getNetwork options.targetAddress <;> try rfl
  next network =>
    cases network <;> try rfl
    · cases getIPV4Bytes options.targetAddress <;> rfl
    · cases getIPV6Bytes options.targetAddress <;> rfl

/-- On a text that is no IP address, the classifiers still answer from the text: `fd` is
private, `::1x` is the loopback, and a text with nine colons makes `getBucketId` throw a
`RangeError`; only the rest are `NET_OTHER`. -/
theorem getNetwork_of_non_address :
    isIP "fd" = 0 ∧ getNetwork "fd" = .ok .netPrivate ∧
      getBucketId id ⟨1, "fd", .newPeer, 16⟩ = .ok (.finite 1) ∧
    isIP "::1x" = 0 ∧ getNetwork "::1x" = .ok .netLocal ∧
    isIP ":::::::::" = 0 ∧
      getBucketId id ⟨1, ":::::::::", .newPeer, 16⟩ =
        .error (.error "RangeError" "Invalid count value: -2") := by
  decide

/-! ## The reference encoding

The encoding of an address by the address it denotes: the class of the address, then its four
octets or its sixteen bytes, none for a local or private one. -/

/-- The address part of a text, before a zone index. -/
def addressPart (s : String) : List Char := (s.data.span (· ≠ '%')).1

/-- The class of the address a text denotes: local for `0/8`, `127/8` and `::1`, private for
`10/8`, `172.16/12` and `fc00::/7`, otherwise its family; `NET_OTHER` for no address. -/
def referenceNetwork (a : String) : Network :=
  if isIPv4 a then
    match (split '.' a.data).map (digitsValue 10) with
    | o1 :: o2 :: _ =>
      if o1 = 0 ∨ o1 = 127 then .netLocal
      else if o1 = 10 ∨ (o1 = 172 ∧ 16 ≤ o2 ∧ o2 ≤ 31) then .netPrivate
      else .netIPv4
    | _ => .netIPv4
  else
    match ipv6Value (addressPart a) with
    | some groups =>
      if groups = [0, 0, 0, 0, 0, 0, 0, 1] then .netLocal
      else if 0xfc00 ≤ groups.headD 0 ∧ groups.headD 0 ≤ 0xfdff then .netPrivate
      else .netIPv6
    | none => .netOther

/-- The message of the reference encoding: the secret in four bytes, the class, and the four
octets or the sixteen bytes of the address. -/
def referenceMessage (secret : Nat) (a : String) : Bytes :=
  bytesBE32 secret ++ [UInt8.ofNat (referenceNetwork a).code] ++
    match referenceNetwork a with
    | .netIPv4 => ((split '.' a.data).map (digitsValue 10)).map UInt8.ofNat
    | .netIPv6 =>
      ((ipv6Value (addressPart a)).getD []).flatMap fun g => [UInt8.ofNat (g / 256), UInt8.ofNat g]
    | _ => []

/-- The bucket does not follow the reference encoding. `1:2:3:4:5:6:1.2.3.4` is hashed with
fourteen address bytes, since its dotted quad is printed as the one group `1`, and a hash that
reads the end of its message tells the two apart; `::2.3.4.5` and `::2` are different addresses
hashed from one message; `FC00::1` is in `fc00::/7` but not private to the code, which compares
the text with `fc` and `fd`. -/
theorem getBucketId_not_reference :
    isIP "1:2:3:4:5:6:1.2.3.4" = 6 ∧
      bucketMessage ⟨0, "1:2:3:4:5:6:1.2.3.4", .newPeer, 16⟩ =
        .ok [0, 0, 0, 0, 1, 0, 1, 0, 2, 0, 3, 0, 4, 0, 5, 0, 6, 0, 1] ∧
      (referenceMessage 0 "1:2:3:4:5:6:1.2.3.4").length = 21 ∧
      getBucketId List.reverse ⟨0, "1:2:3:4:5:6:1.2.3.4", .newPeer, 4294967296⟩ ≠
        bucketOf List.reverse (referenceMessage 0 "1:2:3:4:5:6:1.2.3.4") 4294967296 ∧
    ipv6Value "::2.3.4.5".data ≠ ipv6Value "::2".data ∧
      bucketMessage ⟨0, "::2.3.4.5", .newPeer, 16⟩ =
        bucketMessage ⟨0, "::2", .newPeer, 16⟩ ∧
    referenceNetwork "FC00::1" = .netPrivate ∧ getNetwork "FC00::1" = .ok .netIPv6 := by
  decide

/-! ## IPv4 addresses follow the reference encoding -/

/-- The value of a decimal digit. -/
theorem digitValue_of_isDecDigit {c : Char} (h : isDecDigit c) :
    digitValue c = some (c.toNat - 48) ∧ c.toNat - 48 < 10 := by
  have h1 : 48 ≤ c.toNat ∧ c.toNat ≤ 57 := by simpa [isDecDigit] using h
  have h2 : '0' ≤ c ∧ c ≤ '9' := by simpa [isDecDigit] using h
  exact ⟨by simp [digitValue, h2], by omega⟩

/-- A decimal digit is a digit of every radix from ten. -/
theorem isDigitOf_of_isDecDigit {c : Char} (h : isDecDigit c) {radix : Nat} (hr : 10 ≤ radix) :
    isDigitOf radix c = true := by
  obtain ⟨hv, hlt⟩ := digitValue_of_isDecDigit h
  simp only [isDigitOf, hv, decide_eq_true_eq]
  omega

/-- `parseInt(text)` of a non-empty run of decimal digits is its value. -/
theorem parseInt_dec {p : List Char} (hne : p ≠ []) (hd : ∀ c ∈ p, isDecDigit c) :
    parseInt p 0 = some ((digitsValue 10 p : Nat) : Int) := by
  have hx : ∀ c ∈ p, isHexDigit c := fun c hc => isDigitOf_of_isDecDigit (hd c hc) (by decide)
  obtain ⟨c, t, rfl⟩ := List.exists_cons_of_ne_nil hne
  obtain ⟨-, -, -, -, hm, hp, -, -, hw⟩ := hexDigit_ne (hx c (by simp))
  have hdrop : (c :: t).dropWhile isWhiteSpace = c :: t := by simp [List.dropWhile, hw]
  have hsign : parseSign (c :: t) = (1, c :: t) :=
    parseSign.eq_3 _ (fun _ he => hm (List.cons.inj he).1) (fun _ he => hp (List.cons.inj he).1)
  have htake : (c :: t).takeWhile (isDigitOf 10) = c :: t :=
    List.takeWhile_eq_self_iff.2 fun x hx => isDigitOf_of_isDecDigit (hd x hx) le_rfl
  simp [parseInt, hdrop, hsign, stripHexPrefix_of_hex hx, htake]

/-- `parseInt(part)` of an octet is its value. -/
theorem parseInt_octet {p : List Char} (h : isV4Seg p) :
    parseInt p 0 = some ((digitsValue 10 p : Nat) : Int) :=
  parseInt_dec (by rintro rfl; simp [isV4Seg] at h) (isV4Seg_spec h).1

/-- An IPv4 text is classified as the address it denotes. -/
theorem getNetwork_ipv4 {a : String} (ha : isIPv4 a) : getNetwork a = .ok (referenceNetwork a) := by
  obtain ⟨p1, p2, p3, p4, hs, h1, h2, -, -⟩ := isV4Str_spec ha
  have ha' : isIPv4 a = true := ha
  simp only [getNetwork, isLocal, isPrivate, referenceNetwork, ha', if_true, parsePart, hs,
    List.getD_cons_zero, List.getD_cons_succ, parseInt_octet h1, parseInt_octet h2, List.map_cons,
    Except.map, Option.map_some', Option.getD_some, Except.ok.injEq, Option.some.injEq,
    Bool.or_eq_true, Bool.and_eq_true, decide_eq_true_eq]
  split_ifs <;> first | rfl | (exfalso; omega)

/-- The byte of an octet. -/
theorem writeUInt8_octet {p : List Char} (h : isV4Seg p) :
    writeUInt8 (parseInt p 0) = .ok (UInt8.ofNat (digitsValue 10 p)) := by
  have hle : digitsValue 10 p ≤ 255 := by
    simp only [isV4Seg, Bool.and_eq_true, decide_eq_true_eq] at h; exact h.2
  simp only [writeUInt8, parseInt_octet h]
  rw [if_pos (by omega)]
  rfl

/-- The bytes of an IPv4 text are its four octets. -/
theorem getIPV4Bytes_ipv4 {a : String} (ha : isIPv4 a) :
    getIPV4Bytes a = .ok (((split '.' a.data).map (digitsValue 10)).map UInt8.ofNat) := by
  obtain ⟨p1, p2, p3, p4, hs, h1, h2, h3, h4⟩ := isV4Str_spec ha
  rw [getIPV4Bytes, hs]
  simp only [List.mapM_cons, List.mapM_nil, writeUInt8_octet h1, writeUInt8_octet h2,
    writeUInt8_octet h3, writeUInt8_octet h4, List.map_cons, List.map_nil]
  rfl

/-- An IPv4 address is local, private or public. -/
theorem referenceNetwork_ipv4 {a : String} (ha : isIPv4 a) :
    referenceNetwork a = .netLocal ∨ referenceNetwork a = .netPrivate ∨
      referenceNetwork a = .netIPv4 := by
  unfold referenceNetwork
  rw [if_pos ha]
  split
  · split_ifs <;> simp
  · simp

/-- On an IPv4 text the message hashed is that of the reference encoding. -/
theorem bucketMessage_ipv4 {a : String} (ha : isIPv4 a) {secret : Nat} (hs : secret < 2 ^ 32)
    (peerType : PeerType) (bucketCount : Nat) :
    bucketMessage ⟨secret, a, peerType, bucketCount⟩ = .ok (referenceMessage secret a) := by
  simp only [bucketMessage, writeUInt32BE_of_lt hs, getNetwork_ipv4 ha, referenceMessage]
  rcases referenceNetwork_ipv4 ha with h | h | h <;>
    simp [h, bind, Except.bind, pure, Except.pure, getIPV4Bytes_ipv4 ha]

/-- For every IPv4 address and every 32-bit secret, whatever the hash, `getBucketId` is the
bucket of the reference encoding: the class of the address, then its four octets unless it is
local or private. -/
theorem getBucketId_ipv4 (hash : Bytes → Bytes) {a : String} (ha : isIPv4 a) {secret : Nat}
    (hs : secret < 2 ^ 32) (peerType : PeerType) (bucketCount : Nat) :
    getBucketId hash ⟨secret, a, peerType, bucketCount⟩ =
      bucketOf hash (referenceMessage secret a) bucketCount := by
  rw [getBucketId_eq, bucketMessage_ipv4 ha hs]
  rfl

/-- A private IPv4 address: its bucket is that of the secret and the class alone. -/
theorem getBucketId_ipv4_private :
    isIPv4 "10.1.2.3" ∧ 7 < 2 ^ 32 ∧
      getBucketId id ⟨7, "10.1.2.3", .triedPeer, 5⟩ =
        bucketOf id (referenceMessage 7 "10.1.2.3") 5 :=
  ⟨by decide, by decide, getBucketId_ipv4 id (by decide) (by decide) .triedPeer 5⟩

end Lp2p.Address
