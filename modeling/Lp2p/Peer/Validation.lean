import Mathlib.Data.Rat.Floor
import Lp2p.Address.Net
import Lp2p.Errors
import Lp2p.Js.Array
import Lp2p.Js.Json

/-!
# Validating peer infos

`validatePeerInfoSchema`, `validatePeerInfo` and `validatePeersInfoList` of
`src/unnamed/part_001:30–144`, with the three predicates of validator and the one of semver they
call, at the versions `src/unnamed/part_004` pins: validator 10.11.0 and semver 5.6.0. There
`isIP` is `ipv4Maybe` with each number at most 255, leading zeros allowed, or the block-by-block
check of IPv6 with an IPv4 tail; `isPort` is `isInt` between 0 and 65535, leading zeros allowed;
and semver's `valid` bounds the length by 256 and matches its `FULL` expression against the text
as it stands, with numbers up to `MAX_SAFE_INTEGER`.

The record returned is a `JsMap` from keys to values: the object spread `{ ...a, key: v }` sets
a key in place or appends it, as a map does, and the rest pattern `{ key, ...rest }` erases the
key. A number the validation computes with `+` is kept as the numeral it reads: `+value` is
computed only after `isPort` or `isNumeric` accepted the text of the value.
-/

namespace Lp2p

open Lp2p.Js

/-! ## validator 10.11.0 and semver 5.6.0 -/

namespace Validator

/-- The type `assertString` names in its error: `null`, an object's constructor name, or `a`
and the `typeof` of any other value. -/
def invalidType : JsonValue → String
  | .null => "null"
  | .array .. => "Array"
  | .object .. => "Object"
  | v => "a " ++ v.typeName

/-- `assertString`, `lib/util/assertString.js`. -/
def assertString (input : JsonValue) : Except JsError String :=
  match input with
  | .string s => .ok s
  | v => .error (.error "TypeError" ("Expected string but received " ++ invalidType v ++ "."))

/-- `isIP(str, 4)`: `ipv4Maybe`, `^(\d{1,3})\.(\d{1,3})\.(\d{1,3})\.(\d{1,3})$`, and the
largest of the four numbers at most 255, as `parts.sort((a, b) => a - b)[3] <= 255` reads it. -/
def isIPv4 (s : List Char) : Bool :=
  match split '.' s with
  | [a, b, c, d] => [a, b, c, d].all fun part =>
    part ≠ [] && part.length ≤ 3 && part.all Address.isDecDigit && digitsValue 10 part ≤ 255
  | _ => false

/-- `ipv6Block`, `^[0-9A-F]{1,4}$` without case. -/
def isIPv6Block (block : List Char) : Bool :=
  block ≠ [] && block.length ≤ 4 && block.all Address.isHexDigit

/-- The loop of `isIP(str, 6)` over the `n` blocks from index `i`: an empty block inside marks
`::`, a second one fails; the IPv4 tail is skipped; every other block is an `ipv6Block`. The
result is whether a `::` was found, or `none` when the loop returns `false`. -/
def blocksPass (tail : Bool) (n : Nat) : Nat → Bool → List (List Char) → Option Bool
  | _, omission, [] => some omission
  | i, omission, block :: rest =>
    if block = [] ∧ 0 < i ∧ i < n - 1 then
      if omission then none else blocksPass tail n (i + 1) true rest
    else if tail ∧ i = n - 1 then blocksPass tail n (i + 1) omission rest
    else if isIPv6Block block then blocksPass tail n (i + 1) omission rest
    else none

/-- `isIP(str, 6)`: at most 8 blocks, 7 with an IPv4 tail; `::` alone; a leading or trailing
`::` drops two empty blocks; then the loop, and the count of blocks. -/
def isIPv6 (str : List Char) : Bool :=
  let blocks := split ':' str
  let tail := isIPv4 (blocks.getLastD [])
  let expected := if tail then 7 else 8
  if expected < blocks.length then false
  else if str = [':', ':'] then true
  else
    let (blocks, omission) :=
      if str.take 2 = [':', ':'] then (blocks.drop 2, true)
      else if str.drop (str.length - 2) = [':', ':'] then (blocks.dropLast.dropLast, true)
      else (blocks, false)
    match blocksPass tail blocks.length 0 omission blocks with
    | none => false
    | some true => 1 ≤ blocks.length
    | some false => blocks.length = expected

/-- `isIP(str)` on a string: `isIP(str, 4) || isIP(str, 6)`. -/
def isIPString (s : String) : Bool := isIPv4 s.data || isIPv6 s.data

/-- `isIP(str)`, `lib/isIP.js`: a value that is not a string throws. -/
def isIP (str : JsonValue) : Except JsError Bool := (assertString str).map isIPString

/-- `isPort(str)`, `isInt(str, { min: 0, max: 65535 })`: `intLeadingZeroes`, `^[-+]?[0-9]+$`,
and the value, compared as a number, from 0 to 65535. -/
def isPort (str : String) : Bool :=
  let (sign, digits) := parseSign str.data
  (digits ≠ [] && digits.all Address.isDecDigit) &&
    decide (0 ≤ sign * digitsValue 10 digits) && decide (sign * digitsValue 10 digits ≤ 65535)

/-- `isNumeric(str)`: `^[+-]?([0-9]*[.])?[0-9]+$`. -/
def isNumeric (str : String) : Bool :=
  match split '.' (parseSign str.data).2 with
  | [digits] => digits ≠ [] && digits.all Address.isDecDigit
  | [whole, fraction] =>
    whole.all Address.isDecDigit && fraction ≠ [] && fraction.all Address.isDecDigit
  | _ => false

end Validator

namespace Semver

/-- `NUMERICIDENTIFIER`, `0|[1-9]\d*`. -/
def isNumericIdentifier (p : List Char) : Bool :=
  p = ['0'] || (p ≠ [] && p.head? ≠ some '0' && p.all Address.isDecDigit)

/-- A character of `[a-zA-Z0-9-]`. -/
def isIdentifierChar (c : Char) : Bool := isDigitOf 36 c || c = '-'

/-- `PRERELEASEIDENTIFIER`, `NUMERICIDENTIFIER|\d*[a-zA-Z-][a-zA-Z0-9-]*`. -/
def isPrereleaseIdentifier (p : List Char) : Bool :=
  isNumericIdentifier p ||
    (p.all isIdentifierChar && p.any fun c => !Address.isDecDigit c)

/-- `BUILDIDENTIFIER`, `[0-9A-Za-z-]+`. -/
def isBuildIdentifier (p : List Char) : Bool := p ≠ [] && p.all isIdentifierChar

/-- `MAX_SAFE_INTEGER`. -/
def maxSafeInteger : Nat := 2 ^ 53 - 1

/-- `^v?MAINVERSION(-PRERELEASE)?(\+BUILD)?$` (`FULL`), with each of the three numbers at most
`MAX_SAFE_INTEGER`, as the constructor checks. -/
def isFull (version : List Char) : Bool :=
  let body := if version.head? = some 'v' then version.tail else version
  let (main, build) := body.span (· ≠ '+')
  let (mainVersion, prerelease) := main.span (· ≠ '-')
  (match split '.' mainVersion with
    | [major, minor, patch] =>
      [major, minor, patch].all fun n => isNumericIdentifier n && digitsValue 10 n ≤ maxSafeInteger
    | _ => false) &&
    (prerelease = [] || (split '.' (prerelease.drop 1)).all isPrereleaseIdentifier) &&
    (build = [] || (split '.' (build.drop 1)).all isBuildIdentifier)

/-- The length of a text in UTF-16 code units. -/
def utf16Length : List Char → Nat
  | [] => 0
  | c :: rest => (if c.toNat < 0x10000 then 1 else 2) + utf16Length rest

end Semver

/-- semver's `valid(version)`, `parse` of `semver.js`: truthy exactly on a string of at most
256 code units that `FULL` matches as it stands. -/
def isValidVersion : JsonValue → Bool
  | .string s => Semver.utf16Length s.data ≤ 256 && Semver.isFull s.data
  | _ => false

/-! ## The checks -/

/-- `getByteSize`, `src/unnamed/part_001:30–31`: the UTF-8 length of the JSON text. -/
def getByteSize (object : RawValue) : Nat := object.json.utf8ByteSize

/-- `validatePeerAddress`, `src/unnamed/part_001:33–42`. -/
def validatePeerAddress (ip wsPort : JsonValue) : Except JsError Bool :=
  (Validator.isIP ip).map fun ipValid => ipValid && Validator.isPort wsPort.text

/-- A field of the record the validation returns: a value of the raw peer info, a number it
computes, as the numeral it reads, or `undefined`. -/
inductive FieldValue
  | raw (v : JsonValue)
  | number (numeral : String)
  | undefined
  deriving DecidableEq, Repr

/-- The record a peer info is validated into. -/
abbrev ProtocolPeerInfo := JsMap String FieldValue

/-- `protocolPeer.height && isNumeric(protocolPeer.height.toString()) ? +protocolPeer.height : 0`,
`src/unnamed/part_001:87–90`, as a numeral. -/
def heightOf : Option JsonValue → String
  | some height => if height.truthy && Validator.isNumeric height.text then height.text else "0"
  | none => "0"

/-- `protocolPeer.os ? protocolPeer.os : ''`. -/
def osOf : Option JsonValue → JsonValue
  | some os => if os.truthy then os else .string ""
  | none => .string ""

/-- The record of `src/unnamed/part_001:83–109`: the fields without `options`, then
`ipAddress`, `wsPort`, `height`, `os`, `version` and `protocolVersion` set, then `ip`
removed. -/
def protocolPeerInfo (protocolPeer : JsMap String JsonValue) (ip wsPort version : JsonValue) :
    ProtocolPeerInfo :=
  let protocolVersion : FieldValue :=
    match protocolPeer.get? "protocolVersion" with
    | some v => .raw v
    | none => .undefined
  let protocolPeerWithoutOptions := (protocolPeer.erase "options").mapValues .raw
  let peerInfo := protocolPeerWithoutOptions
    |>.set "ipAddress" (.raw ip)
    |>.set "wsPort" (.number wsPort.text)
    |>.set "height" (.number (heightOf (protocolPeer.get? "height")))
    |>.set "os" (.raw (osOf (protocolPeer.get? "os")))
    |>.set "version" (.raw version)
    |>.set "protocolVersion" protocolVersion
  peerInfo.erase "ip"

/-- The error for a missing or invalid address, `src/unnamed/part_001:72–76`. -/
def ipOrPortError (ip wsPort : Option JsonValue) : JsError :=
  invalidPeerError ("Invalid peer ip or port for peer with ip: " ++ templateText ip ++
    " and wsPort " ++ templateText wsPort)

/-- The error for a missing or invalid version, `src/unnamed/part_001:79–83`. -/
def versionError (ip wsPort version : Option JsonValue) : JsError :=
  invalidPeerError ("Invalid peer version for peer with ip: " ++ templateText ip ++
    ", wsPort " ++ templateText wsPort ++ " and version " ++ templateText version)

/-- `!protocolPeer.ip || !protocolPeer.wsPort || !validatePeerAddress(ip, wsPort)`, negated. -/
def addressValid : Option JsonValue → Option JsonValue → Except JsError Bool
  | some ip, some wsPort =>
    if ip.truthy && wsPort.truthy then validatePeerAddress ip wsPort else .ok false
  | _, _ => .ok false

/-- `validatePeerInfoSchema`, `src/unnamed/part_001:62–110`. -/
def validatePeerInfoSchema : RawValue → Except JsError ProtocolPeerInfo
  | .other v =>
    if v.truthy then .error (ipOrPortError none none)
    else .error (invalidPeerError "Invalid peer object")
  | .object protocolPeer =>
    let ip := protocolPeer.get? "ip"
    let wsPort := protocolPeer.get? "wsPort"
    let version := protocolPeer.get? "version"
    match addressValid ip wsPort with
    | .error e => .error e
    | .ok false => .error (ipOrPortError ip wsPort)
    | .ok true =>
      match ip, wsPort, version with
      | some ipValue, some wsPortValue, some versionValue =>
        if versionValue.truthy && isValidVersion versionValue then
          .ok (protocolPeerInfo protocolPeer ipValue wsPortValue versionValue)
        else .error (versionError ip wsPort version)
      | _, _, _ => .error (versionError ip wsPort version)

/-- `validatePeerInfo`, `src/unnamed/part_001:112–121`. -/
def validatePeerInfo (rawPeerInfo : RawValue) (maxByteSize : Nat) :
    Except JsError ProtocolPeerInfo :=
  if maxByteSize < getByteSize rawPeerInfo then
    .error (invalidRPCResponseError
      ("PeerInfo was larger than the maximum allowed " ++ toString maxByteSize ++ " bytes"))
  else validatePeerInfoSchema rawPeerInfo

/-- `validatePeersInfoList`, `src/unnamed/part_001:123–144`. The response is read as the array
in its `peers` field, `none` when the response is falsy or its `peers` is not an array. -/
def validatePeersInfoList (peers : Option (List RawValue))
    (maxPeerInfoListLength maxPeerInfoByteSize : Nat) :
    Except JsError (List ProtocolPeerInfo) :=
  match peers with
  | none => .error (invalidRPCResponseError "Invalid response type")
  | some peers =>
    if maxPeerInfoListLength < peers.length then
      .error (invalidRPCResponseError "PeerInfo list was too long")
    else
      let cleanPeerList := peers.filter fun peerInfo => getByteSize peerInfo < maxPeerInfoByteSize
      cleanPeerList.mapM validatePeerInfoSchema

/-! ## What a validated record holds -/

section Record

variable (protocolPeer : JsMap String JsonValue) (ip wsPort version : JsonValue)

/-- The fields of the record that the checks set, and the two keys it drops. -/
theorem protocolPeerInfo_fields :
    (protocolPeerInfo protocolPeer ip wsPort version).get? "ipAddress" = some (.raw ip) ∧
      (protocolPeerInfo protocolPeer ip wsPort version).get? "wsPort" =
        some (.number wsPort.text) ∧
      (protocolPeerInfo protocolPeer ip wsPort version).get? "height" =
        some (.number (heightOf (protocolPeer.get? "height"))) ∧
      (protocolPeerInfo protocolPeer ip wsPort version).get? "version" = some (.raw version) ∧
      (protocolPeerInfo protocolPeer ip wsPort version).has "ip" = false ∧
      (protocolPeerInfo protocolPeer ip wsPort version).has "options" = false := by
  simp [protocolPeerInfo, JsMap.has_eq_isSome]

end Record

/-- `assertString` returns exactly on a string. -/
theorem assertString_ok {v : JsonValue} {s : String} (h : Validator.assertString v = .ok s) :
    v = .string s := by
  cases v <;> simp only [Validator.assertString, reduceCtorEq, Except.ok.injEq] at h
  rw [h]

/-- An address check that passes reads a string `ip` that `isIP` accepts and a `wsPort` whose
text `isPort` accepts. -/
theorem addressValid_true {ip wsPort : Option JsonValue} (h : addressValid ip wsPort = .ok true) :
    ∃ s w, ip = some (.string s) ∧ Validator.isIPString s ∧ wsPort = some w ∧
      Validator.isPort w.text := by
  match ip, wsPort, h with
  | some i, some w, h =>
    simp only [addressValid] at h
    split at h
    · cases hs : Validator.assertString i with
      | error e => simp [validatePeerAddress, Validator.isIP, hs, Except.map] at h
      | ok s =>
        simp only [validatePeerAddress, Validator.isIP, hs, Except.map, Except.ok.injEq,
          Bool.and_eq_true] at h
        exact ⟨s, w, by rw [assertString_ok hs], h.1, rfl, h.2⟩
    · cases h
  | none, _, h => cases h
  | some _, none, h => cases h

/-- What `validatePeerInfoSchema` returns: the record of an object whose `ip` is a string that
`isIP` accepts, whose `wsPort` text `isPort` accepts, and whose `version` is valid. -/
theorem validatePeerInfoSchema_ok {raw : RawValue} {p : ProtocolPeerInfo}
    (h : validatePeerInfoSchema raw = .ok p) :
    ∃ protocolPeer ip wsPort version, raw = .object protocolPeer ∧
      protocolPeer.get? "ip" = some (.string ip) ∧ Validator.isIPString ip ∧
      protocolPeer.get? "wsPort" = some wsPort ∧ Validator.isPort wsPort.text ∧
      protocolPeer.get? "version" = some version ∧ isValidVersion version ∧
      p = protocolPeerInfo protocolPeer (.string ip) wsPort version := by
  match raw, h with
  | .other v, h =>
    simp only [validatePeerInfoSchema] at h
    split at h <;> cases h
  | .object protocolPeer, h =>
    simp only [validatePeerInfoSchema] at h
    cases hv : addressValid (protocolPeer.get? "ip") (protocolPeer.get? "wsPort") with
    | error e => rw [hv] at h; cases h
    | ok valid =>
      cases valid
      · rw [hv] at h; cases h
      · obtain ⟨s, w, hs, hip, hw, hport⟩ := addressValid_true hv
        cases hver : protocolPeer.get? "version" with
        | none => rw [hv, hs, hw, hver] at h; cases h
        | some version =>
          rw [hv, hs, hw, hver] at h
          simp only at h
          split at h
          · next hvalid =>
            simp only [Except.ok.injEq] at h
            simp only [Bool.and_eq_true] at hvalid
            exact ⟨protocolPeer, s, w, version, rfl, hs, hip, hw, hport, hver, hvalid.2, h.symm⟩
          · cases h

/-- A numeral without a fraction is its sign times its digits. -/
theorem decimalValue_int {text : List Char} (h : '.' ∉ (parseSign text).2) :
    decimalValue text = (((parseSign text).1 * digitsValue 10 (parseSign text).2 : Int) : ℚ) := by
  rcases hp : parseSign text with ⟨sign, body⟩
  rw [hp] at h
  have hall : ∀ c ∈ body, decide (c ≠ '.') = true := fun c hc =>
    decide_eq_true fun hc' => h (hc' ▸ hc)
  have hs : body.span (· ≠ '.') = (body, []) := by
    rw [List.span_eq_take_drop, List.takeWhile_eq_self_iff.2 hall,
      List.dropWhile_eq_nil_iff.2 hall]
  simp only [decimalValue, hp, hs]
  simp [digitsValue]

/-- An accepted text of `isPort` is an integer from 0 to 65535. -/
theorem isPort_value {str : String} (h : Validator.isPort str) :
    ∃ port : Int, 0 ≤ port ∧ port ≤ 65535 ∧ decimalValue str.data = port := by
  rcases hp : parseSign str.data with ⟨sign, digits⟩
  simp only [Validator.isPort, hp, Bool.and_eq_true, decide_eq_true_eq, List.all_eq_true] at h
  obtain ⟨⟨⟨-, hd⟩, h0⟩, h1⟩ := h
  have hdot : '.' ∉ digits := fun hc => absurd (hd '.' hc) (by decide)
  exact ⟨_, h0, h1, by rw [decimalValue_int (by rw [hp]; exact hdot), hp]⟩

/-- What a record the validation returns holds, against the raw peer info it comes from. -/
structure Validated (raw : RawValue) (p : ProtocolPeerInfo) : Prop where
  ipAddress : ∃ ip, raw.get? "ip" = some (.string ip) ∧ Validator.isIPString ip ∧
    p.get? "ipAddress" = some (.raw (.string ip))
  wsPort : ∃ wsPort, raw.get? "wsPort" = some wsPort ∧
    p.get? "wsPort" = some (.number wsPort.text) ∧
    ∃ port : Int, 0 ≤ port ∧ port ≤ 65535 ∧ decimalValue wsPort.text.data = port
  height : p.get? "height" = some (.number (heightOf (raw.get? "height"))) ∧
    Validator.isNumeric (heightOf (raw.get? "height"))
  version : ∃ version, raw.get? "version" = some version ∧ isValidVersion version ∧
    p.get? "version" = some (.raw version)
  noIp : p.has "ip" = false
  noOptions : p.has "options" = false

/-- The height is a decimal numeral. -/
theorem isNumeric_heightOf (height : Option JsonValue) : Validator.isNumeric (heightOf height) := by
  unfold heightOf
  split
  · split
    · next h => simp only [Bool.and_eq_true] at h; exact h.2
    · decide
  · decide

/-- Every record `validatePeerInfoSchema` returns holds what `Validated` says. -/
theorem validatePeerInfoSchema_validated {raw : RawValue} {p : ProtocolPeerInfo}
    (h : validatePeerInfoSchema raw = .ok p) : Validated raw p := by
  obtain ⟨protocolPeer, ip, wsPort, version, rfl, hip, hisIP, hw, hport, hver, hvalid, rfl⟩ :=
    validatePeerInfoSchema_ok h
  obtain ⟨hi, hp, hh, hv, hnoip, hnoopt⟩ :=
    protocolPeerInfo_fields protocolPeer (.string ip) wsPort version
  exact ⟨⟨ip, hip, hisIP, hi⟩, ⟨wsPort, hw, hp, isPort_value hport⟩, ⟨hh, isNumeric_heightOf _⟩,
    ⟨version, hver, hvalid, hv⟩, hnoip, hnoopt⟩

/-- The records `validatePeerInfo` and `validatePeersInfoList` return: an address that
`isIP` accepts, a port from 0 to 65535, the height's numeral when it is truthy and numeric and
0 otherwise, a valid version, and no `ip` or `options` key. -/
theorem validated_records (m : Nat) :
    (∀ raw p, validatePeerInfo raw m = .ok p → Validated raw p) ∧
      ∀ peers maxPeerInfoListLength ps,
        validatePeersInfoList (some peers) maxPeerInfoListLength m = .ok ps →
          ∀ p ∈ ps, ∃ raw ∈ peers, Validated raw p := by
  refine ⟨fun raw p h => ?_, fun peers maxPeerInfoListLength ps h p hp => ?_⟩
  · unfold validatePeerInfo at h
    split at h
    · cases h
    · exact validatePeerInfoSchema_validated h
  · simp only [validatePeersInfoList] at h
    split at h
    · cases h
    · obtain ⟨raw, hraw, hv⟩ := mapM_ok_mem h p hp
      exact ⟨raw, List.mem_of_mem_filter hraw, validatePeerInfoSchema_validated hv⟩

/-- A record at the size bound, validated. -/
theorem validated_records_at_bound :
    ∃ p, validatePeerInfo (.object (JsMap.empty.set "ip" (.string "1.2.3.4")
      |>.set "wsPort" (.number "5000") |>.set "version" (.string "1.0.0"))) 48 = .ok p ∧
      Validated (.object (JsMap.empty.set "ip" (.string "1.2.3.4")
        |>.set "wsPort" (.number "5000") |>.set "version" (.string "1.0.0"))) p :=
  ⟨_, rfl, (validated_records 48).1 _ _ rfl⟩

/-- `wsPort` `'0'` passes `isPort`, whose bound is 0, and is a truthy string; `height` `'-5'`
passes `isNumeric`. The record has port 0 and height -5. -/
theorem validatePeerInfo_port_zero_negative_height :
    (validatePeerInfo (.object (JsMap.empty.set "ip" (.string "1.2.3.4")
      |>.set "wsPort" (.string "0") |>.set "version" (.string "1.0.0")
      |>.set "height" (.string "-5"))) 100).map (fun p => (p.get? "wsPort", p.get? "height")) =
        .ok (some (.number "0"), some (.number "-5")) ∧
      decimalValue "0".data = 0 ∧ decimalValue "-5".data = -5 := by
  refine ⟨by decide, ?_, ?_⟩
  · rw [decimalValue_int (by decide)]
    rfl
  · rw [decimalValue_int (by decide),
      show ((parseSign "-5".data).1 * digitsValue 10 (parseSign "-5".data).2 : Int) = -5 by decide]
    rfl

/-! ## The list -/

/-- `validatePeersInfoList` on a list that is not too long validates, as `validatePeerInfo`
does, exactly the entries whose size is below the bound, in order. -/
theorem validatePeersInfoList_eq (peers : List RawValue) {maxPeerInfoListLength : Nat}
    (h : peers.length ≤ maxPeerInfoListLength) (maxPeerInfoByteSize : Nat) :
    validatePeersInfoList (some peers) maxPeerInfoListLength maxPeerInfoByteSize =
      (peers.filter fun e => getByteSize e < maxPeerInfoByteSize).mapM
        fun e => validatePeerInfo e maxPeerInfoByteSize := by
  simp only [validatePeersInfoList, if_neg (Nat.not_lt.2 h)]
  refine mapM_congr fun e he => ?_
  have hs : getByteSize e < maxPeerInfoByteSize := by simpa using (List.mem_filter.1 he).2
  rw [validatePeerInfo, if_neg (by omega)]

/-- The list check at a concrete list. -/
example :
    [RawValue.other .null].length ≤ 1 ∧
      validatePeersInfoList (some [.other .null]) 1 10 =
        ([RawValue.other .null].filter fun e => getByteSize e < 10).mapM
          fun e => validatePeerInfo e 10 :=
  ⟨by decide, validatePeersInfoList_eq [.other .null] (by decide) 10⟩

/-- An entry whose JSON text is exactly as long as the bound passes `validatePeerInfo`, whose
limit is inclusive, and is dropped from the list, whose limit is strict. -/
theorem validatePeersInfoList_drops_entry_at_bound :
    getByteSize (.object (JsMap.empty.set "ip" (.string "1.2.3.4")
      |>.set "wsPort" (.number "5000") |>.set "version" (.string "1.0.0"))) = 48 ∧
      (∃ p, validatePeerInfo (.object (JsMap.empty.set "ip" (.string "1.2.3.4")
        |>.set "wsPort" (.number "5000") |>.set "version" (.string "1.0.0"))) 48 = .ok p) ∧
      validatePeersInfoList (some [.object (JsMap.empty.set "ip" (.string "1.2.3.4")
        |>.set "wsPort" (.number "5000") |>.set "version" (.string "1.0.0"))]) 1 48 = .ok [] :=
  ⟨by decide, ⟨_, rfl⟩, by decide⟩

end Lp2p
