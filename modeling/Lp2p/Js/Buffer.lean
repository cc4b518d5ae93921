import Lp2p.Js.String

/-!
# Node's `Buffer`, as the address utilities use it

`getBucketId` and the two byte encoders of `src/unnamed/part_000:221–271` build the input of
the hash from Node buffers: `Buffer.alloc`, `writeUInt32BE`, `writeUInt8`,
`Buffer.from(text, 'hex')`, `Buffer.concat` and `readUInt32BE`. `Buffer` is not under src/; the
model follows Node's `lib/buffer.js` and its hex decoder. A buffer is its list of bytes; a write
of a value out of range throws a `RangeError`; hex text is decoded two digits at a time up to
the first pair that is not two hexadecimal digits, and a last odd digit is dropped.
-/

namespace Lp2p.Js

/-- The bytes of a buffer. -/
abbrev Bytes := List UInt8

/-- Node's `ERR_OUT_OF_RANGE` for a write of `value` into `0..max`. -/
def outOfRange (max : String) (value : Int) : JsError :=
  .error "RangeError"
    ("The value of \"value\" is out of range. It must be >= 0 and <= " ++ max ++ ". Received " ++
      toString value)

/-- The value of a hexadecimal digit. -/
def unhex (c : Char) : Option Nat := if isDigitOf 16 c then digitValue c else none

/-- `Buffer.from(text, 'hex')`: the pairs of hexadecimal digits, up to the first pair that is
not one. -/
def hexToBytes : List Char → Bytes
  | a :: b :: rest =>
    match unhex a, unhex b with
    | some x, some y => UInt8.ofNat (x * 16 + y) :: hexToBytes rest
    | _, _ => []
  | _ => []

/-- `buf.writeUInt8(value)` on a one-byte buffer, the byte it leaves: a value outside `0..255`
throws, and `NaN` writes `0`. -/
def writeUInt8 (value : Option Int) : Except JsError UInt8 :=
  match value with
  | none => .ok 0
  | some v =>
    if 0 ≤ v ∧ v ≤ 255 then .ok (UInt8.ofNat v.toNat) else .error (outOfRange "255" v)

/-- The four bytes of a number below `2 ^ 32`, most significant first. -/
def bytesBE32 (value : Nat) : Bytes :=
  [UInt8.ofNat (value / 2 ^ 24), UInt8.ofNat (value / 2 ^ 16), UInt8.ofNat (value / 2 ^ 8),
    UInt8.ofNat value]

/-- `buf.writeUInt32BE(value, 0)` on a four-byte buffer, the bytes it leaves. -/
def writeUInt32BE (value : Nat) : Except JsError Bytes :=
  if value < 2 ^ 32 then .ok (bytesBE32 value) else .error (outOfRange "4294967295" value)

/-- `buf.readUInt32BE(0)`: the first four bytes, most significant first; a shorter buffer
throws `ERR_BUFFER_OUT_OF_BOUNDS`. -/
def readUInt32BE : Bytes → Except JsError Nat
  | a :: b :: c :: d :: _ =>
    .ok (a.toNat * 2 ^ 24 + b.toNat * 2 ^ 16 + c.toNat * 2 ^ 8 + d.toNat)
  | _ => .error (.error "RangeError" "Attempt to access memory outside buffer bounds")

/-! ## Laws -/

/-- `UInt8.ofNat` keeps the value modulo 256. -/
@[simp] theorem uint8_toNat_ofNat (n : Nat) : (UInt8.ofNat n).toNat = n % 256 := rfl

/-- Reading back the bytes of a 32-bit number gives the number. -/
theorem readUInt32BE_bytesBE32 {value : Nat} (h : value < 2 ^ 32) (rest : Bytes) :
    readUInt32BE (bytesBE32 value ++ rest) = .ok value := by
  simp only [bytesBE32, List.cons_append, List.nil_append, readUInt32BE, uint8_toNat_ofNat,
    Except.ok.injEq]
  omega

/-- A 32-bit number is written in four bytes. -/
@[simp] theorem length_bytesBE32 (value : Nat) : (bytesBE32 value).length = 4 := rfl

/-- A value below `2 ^ 32` is written. -/
theorem writeUInt32BE_of_lt {value : Nat} (h : value < 2 ^ 32) :
    writeUInt32BE value = .ok (bytesBE32 value) := if_pos h

/-- The value of a hexadecimal digit is below sixteen. -/
theorem unhex_lt {c : Char} {x : Nat} (h : unhex c = some x) : x < 16 := by
  unfold unhex isDigitOf at h
  split at h
  · next hd =>
    revert hd
    split
    · next d hv => rw [hv] at h; cases h; simp
    · simp
  · cases h

/-- Decoding two hexadecimal digits more gives one byte more. -/
theorem hexToBytes_cons_cons {a b : Char} {x y : Nat} (ha : unhex a = some x)
    (hb : unhex b = some y) (rest : List Char) :
    hexToBytes (a :: b :: rest) = UInt8.ofNat (x * 16 + y) :: hexToBytes rest := by
  simp only [hexToBytes, ha, hb]

end Lp2p.Js
