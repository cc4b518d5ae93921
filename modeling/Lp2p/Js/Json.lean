import Mathlib.Data.Rat.Defs
import Lp2p.Js.Map
import Lp2p.Js.String

/-!
# Decoded JSON values

The peer infos that `validatePeerInfo` and `validatePeersInfoList` check
(`src/unnamed/part_001:30–144`) arrive decoded from JSON. Of a value, the checks read its
truthiness, `String(value)`, its type as validator's `assertString` names it, `+value` on a
numeral, and `JSON.stringify` of the whole entry, whose UTF-8 length `Buffer.byteLength` gives.
A number is kept as the text `Number.prototype.toString` prints for it, which `JSON.stringify`
also writes and `+` reads back. An array or an object inside an entry keeps only its
`JSON.stringify` text and its `String` text.
-/

namespace Lp2p.Js

/-- A value inside a decoded peer info. -/
inductive JsonValue
  | null
  | bool (b : Bool)
  | number (text : String)
  | string (s : String)
  | array (json text : String)
  | object (json text : String)
  deriving DecidableEq, Repr

namespace JsonValue

/-- Truthiness: `null`, `false`, `0` and `''` are falsy; `toString` prints every zero as `0`. -/
def truthy : JsonValue → Bool
  | .null => false
  | .bool b => b
  | .number text => text ≠ "0"
  | .string s => s ≠ ""
  | .array .. | .object .. => true

/-- `String(value)`: `value.toString()` on a value other than `null`, and what a template
literal prints. -/
def text : JsonValue → String
  | .null => "null"
  | .bool b => toString b
  | .number text => text
  | .string s => s
  | .array _ text | .object _ text => text

/-- `typeof value`, with the constructor's name for an object, as validator's `assertString`
reports it. -/
def typeName : JsonValue → String
  | .null => "null"
  | .bool _ => "boolean"
  | .number .. => "number"
  | .string _ => "string"
  | .array .. => "Array"
  | .object .. => "Object"

end JsonValue

/-- A template literal's `${value}` of a field that may be `undefined`. -/
def templateText : Option JsonValue → String
  | some v => v.text
  | none => "undefined"

/-- `JSON.stringify` of one character of a string: `"` and `\` escaped, the control characters
as `\b`, `\t`, `\n`, `\f`, `\r` or `\u00xx` in lower-case hexadecimal. -/
def escapeChar (c : Char) : List Char :=
  if c = '\x22' then ['\x5c', '\x22']
  else if c = '\x5c' then ['\x5c', '\x5c']
  else if c.toNat = 8 then ['\x5c', 'b']
  else if c.toNat = 9 then ['\x5c', 't']
  else if c.toNat = 10 then ['\x5c', 'n']
  else if c.toNat = 12 then ['\x5c', 'f']
  else if c.toNat = 13 then ['\x5c', 'r']
  else if c.toNat < 32 then
    ['\x5c', 'u', '0', '0', Nat.digitChar (c.toNat / 16), Nat.digitChar (c.toNat % 16)]
  else [c]

/-- `JSON.stringify(s)` of a string. -/
def quote (s : String) : String := String.mk ('\x22' :: s.data.flatMap escapeChar ++ ['\x22'])

/-- `JSON.stringify(value)`. -/
def JsonValue.json : JsonValue → String
  | .null => "null"
  | .bool b => toString b
  | .number text => text
  | .string s => quote s
  | .array json _ | .object json _ => json

/-- An entry of a peer list, decoded: an object, its keys in order, or a value that is not an
object. -/
inductive RawValue
  | object (fields : JsMap String JsonValue)
  | other (v : JsonValue)
  deriving DecidableEq

namespace RawValue

/-- `raw.key`: a field of an object; no other value has a field the validation reads. -/
def get? : RawValue → String → Option JsonValue
  | .object fields, key => fields.get? key
  | .other _, _ => none

/-- Truthiness: an object is truthy. -/
def truthy : RawValue → Bool
  | .object _ => true
  | .other v => v.truthy

/-- `JSON.stringify(raw)`: an object as its members in order. -/
def json : RawValue → String
  | .object fields =>
    "\x7b" ++
      String.intercalate "," (fields.entries.map fun (k, v) => quote k ++ ":" ++ v.json) ++
      "\x7d"
  | .other v => v.json

end RawValue

/-- The value of a decimal numeral `[+-]?[0-9]*([.][0-9]+)?`, as `Number(text)` reads it. -/
def decimalValue (text : List Char) : ℚ :=
  let (sign, body) := parseSign text
  let (whole, fraction) := body.span (· ≠ '.')
  (sign : ℚ) * ((digitsValue 10 whole : ℚ) + (digitsValue 10 (fraction.drop 1) : ℚ) /
    10 ^ (fraction.drop 1).length)

end Lp2p.Js
