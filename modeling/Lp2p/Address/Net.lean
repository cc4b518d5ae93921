import Lp2p.Js.String

/-!
# Node's `net.isIPv4` and `net.isIPv6`

The address utilities (`src/unnamed/part_000:94`) take `isIPv4` and `isIPv6` from Node's `net`
module, which tests `IPv4Reg` and `IPv6Reg` of `lib/internal/net.js`. `IPv6Reg` has one
alternative per count of groups before the `::`; written as a grammar over the groups on
either side of the one `::`, it accepts eight groups, or six and a dotted quad, without
compression, and with compression at most seven groups, a final dotted quad counting for two.
A zone index `%…` of letters, digits, `-`, `.` and `:` may follow.

`ipv6Value` is the RFC 4291 meaning of such a text, eight 16-bit groups; the code never
computes it, and the theorems compare the code's peer identifiers against it.
-/

namespace Lp2p.Address

open Lp2p.Js

/-- Decimal digit. -/
def isDecDigit (c : Char) : Bool := '0' ≤ c && c ≤ '9'

/-- Hexadecimal digit of either case. -/
def isHexDigit (c : Char) : Bool := isDigitOf 16 c

/-- `v4Seg`: a decimal octet from 0 to 255 without a leading zero. -/
def isV4Seg (s : List Char) : Bool :=
  s ≠ [] && s.length ≤ 3 && s.all isDecDigit && (s.length = 1 || s.head? ≠ some '0') &&
    digitsValue 10 s ≤ 255

/-- `v4Str`: four octets separated by dots. -/
def isV4Str (s : List Char) : Bool :=
  match split '.' s with
  | [a, b, c, d] => isV4Seg a && isV4Seg b && isV4Seg c && isV4Seg d
  | _ => false

/-- `v6Seg`: one to four hexadecimal digits. -/
def isV6Seg (s : List Char) : Bool := s ≠ [] && s.length ≤ 4 && s.all isHexDigit

/-- The width in 16-bit groups of a colon-separated run of groups whose last member may be
a dotted quad; `none` when a member is neither. -/
def groupsWidth : List (List Char) → Option Nat
  | [] => some 0
  | [g] => if isV6Seg g then some 1 else if isV4Str g then some 2 else none
  | g :: gs => if isV6Seg g then (groupsWidth gs).map (· + 1) else none

/-- The text on either side of the first `::`, if there is one. -/
def splitAtDoubleColon : List Char → Option (List Char × List Char)
  | ':' :: ':' :: rest => some ([], rest)
  | c :: rest => (splitAtDoubleColon rest).map fun (l, r) => (c :: l, r)
  | [] => none

/-- Width of the groups before a `::`, which has no dotted quad. -/
def leftWidth (l : List Char) : Option Nat :=
  if l = [] then some 0
  else if (split ':' l).all isV6Seg then some (split ':' l).length else none

/-- Width of the groups after a `::`. -/
def rightWidth (r : List Char) : Option Nat :=
  if r = [] then some 0 else groupsWidth (split ':' r)

/-- The address part of `IPv6Reg`, before any zone index. -/
def isIPv6Address (a : List Char) : Bool :=
  match splitAtDoubleColon a with
  | some (l, r) =>
    match leftWidth l, rightWidth r with
    | some x, some y => x + y ≤ 7
    | _, _ => false
  | none => groupsWidth (split ':' a) = some 8

/-- A character of a zone index, `[0-9a-zA-Z-.:]`. -/
def isZoneChar (c : Char) : Bool := isDigitOf 36 c || c = '-' || c = '.' || c = ':'

/-- `net.isIPv4`. -/
def isIPv4 (s : String) : Bool := isV4Str s.data

/-- `net.isIPv6`: the address part, then an optional non-empty zone index. -/
def isIPv6 (s : String) : Bool :=
  match s.data.span (· ≠ '%') with
  | (a, []) => isIPv6Address a
  | (a, _ :: zone) => isIPv6Address a && zone ≠ [] && zone.all isZoneChar

/-- `net.isIP`: 4, 6, or 0 for a string that is neither. -/
def isIP (s : String) : Nat := if isIPv4 s then 4 else if isIPv6 s then 6 else 0

/-! ## The meaning of an address text -/

/-- The 16-bit groups a run denotes, a final dotted quad standing for two. -/
def groupsValue : List (List Char) → List Nat
  | [] => []
  | [g] =>
    if isV4Str g then
      match (split '.' g).map (digitsValue 10) with
      | [a, b, c, d] => [a * 256 + b, c * 256 + d]
      | _ => []
    else [digitsValue 16 g]
  | g :: gs => digitsValue 16 g :: groupsValue gs

/-- RFC 4291 §2.2: the eight groups an IPv6 address text without zone index denotes, the
`::` standing for as many zero groups as are missing. -/
def ipv6Value (a : List Char) : Option (List Nat) :=
  if isIPv6Address a then
    match splitAtDoubleColon a with
    | some (l, r) =>
      let left := if l = [] then [] else groupsValue (split ':' l)
      let right := if r = [] then [] else groupsValue (split ':' r)
      some (left ++ List.replicate (8 - left.length - right.length) 0 ++ right)
    | none => some (groupsValue (split ':' a))
  else none

end Lp2p.Address
