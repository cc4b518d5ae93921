import Mathlib.Data.List.Basic
import Mathlib.Data.Nat.Digits

/-!
# JavaScript string and number operations

The ECMAScript built-ins that the address utilities of `src/unnamed/part_000` call: `split` and
`join` on one separator character, the global `replace(/::/g, …)` of `normalizeIPv6Address`,
`repeat`, `parseInt` and `Number.prototype.toString`. Strings are lists of characters.
Numbers read by `parseInt` are exact integers here, `NaN` is `none`; JavaScript rounds
integers beyond 2^53, which only a zone index of more than thirteen hex digits reaches.

The laws below are those the canonical form of an address rests on: `split` and `join` undo
each other on parts without the separator, and `parseInt` reads back what `toString` prints.
-/

namespace Lp2p.Js

/-- A JavaScript exception: the `name` of its class (`RangeError`, `Error`, or one of the
classes of `src/errors.js`) and its message. -/
inductive JsError
  | error (name : String) (message : String)
  deriving DecidableEq, Repr

/-- Results of calls that may throw are compared by value. -/
instance instDecidableEqExcept {ε α : Type} [DecidableEq ε] [DecidableEq α] :
    DecidableEq (Except ε α)
  | .error x, .error y => decidable_of_iff (x = y) (by simp)
  | .ok x, .ok y => decidable_of_iff (x = y) (by simp)
  | .error _, .ok _ => isFalse (by simp)
  | .ok _, .error _ => isFalse (by simp)

/-- `s.split(sep)` for a one-character separator: the empty string splits into `[""]`. -/
def split (sep : Char) : List Char → List (List Char)
  | [] => [[]]
  | c :: rest =>
    match split sep rest with
    | [] => [[c]]
    | part :: parts => if c = sep then [] :: part :: parts else (c :: part) :: parts

/-- `parts.join(sep)`. -/
def join (sep : Char) : List (List Char) → List Char
  | [] => []
  | [part] => part
  | part :: parts => part ++ sep :: join sep parts

/-- `s.replace(/::/g, replacement)`: every `::`, left to right and without overlap. -/
def replaceDoubleColons (replacement : List Char) : List Char → List Char
  | ':' :: ':' :: rest => replacement ++ replaceDoubleColons replacement rest
  | c :: rest => c :: replaceDoubleColons replacement rest
  | [] => []

/-- `s.repeat(count)`, which throws a `RangeError` on a negative count. -/
def «repeat» (s : List Char) (count : Int) : Except JsError (List Char) :=
  if count < 0 then .error (.error "RangeError" ("Invalid count value: " ++ toString count))
  else .ok ((List.replicate count.toNat s).flatten)

/-- `WhiteSpace` and `LineTerminator` code points, which `parseInt` skips at the start. -/
def isWhiteSpace (c : Char) : Bool :=
  c.toNat ∈ [0x09, 0x0A, 0x0B, 0x0C, 0x0D, 0x20, 0xA0, 0x1680, 0x2000, 0x2001, 0x2002,
    0x2003, 0x2004, 0x2005, 0x2006, 0x2007, 0x2008, 0x2009, 0x200A, 0x2028, 0x2029, 0x202F,
    0x205F, 0x3000, 0xFEFF]

/-- The value of `c` as a digit of any radix up to 36. -/
def digitValue (c : Char) : Option Nat :=
  if '0' ≤ c ∧ c ≤ '9' then some (c.toNat - '0'.toNat)
  else if 'a' ≤ c ∧ c ≤ 'z' then some (c.toNat - 'a'.toNat + 10)
  else if 'A' ≤ c ∧ c ≤ 'Z' then some (c.toNat - 'A'.toNat + 10)
  else none

/-- Whether `c` is a digit of `radix`. -/
def isDigitOf (radix : Nat) (c : Char) : Bool :=
  match digitValue c with
  | some d => d < radix
  | none => false

/-- The value of a run of digits of `radix`, most significant first. -/
def digitsValue (radix : Nat) (digits : List Char) : Nat :=
  digits.foldl (fun acc c => acc * radix + (digitValue c).getD 0) 0

/-- The sign and the digits that `parseInt` reads after the leading white space. -/
def parseSign : List Char → Int × List Char
  | '-' :: rest => (-1, rest)
  | '+' :: rest => (1, rest)
  | s => (1, s)

/-- The `0x` or `0X` prefix that `parseInt` removes when the radix is 16 or absent. -/
def stripHexPrefix : List Char → Option (List Char)
  | '0' :: 'x' :: rest => some rest
  | '0' :: 'X' :: rest => some rest
  | _ => none

/-- `parseInt(s, radix)` with `radix = 0` standing for an absent radix; `none` is `NaN`. -/
def parseInt (s : List Char) (radix : Nat) : Option Int :=
  let (sign, body) := parseSign (s.dropWhile isWhiteSpace)
  if radix ≠ 0 ∧ (radix < 2 ∨ 36 < radix) then none
  else
    let (r, digits) :=
      if radix = 0 ∨ radix = 16 then
        match stripHexPrefix body with
        | some rest => (16, rest)
        | none => (if radix = 0 then 10 else radix, body)
      else (radix, body)
    let run := digits.takeWhile (isDigitOf r)
    if run = [] then none else some (sign * digitsValue r run)

/-- `Number.prototype.toString(radix)` on an integer or `NaN`, in lower-case digits. -/
def numberToString (n : Option Int) (radix : Nat) : List Char :=
  match n with
  | none => "NaN".data
  | some (.ofNat k) => Nat.toDigits radix k
  | some (.negSucc k) => '-' :: Nat.toDigits radix (k + 1)


/-! ## Laws of `split` and `join` -/

/-- `split` returns at least one part. -/
theorem split_ne_nil (sep : Char) (l : List Char) : split sep l ≠ [] := by
  induction l with
  | nil => simp [split]
  | cons c rest ih =>
    simp only [split]
    split
    · simp
    · split <;> simp

/-- A character other than the separator extends the first part. -/
theorem split_cons_of_ne {sep c : Char} (h : c ≠ sep) {l part : List Char}
    {parts : List (List Char)} (hs : split sep l = part :: parts) :
    split sep (c :: l) = (c :: part) :: parts := by
  simp [split, hs, h]

/-- A text without the separator is one part. -/
theorem split_of_not_mem {sep : Char} {l : List Char} (h : sep ∉ l) : split sep l = [l] := by
  induction l with
  | nil => rfl
  | cons c rest ih =>
    simp only [List.mem_cons, not_or] at h
    exact split_cons_of_ne (Ne.symm h.1) (ih h.2)

/-- A prefix without the separator, then the separator, gives the first part. -/
theorem split_append_sep {sep : Char} {p : List Char} (hp : sep ∉ p) (rest : List Char) :
    split sep (p ++ sep :: rest) = p :: split sep rest := by
  induction p with
  | nil =>
    obtain ⟨q, qs, hq⟩ := List.exists_cons_of_ne_nil (split_ne_nil sep rest)
    simp [split, hq]
  | cons c p ih =>
    simp only [List.mem_cons, not_or] at hp
    obtain ⟨q, qs, hq⟩ := List.exists_cons_of_ne_nil (split_ne_nil sep rest)
    rw [List.cons_append, split_cons_of_ne (Ne.symm hp.1) (by rw [ih hp.2, hq]), hq]

/-- A separator at the front starts an empty part. -/
theorem split_sep_cons (sep : Char) (rest : List Char) :
    split sep (sep :: rest) = [] :: split sep rest := by
  obtain ⟨q, qs, hq⟩ := List.exists_cons_of_ne_nil (split_ne_nil sep rest)
  simp [split, hq]

/-- Splitting at one separator splits the text on either side of it. -/
theorem split_append_cons_sep (sep : Char) (p rest : List Char) :
    split sep (p ++ sep :: rest) = split sep p ++ split sep rest := by
  induction p with
  | nil => rw [List.nil_append, split_sep_cons]; rfl
  | cons c p ih =>
    obtain ⟨q, qs, hq⟩ := List.exists_cons_of_ne_nil (split_ne_nil sep p)
    by_cases hc : c = sep <;> simp [split, ih, hq, hc]

/-- `join` undoes `split`. -/
theorem join_split (sep : Char) (l : List Char) : join sep (split sep l) = l := by
  induction l with
  | nil => rfl
  | cons c rest ih =>
    obtain ⟨q, qs, hq⟩ := List.exists_cons_of_ne_nil (split_ne_nil sep rest)
    rw [hq] at ih
    by_cases hc : c = sep
    · subst hc
      simp only [split, hq, if_true]
      cases qs <;> simp_all [join]
    · rw [split_cons_of_ne hc hq]
      cases qs <;> simp_all [join]

/-- No part of a split holds the separator. -/
theorem not_mem_of_mem_split {sep : Char} {l part : List Char} (h : part ∈ split sep l) :
    sep ∉ part := by
  induction l generalizing part with
  | nil => simp [split] at h; simp [h]
  | cons c rest ih =>
    obtain ⟨q, qs, hq⟩ := List.exists_cons_of_ne_nil (split_ne_nil sep rest)
    by_cases hc : c = sep
    · subst hc
      simp only [split, hq, if_true, List.mem_cons] at h
      rcases h with rfl | h
      · simp
      · exact ih (by rw [hq]; exact List.mem_cons.2 h)
    · rw [split_cons_of_ne hc hq, List.mem_cons] at h
      rcases h with rfl | h
      · simp only [List.mem_cons, not_or]
        exact ⟨Ne.symm hc, ih (by rw [hq]; simp)⟩
      · exact ih (by rw [hq]; simp [h])

/-- Each part of a split is made of the text's characters. -/
theorem subset_of_mem_split {sep : Char} {l part : List Char} (h : part ∈ split sep l) :
    part ⊆ l := by
  induction l generalizing part with
  | nil => simp [split] at h; simp [h]
  | cons c rest ih =>
    obtain ⟨q, qs, hq⟩ := List.exists_cons_of_ne_nil (split_ne_nil sep rest)
    by_cases hc : c = sep
    · subst hc
      simp only [split, hq, if_true, List.mem_cons] at h
      rcases h with rfl | h
      · simp
      · exact fun x hx => List.mem_cons_of_mem _ (ih (by rw [hq]; exact List.mem_cons.2 h) hx)
    · rw [split_cons_of_ne hc hq, List.mem_cons] at h
      rcases h with rfl | h
      · exact List.cons_subset_cons c (ih (by rw [hq]; simp))
      · have hp : part ∈ split sep rest := by rw [hq]; exact List.mem_cons_of_mem q h
        exact fun x hx => List.mem_cons_of_mem _ (ih hp hx)

/-- No parts join to the empty text. -/
@[simp] theorem join_nil (sep : Char) : join sep [] = [] := rfl

/-- `join` of two or more parts puts the separator after the first. -/
theorem join_cons_cons (sep : Char) (p q : List Char) (qs : List (List Char)) :
    join sep (p :: q :: qs) = p ++ sep :: join sep (q :: qs) := rfl

/-- `split` undoes `join` on a non-empty list of parts without the separator. -/
theorem split_join (sep : Char) (parts : List (List Char)) (hne : parts ≠ [])
    (h : ∀ p ∈ parts, sep ∉ p) : split sep (join sep parts) = parts := by
  induction parts with
  | nil => exact absurd rfl hne
  | cons p ps ih =>
    cases ps with
    | nil => exact split_of_not_mem (h p (by simp))
    | cons q qs =>
      rw [join_cons_cons, split_append_sep (h p (by simp)),
        ih (List.cons_ne_nil q qs) fun x hx => h x (List.mem_cons_of_mem _ hx)]

/-- Two non-empty lists of parts join to their two texts and one separator between. -/
theorem join_append (sep : Char) (A B : List (List Char)) (hA : A ≠ []) (hB : B ≠ []) :
    join sep (A ++ B) = join sep A ++ sep :: join sep B := by
  induction A with
  | nil => exact absurd rfl hA
  | cons p ps ih =>
    cases ps with
    | nil => obtain ⟨q, qs, rfl⟩ := List.exists_cons_of_ne_nil hB; rfl
    | cons q qs => rw [List.cons_append, List.cons_append, join_cons_cons, ← List.cons_append,
        ih (List.cons_ne_nil q qs), join_cons_cons]; simp

/-- `m` empty parts join to `m - 1` separators. -/
theorem join_replicate_nil (sep : Char) (m : Nat) :
    join sep (List.replicate m []) = List.replicate (m - 1) sep := by
  induction m with
  | zero => rfl
  | succ m ih => cases m with
    | zero => rfl
    | succ m =>
      rw [List.replicate_succ, List.replicate_succ, join_cons_cons, ← List.replicate_succ, ih]
      simp [List.replicate_succ]

/-- Joining parts without the separator adds one separator fewer than there are parts. -/
theorem count_join (sep : Char) (parts : List (List Char)) (h : ∀ p ∈ parts, sep ∉ p) :
    (join sep parts).count sep = parts.length - 1 := by
  induction parts with
  | nil => rfl
  | cons p ps ih =>
    cases ps with
    | nil => simpa using List.count_eq_zero.2 (h p (by simp))
    | cons q qs =>
      rw [join_cons_cons, List.count_append, List.count_cons_self,
        ih fun x hx => h x (List.mem_cons_of_mem _ hx), List.count_eq_zero.2 (h p (by simp))]
      simp

/-- A character of a joined text is the separator or a character of a part. -/
theorem mem_join {sep c : Char} {parts : List (List Char)} (h : c ∈ join sep parts) :
    c = sep ∨ ∃ p ∈ parts, c ∈ p := by
  induction parts with
  | nil => cases h
  | cons p ps ih =>
    cases ps with
    | nil => exact .inr ⟨p, by simp, h⟩
    | cons q qs =>
      rw [join_cons_cons, List.mem_append, List.mem_cons] at h
      rcases h with h | h | h
      · exact .inr ⟨p, by simp, h⟩
      · exact .inl h
      · rcases ih h with h | ⟨p', hp', hc⟩
        · exact .inl h
        · exact .inr ⟨p', List.mem_cons_of_mem _ hp', hc⟩

/-- The text before the first separator, and the text after it, are determined. -/
theorem append_cons_cancel {sep : Char} {a b c d : List Char} (ha : sep ∉ a) (hb : sep ∉ b)
    (h : a ++ sep :: c = b ++ sep :: d) : a = b ∧ c = d := by
  have := congrArg (split sep) h
  rw [split_append_sep ha, split_append_sep hb, List.cons.injEq] at this
  obtain ⟨rfl, hs⟩ := this
  refine ⟨rfl, ?_⟩
  rw [← join_split sep c, hs, join_split]

/-! ## Laws of the `::` replacement and of `repeat` -/

/-- A prefix without a colon is left as it is. -/
theorem replaceDoubleColons_colon_free (repl : List Char) {p : List Char} (hp : ':' ∉ p)
    (rest : List Char) :
    replaceDoubleColons repl (p ++ rest) = p ++ replaceDoubleColons repl rest := by
  induction p with
  | nil => rfl
  | cons c p ih =>
    simp only [List.mem_cons, not_or] at hp
    have hc : c ≠ ':' := Ne.symm hp.1
    rw [List.cons_append, List.cons_append, ← ih hp.2]
    simp [replaceDoubleColons, hc]

/-- A colon followed by another character is kept. -/
theorem replaceDoubleColons_colon_cons (repl : List Char) {c : Char} (hc : c ≠ ':')
    (rest : List Char) :
    replaceDoubleColons repl (':' :: c :: rest) = ':' :: replaceDoubleColons repl (c :: rest) := by
  simp [replaceDoubleColons, hc]

/-- A `::` is replaced. -/
theorem replaceDoubleColons_double (repl rest : List Char) :
    replaceDoubleColons repl (':' :: ':' :: rest) = repl ++ replaceDoubleColons repl rest := by
  simp [replaceDoubleColons]

/-- A text of non-empty parts without colons, joined by single colons, holds no `::`. -/
theorem replaceDoubleColons_join_append (repl : List Char) (parts : List (List Char))
    (h : ∀ p ∈ parts, p ≠ [] ∧ ':' ∉ p) (rest : List Char) :
    replaceDoubleColons repl (join ':' parts ++ rest) =
      join ':' parts ++ replaceDoubleColons repl rest := by
  induction parts with
  | nil => rfl
  | cons p ps ih =>
    cases ps with
    | nil => exact replaceDoubleColons_colon_free repl (h p (by simp)).2 rest
    | cons q qs =>
      obtain ⟨c, t, hq⟩ := List.exists_cons_of_ne_nil (h q (by simp)).1
      have hc : c ≠ ':' := fun hc => (h q (by simp)).2 (by simp [hq, hc])
      have hj : ∃ t', join ':' (q :: qs) ++ rest = c :: t' := by
        cases qs with
        | nil => exact ⟨t ++ rest, by simp [join, hq]⟩
        | cons q' qs' => exact ⟨_, by rw [join_cons_cons, hq]; rfl⟩
      obtain ⟨t', ht'⟩ := hj
      rw [join_cons_cons, List.append_assoc, replaceDoubleColons_colon_free repl (h p (by simp)).2,
        List.cons_append, ht', replaceDoubleColons_colon_cons repl hc, ← ht',
        ih fun x hx => h x (List.mem_cons_of_mem _ hx)]
      simp

/-- Repeating one character a nonnegative number of times does not throw. -/
theorem repeat_singleton (c : Char) (k : Nat) : «repeat» [c] k = .ok (List.replicate k c) := by
  simp [«repeat», show ¬(k : Int) < 0 by omega]

/-! ## `toString(radix)` read back by `parseInt` -/

/-- The quotient left to print is smaller than the number. -/
theorem div_lt_self_of_div_ne_zero {b n : Nat} (hb : 2 ≤ b) (h : ¬n / b = 0) : n / b < n :=
  Nat.div_lt_self (Nat.pos_of_ne_zero fun h0 => h (by simp [h0])) (by omega)

/-- The digits already produced stay after the new ones. -/
theorem toDigitsCore_append (b : Nat) (hb : 2 ≤ b) :
    ∀ fuel n ds, n < fuel → Nat.toDigitsCore b fuel n ds = Nat.toDigitsCore b fuel n [] ++ ds
  | 0, n, _, h => absurd h (Nat.not_lt_zero n)
  | fuel + 1, n, ds, h => by
    simp only [Nat.toDigitsCore]
    split
    · rfl
    · next hn =>
      have hlt : n / b < fuel := by have := div_lt_self_of_div_ne_zero hb hn; omega
      rw [toDigitsCore_append b hb fuel (n / b) _ hlt,
        toDigitsCore_append b hb fuel (n / b) [_] hlt]
      simp

/-- Any fuel above the number prints the same digits. -/
theorem toDigitsCore_fuel (b : Nat) (hb : 2 ≤ b) (n : Nat) :
    ∀ fuel, n < fuel → Nat.toDigitsCore b fuel n [] = Nat.toDigits b n := by
  induction n using Nat.strong_induction_on with
  | _ n ih =>
    intro fuel h
    obtain ⟨fuel, rfl⟩ : ∃ f, fuel = f + 1 := ⟨fuel - 1, by omega⟩
    simp only [Nat.toDigits, Nat.toDigitsCore]
    split
    · rfl
    · next hn =>
      have hlt := div_lt_self_of_div_ne_zero hb hn
      rw [toDigitsCore_append b hb fuel _ _ (by omega), toDigitsCore_append b hb n _ _ hlt,
        ih _ hlt fuel (by omega), ih _ hlt n hlt]

/-- `toString(radix)` prints the quotient, then the last digit. -/
theorem toDigits_eq (b : Nat) (hb : 2 ≤ b) (n : Nat) :
    Nat.toDigits b n =
      (if n / b = 0 then [] else Nat.toDigits b (n / b)) ++ [Nat.digitChar (n % b)] := by
  conv_lhs => simp only [Nat.toDigits, Nat.toDigitsCore]
  split
  · simp_all
  · next hn =>
    have hlt := div_lt_self_of_div_ne_zero hb hn
    rw [toDigitsCore_append b hb n _ _ hlt, toDigitsCore_fuel b hb _ n hlt]

/-- `toString(radix)` prints at least one digit. -/
theorem toDigits_ne_nil {b : Nat} (hb : 2 ≤ b) (n : Nat) : Nat.toDigits b n ≠ [] := by
  rw [toDigits_eq b hb n]
  simp

/-- `parseInt` reads each digit that `toString` prints as its value. -/
theorem digitValue_digitChar : ∀ d < 16, digitValue (Nat.digitChar d) = some d := by
  decide

/-- Reading one more digit multiplies by the radix and adds it. -/
theorem digitsValue_append_singleton (b : Nat) (l : List Char) (c : Char) :
    digitsValue b (l ++ [c]) = digitsValue b l * b + (digitValue c).getD 0 := by
  simp [digitsValue, List.foldl_append]

/-- `parseInt` reads back what `toString` prints, in any radix up to 16. -/
theorem digitsValue_toDigits (b : Nat) (hb : 2 ≤ b) (hb' : b ≤ 16) (n : Nat) :
    digitsValue b (Nat.toDigits b n) = n := by
  induction n using Nat.strong_induction_on with
  | _ n ih =>
    rw [toDigits_eq b hb n, digitsValue_append_singleton,
      digitValue_digitChar _ (by have := Nat.mod_lt n (by omega : 0 < b); omega)]
    split
    · next h => simp [digitsValue, Nat.mod_eq_of_lt ((Nat.div_eq_zero_iff (by omega)).1 h)]
    · next h =>
      rw [ih _ (div_lt_self_of_div_ne_zero hb h)]
      simp [Nat.div_add_mod']

/-- Different numbers print differently. -/
theorem toDigits_injective (b : Nat) (hb : 2 ≤ b) (hb' : b ≤ 16) :
    Function.Injective (Nat.toDigits b) := fun m n h => by
  rw [← digitsValue_toDigits b hb hb' m, h, digitsValue_toDigits b hb hb' n]

/-- Each printed character is the digit of a value below the radix. -/
theorem mem_toDigits {b : Nat} (hb : 2 ≤ b) {n : Nat} {c : Char} (h : c ∈ Nat.toDigits b n) :
    ∃ d < b, c = Nat.digitChar d := by
  induction n using Nat.strong_induction_on with
  | _ n ih =>
    rw [toDigits_eq b hb n, List.mem_append, List.mem_singleton] at h
    rcases h with h | h
    · split at h
      · cases h
      · next hq => exact ih _ (div_lt_self_of_div_ne_zero hb hq) h
    · exact ⟨_, Nat.mod_lt n (by omega), h⟩

end Lp2p.Js
