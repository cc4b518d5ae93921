import Lp2p.Address.Utils

/-!
# Canonical peer identifiers on plain addresses

Where `getPeerIdFromPeerInfo` (`src/unnamed/part_000:137–173, 273–279`) does give one
identifier per address. On an IPv4 text `normalizeAddress` keeps the text, which `isIPv4` only
accepts in the canonical form of its four octets. On an IPv6 text with neither a dotted quad nor
a zone index, and with at most seven colons, `normalizeIPv6Address` pads the `::` to the
colons missing from seven, and `parseInt(part, 16).toString(16)` prints each of the eight groups
in lower case without leading zeros. The identifier is then injective: the port is read back
from its decimal digits, and only an IPv6 identifier starts with a bracket.

The texts left out are those where the identifier is not canonical or not defined: a dotted
quad after groups, which `parseInt` reads as one group; a hybrid address written with an
upper-case `FFFF`; a zone index, which the identifier keeps as written; and an address with
eight colons, where `':'.repeat(-1)` throws.
-/

namespace Lp2p.Address

open Lp2p.Js

/-! ## Groups of hexadecimal digits -/

/-- The code points of the hexadecimal digits. -/
theorem hexDigit_range {c : Char} (h : isHexDigit c) :
    (48 ≤ c.toNat ∧ c.toNat ≤ 57) ∨ (97 ≤ c.toNat ∧ c.toNat ≤ 102) ∨
      (65 ≤ c.toNat ∧ c.toNat ≤ 70) := by
  simp only [isHexDigit, isDigitOf, digitValue] at h
  split_ifs at h with h1 h2 h3
  · have h1' : 48 ≤ c.toNat ∧ c.toNat ≤ 57 := h1
    omega
  · have h2' : 97 ≤ c.toNat ∧ c.toNat ≤ 122 := h2
    simp at h
    omega
  · have h3' : 65 ≤ c.toNat ∧ c.toNat ≤ 90 := h3
    simp at h
    omega

/-- Characters no hexadecimal digit is. -/
theorem hexDigit_ne {c : Char} (h : isHexDigit c) :
    c ≠ ':' ∧ c ≠ '.' ∧ c ≠ '%' ∧ c ≠ ']' ∧ c ≠ '-' ∧ c ≠ '+' ∧ c ≠ 'x' ∧
      c ≠ 'X' ∧ isWhiteSpace c = false := by
  have hr := hexDigit_range h
  refine ⟨?_, ?_, ?_, ?_, ?_, ?_, ?_, ?_, ?_⟩
  any_goals rintro rfl; revert hr; decide
  simp only [isWhiteSpace, decide_eq_false_iff_not, List.mem_cons, List.not_mem_nil, or_false]
  omega

/-- A run of hexadecimal digits has no `0x` prefix to strip. -/
theorem stripHexPrefix_of_hex {g : List Char} (hg : ∀ c ∈ g, isHexDigit c) :
    stripHexPrefix g = none :=
  stripHexPrefix.eq_3 _ (fun _ he => absurd (hg 'x' (by rw [he]; simp)) (by decide))
    (fun _ he => absurd (hg 'X' (by rw [he]; simp)) (by decide))

/-- `parseInt(part, 16)` of a non-empty run of hexadecimal digits is its value. -/
theorem parseInt_hex {g : List Char} (hne : g ≠ []) (hg : ∀ c ∈ g, isHexDigit c) :
    parseInt g 16 = some (digitsValue 16 g) := by
  obtain ⟨c, t, rfl⟩ := List.exists_cons_of_ne_nil hne
  obtain ⟨-, -, -, -, hm, hp, -, -, hw⟩ := hexDigit_ne (hg c (by simp))
  have hdrop : (c :: t).dropWhile isWhiteSpace = c :: t := by simp [List.dropWhile, hw]
  have hsign : parseSign (c :: t) = (1, c :: t) :=
    parseSign.eq_3 _ (fun _ he => hm (List.cons.inj he).1) (fun _ he => hp (List.cons.inj he).1)
  have htake : (c :: t).takeWhile (isDigitOf 16) = c :: t :=
    List.takeWhile_eq_self_iff.2 hg
  simp [parseInt, hdrop, hsign, stripHexPrefix_of_hex hg, htake]

/-- `parseInt(part, 16).toString(16)` of a run of hexadecimal digits prints its value, in lower
case and without leading zeros; an empty part prints `0`. -/
theorem normalizeIPv6Part_of_hex {g : List Char} (hg : ∀ c ∈ g, isHexDigit c) :
    normalizeIPv6Part g = Nat.toDigits 16 (digitsValue 16 g) := by
  unfold normalizeIPv6Part
  split
  · next h => subst h; rfl
  · next h => rw [parseInt_hex h hg]; rfl

/-- A group is one to four hexadecimal digits. -/
theorem isV6Seg_iff {g : List Char} :
    isV6Seg g ↔ g ≠ [] ∧ g.length ≤ 4 ∧ ∀ c ∈ g, isHexDigit c := by
  simp [isV6Seg, and_assoc]

/-- A run of hexadecimal digits has no colon. -/
theorem colon_not_mem_of_hex {g : List Char} (hg : ∀ c ∈ g, isHexDigit c) : ':' ∉ g :=
  fun h => (hexDigit_ne (hg ':' h)).1 rfl

/-- A group is a non-empty run of hexadecimal digits without a colon. -/
theorem isV6Seg_parts {g : List Char} (h : isV6Seg g) :
    g ≠ [] ∧ ':' ∉ g ∧ ∀ c ∈ g, isHexDigit c := by
  obtain ⟨hne, -, hhex⟩ := isV6Seg_iff.1 h
  exact ⟨hne, colon_not_mem_of_hex hhex, hhex⟩

/-! ## Texts without a dotted quad -/

/-- A text without a dot is no dotted quad. -/
theorem isV4Str_of_not_mem {g : List Char} (h : '.' ∉ g) : isV4Str g = false := by
  simp [isV4Str, split_of_not_mem h]

/-- Without a dotted quad, the members of a run of groups are all groups. -/
theorem groupsWidth_of_no_dot {gs : List (List Char)} {w : Nat} (h : groupsWidth gs = some w)
    (hd : ∀ g ∈ gs, '.' ∉ g) : (∀ g ∈ gs, isV6Seg g) ∧ w = gs.length := by
  induction gs generalizing w with
  | nil => simp_all [groupsWidth]
  | cons g gs ih =>
    cases gs with
    | nil =>
      simp only [groupsWidth, isV4Str_of_not_mem (hd g (by simp))] at h
      split at h <;> simp_all
    | cons g' gs' =>
      simp only [groupsWidth] at h
      split at h
      · next hg =>
        obtain ⟨w', hw', rfl⟩ := Option.map_eq_some'.1 h
        obtain ⟨hall, hlen⟩ := ih hw' fun x hx => hd x (List.mem_cons_of_mem _ hx)
        exact ⟨fun x hx => (List.mem_cons.1 hx).elim (· ▸ hg) (hall x), by simp [hlen]⟩
      · cases h

/-- Without a dotted quad, a run of groups denotes their values. -/
theorem groupsValue_of_no_dot {gs : List (List Char)} (hd : ∀ g ∈ gs, '.' ∉ g) :
    groupsValue gs = gs.map (digitsValue 16) := by
  induction gs with
  | nil => rfl
  | cons g gs ih =>
    cases gs with
    | nil => simp [groupsValue, isV4Str_of_not_mem (hd g (by simp))]
    | cons g' gs' => simp [groupsValue, ih fun x hx => hd x (List.mem_cons_of_mem _ hx)]

/-- The text around the first `::`. -/
theorem splitAtDoubleColon_eq {a l r : List Char} (h : splitAtDoubleColon a = some (l, r)) :
    a = l ++ ':' :: ':' :: r := by
  induction a using splitAtDoubleColon.induct generalizing l with
  | case1 rest =>
    simp only [splitAtDoubleColon, Option.some.injEq, Prod.mk.injEq] at h
    obtain ⟨rfl, rfl⟩ := h
    rfl
  | case2 c rest hne ih =>
    rw [splitAtDoubleColon.eq_2 c rest hne] at h
    obtain ⟨⟨l', r'⟩, hs, he⟩ := Option.map_eq_some'.1 h
    simp only [Prod.mk.injEq] at he
    obtain ⟨rfl, rfl⟩ := he
    rw [ih hs]
    rfl
  | case3 => cases h

/-- The colon-separated groups of a text; none for the empty text. -/
def groupsOf (l : List Char) : List (List Char) := if l = [] then [] else split ':' l

/-- The groups of a text join back to it. -/
theorem join_groupsOf (l : List Char) : join ':' (groupsOf l) = l := by
  unfold groupsOf
  split
  · next h => exact h.symm
  · exact join_split ':' l

/-- The runs before a `::` are all groups, and the width counts them. -/
theorem leftWidth_spec {l : List Char} {x : Nat} (h : leftWidth l = some x) :
    (∀ g ∈ groupsOf l, isV6Seg g) ∧ x = (groupsOf l).length := by
  unfold leftWidth at h
  unfold groupsOf
  split at h
  · next hl => simp_all
  · next hl =>
    split at h
    · next hall => simp_all
    · cases h

/-- Without a dotted quad, the same holds after the `::`. -/
theorem rightWidth_spec {r : List Char} {y : Nat} (h : rightWidth r = some y) (hd : '.' ∉ r) :
    (∀ g ∈ groupsOf r, isV6Seg g) ∧ y = (groupsOf r).length := by
  unfold rightWidth at h
  unfold groupsOf
  split at h
  · next hr => simp_all
  · next hr =>
    rw [if_neg hr]
    exact groupsWidth_of_no_dot h fun g hg hg' => hd (subset_of_mem_split hg hg')

/-- Without a dotted quad, each side of a `::` denotes the values of its groups. -/
theorem groupsOf_value {l : List Char} (hd : '.' ∉ l) :
    (if l = [] then [] else groupsValue (split ':' l)) = (groupsOf l).map (digitsValue 16) := by
  unfold groupsOf
  split
  · rfl
  · exact groupsValue_of_no_dot fun g hg hg' => hd (subset_of_mem_split hg hg')

/-! ## `normalizeIPv6Address` prints the groups a text denotes -/

/-- The canonical text of a list of groups: each in lower-case hexadecimal without leading
zeros, joined by colons. -/
def renderIPv6 (groups : List Nat) : List Char := join ':' (groups.map (Nat.toDigits 16))

/-- `c` prepended to a run of copies of itself is the run one longer. -/
private theorem replicate_append_cons (c : Char) (n : Nat) (X : List Char) :
    List.replicate n c ++ c :: X = c :: (List.replicate n c ++ X) := by
  rw [← List.singleton_append, ← List.append_assoc, ← List.replicate_succ',
    List.replicate_succ, List.cons_append]

/-- Padding a run of groups with empty parts between `L` and `R`. -/
theorem join_padded (L R : List (List Char)) (m : Nat) (hm : 1 ≤ m) :
    join ':' (L ++ List.replicate m [] ++ R) = join ':' L ++
      List.replicate (m + 1 - (if L = [] then 1 else 0) - (if R = [] then 1 else 0)) ':' ++
        join ':' R := by
  obtain ⟨n, rfl⟩ : ∃ n, m = n + 1 := ⟨m - 1, by omega⟩
  have hrep : List.replicate (n + 1) ([] : List Char) ≠ [] := by simp
  by_cases hL : L = [] <;> by_cases hR : R = []
  · subst hL hR; simp [join_replicate_nil]
  · subst hL
    rw [List.nil_append, join_append _ _ _ hrep hR, join_replicate_nil]
    simp [hR, replicate_append_cons, List.replicate_succ]
  · subst hR
    rw [List.append_nil, join_append _ _ _ hL hrep, join_replicate_nil]
    simp [hL, List.replicate_succ]
  · rw [List.append_assoc, join_append _ _ _ hL (by simp), join_append _ _ _ hrep hR,
      join_replicate_nil]
    simp [hL, hR, List.replicate_succ, replicate_append_cons]

/-- `normalizeIPv6Address` on a text with `7 - k` colons pads its `::` with `k` colons. -/
theorem normalizeIPv6Address_eq {a : List Char} {k : Nat} (hk : a.count ':' + k = 7) :
    normalizeIPv6Address a = .ok (join ':' ((split ':'
      (replaceDoubleColons (':' :: ':' :: List.replicate k ':') a)).map normalizeIPv6Part)) := by
  have hd : (ipv6UncompressedColonCount : Int) - (a.count ':' : Int) = (k : Int) := by
    simp only [ipv6UncompressedColonCount]
    omega
  simp only [normalizeIPv6Address, hd, repeat_singleton]
  rfl

/-- Printing parts of hexadecimal digits renders their values. -/
theorem join_map_normalizeIPv6Part {T : List (List Char)} (hT : T ≠ [])
    (h : ∀ p ∈ T, ∀ c ∈ p, isHexDigit c) :
    join ':' ((split ':' (join ':' T)).map normalizeIPv6Part) =
      renderIPv6 (T.map (digitsValue 16)) := by
  rw [split_join ':' T hT fun p hp => colon_not_mem_of_hex (h p hp), renderIPv6, List.map_map]
  congr 1
  exact List.map_congr_left fun p hp => normalizeIPv6Part_of_hex (h p hp)

/-- Without a `::`, `normalizeIPv6Address` prints the eight groups of the text. -/
theorem normalizeIPv6Address_uncompressed {a : List Char} (ha : isIPv6Address a)
    (hs : splitAtDoubleColon a = none) (hdot : '.' ∉ a) :
    ∃ v, ipv6Value a = some v ∧ normalizeIPv6Address a = .ok (renderIPv6 v) ∧
      v.length = 8 := by
  rw [ipv6Value, if_pos ha, hs]
  rw [isIPv6Address, hs] at ha
  have hnd : ∀ g ∈ split ':' a, '.' ∉ g := fun g hg hg' => hdot (subset_of_mem_split hg hg')
  obtain ⟨hseg, hlen⟩ := groupsWidth_of_no_dot (of_decide_eq_true ha) hnd
  have hparts := fun g hg => isV6Seg_parts (hseg g hg)
  have hcount : a.count ':' + 0 = 7 := by
    conv_lhs => rw [← join_split ':' a]
    rw [count_join ':' _ fun g hg => (hparts g hg).2.1, ← hlen]
  have hrdc : replaceDoubleColons [':', ':'] a = join ':' (split ':' a) := by
    conv_lhs => rw [← join_split ':' a, ← List.append_nil (join ':' (split ':' a))]
    rw [replaceDoubleColons_join_append _ _ fun g hg => ⟨(hparts g hg).1, (hparts g hg).2.1⟩]
    simp [replaceDoubleColons]
  refine ⟨_, rfl, ?_, by simp [groupsValue_of_no_dot hnd, ← hlen]⟩
  rw [normalizeIPv6Address_eq hcount, groupsValue_of_no_dot hnd, List.replicate_zero, hrdc,
    join_map_normalizeIPv6Part (split_ne_nil ':' a) fun g hg => (hparts g hg).2.2]

/-- In a text whose one `::` stands between two runs of groups, the replacement only touches
that `::`. -/
theorem replaceDoubleColons_around {l r repl : List Char}
    (hL : ∀ g ∈ groupsOf l, g ≠ [] ∧ ':' ∉ g) (hR : ∀ g ∈ groupsOf r, g ≠ [] ∧ ':' ∉ g) :
    replaceDoubleColons repl (l ++ ':' :: ':' :: r) = l ++ repl ++ r := by
  conv_lhs => rw [← join_groupsOf l, ← join_groupsOf r]
  rw [replaceDoubleColons_join_append _ _ hL, replaceDoubleColons_double,
    ← List.append_nil (join ':' (groupsOf r)), replaceDoubleColons_join_append _ _ hR]
  simp [replaceDoubleColons, join_groupsOf]

/-- The colons around the zero groups that a `::` between `x` and `y` groups stands for. -/
private theorem padding_colons {x y : Nat} (hxy : x + y ≤ 7) (hc : x - 1 + 2 + (y - 1) ≤ 7) :
    8 - x - y + 1 - (if x = 0 then 1 else 0) - (if y = 0 then 1 else 0) =
      7 - (x - 1 + 2 + (y - 1)) + 2 := by
  split_ifs <;> omega

/-- With a `::` and at most seven colons, `normalizeIPv6Address` prints the groups before the
`::`, the zero groups it stands for, and the groups after it. -/
theorem normalizeIPv6Address_compressed {a l r : List Char} (ha : isIPv6Address a)
    (hs : splitAtDoubleColon a = some (l, r)) (hdot : '.' ∉ a) (hc : a.count ':' ≤ 7) :
    ∃ v, ipv6Value a = some v ∧ normalizeIPv6Address a = .ok (renderIPv6 v) ∧
      v.length = 8 := by
  rw [ipv6Value, if_pos ha, hs]
  rw [isIPv6Address, hs] at ha
  dsimp only at ha ⊢
  split at ha
  · next x y hx hy =>
    have hxy : x + y ≤ 7 := of_decide_eq_true ha
    have ha' := splitAtDoubleColon_eq hs
    have hld : '.' ∉ l := fun h => hdot (by rw [ha']; exact List.mem_append_left _ h)
    have hrd : '.' ∉ r := fun h => hdot (by rw [ha']; simp [h])
    obtain ⟨hLseg, hLlen⟩ := leftWidth_spec hx
    obtain ⟨hRseg, hRlen⟩ := rightWidth_spec hy hrd
    have hL := fun g hg => isV6Seg_parts (hLseg g hg)
    have hR := fun g hg => isV6Seg_parts (hRseg g hg)
    have hcnt : a.count ':' = x - 1 + 2 + (y - 1) := by
      rw [ha', List.count_append, List.count_cons_self, List.count_cons_self,
        ← join_groupsOf l, ← join_groupsOf r, count_join ':' _ fun g hg => (hL g hg).2.1,
        count_join ':' _ fun g hg => (hR g hg).2.1, ← hLlen, ← hRlen]
      omega
    have hcount : a.count ':' + (7 - (x - 1 + 2 + (y - 1))) = 7 := by omega
    have hL0 : groupsOf l = [] ↔ x = 0 := by rw [hLlen, List.length_eq_zero]
    have hR0 : groupsOf r = [] ↔ y = 0 := by rw [hRlen, List.length_eq_zero]
    have hcol : 8 - x - y + 1 - (if groupsOf l = [] then 1 else 0) -
        (if groupsOf r = [] then 1 else 0) = 7 - (x - 1 + 2 + (y - 1)) + 2 := by
      simp only [hL0, hR0]
      exact padding_colons hxy (hcnt ▸ hc)
    have hrdc :
        replaceDoubleColons (':' :: ':' :: List.replicate (7 - (x - 1 + 2 + (y - 1))) ':') a =
        join ':' (groupsOf l ++ List.replicate (8 - x - y) [] ++ groupsOf r) := by
      rw [ha', replaceDoubleColons_around (fun g hg => ⟨(hL g hg).1, (hL g hg).2.1⟩)
        fun g hg => ⟨(hR g hg).1, (hR g hg).2.1⟩, join_padded _ _ _ (by omega), hcol,
        join_groupsOf, join_groupsOf]
      simp [List.replicate_succ]
    rw [groupsOf_value hld, groupsOf_value hrd]
    refine ⟨_, rfl, ?_, by simp [← hLlen, ← hRlen]; omega⟩
    rw [normalizeIPv6Address_eq hcount, hrdc, join_map_normalizeIPv6Part (by simp; omega)
      fun g hg => ?_]
    · simp [← hLlen, ← hRlen]; rfl
    · simp only [List.mem_append, List.mem_replicate] at hg
      rcases hg with (hg | ⟨-, rfl⟩) | hg
      · exact (hL g hg).2.2
      · simp
      · exact (hR g hg).2.2
  · cases ha

/-- On an IPv6 text without a dotted quad and with at most seven colons,
`normalizeIPv6Address` prints the eight groups the text denotes, each in lower-case
hexadecimal without leading zeros. -/
theorem normalizeIPv6Address_of_no_dot {a : List Char} (ha : isIPv6Address a) (hdot : '.' ∉ a)
    (hc : a.count ':' ≤ 7) :
    ∃ v, ipv6Value a = some v ∧ normalizeIPv6Address a = .ok (renderIPv6 v) ∧
      v.length = 8 := by
  cases hs : splitAtDoubleColon a with
  | none => exact normalizeIPv6Address_uncompressed ha hs hdot
  | some lr => exact normalizeIPv6Address_compressed ha hs hdot hc

/-! ## IPv4 texts are canonical -/

/-- The code point of a decimal digit. -/
theorem digitChar_toNat : ∀ d < 10, (Nat.digitChar d).toNat = 48 + d := by decide

/-- Characters are determined by their code points. -/
theorem char_eq_of_toNat {a b : Char} (h : a.toNat = b.toNat) : a = b :=
  Char.ext (UInt32.toNat.inj h)

/-- A decimal digit is the character `toString` prints for its value. -/
theorem digitChar_digitValue {c : Char} (h : isDecDigit c) :
    (digitValue c).getD 0 < 10 ∧ Nat.digitChar ((digitValue c).getD 0) = c := by
  have h1 : 48 ≤ c.toNat ∧ c.toNat ≤ 57 := by simpa [isDecDigit] using h
  have hc : Nat.digitChar (c.toNat - 48) = c :=
    char_eq_of_toNat (by rw [digitChar_toNat _ (by omega)]; omega)
  have hv : digitValue c = some (c.toNat - 48) := by
    rw [← digitValue_digitChar (c.toNat - 48) (by omega), hc]
  rw [hv]
  exact ⟨by simp; omega, hc⟩

/-- Reading more digits never lowers the value. -/
theorem le_digitsValue_foldl (b : Nat) (hb : 1 ≤ b) (t : List Char) (acc : Nat) :
    acc ≤ t.foldl (fun acc c => acc * b + (digitValue c).getD 0) acc := by
  induction t generalizing acc with
  | nil => exact le_rfl
  | cons c t ih =>
    exact (Nat.le_mul_of_pos_right acc hb).trans ((Nat.le_add_right _ _).trans (ih _))

/-- A decimal run without a leading zero is what `toString` prints for its value. -/
theorem toDigits_digitsValue_cons (h : Char) (t : List Char) (hd : ∀ c ∈ h :: t, isDecDigit c)
    (h0 : t = [] ∨ h ≠ '0') : Nat.toDigits 10 (digitsValue 10 (h :: t)) = h :: t := by
  induction t using List.reverseRecOn with
  | nil =>
    obtain ⟨hlt, hc⟩ := digitChar_digitValue (hd h (by simp))
    rw [toDigits_eq 10 (by decide)]
    simp [digitsValue, Nat.div_eq_of_lt hlt, Nat.mod_eq_of_lt hlt, hc]
  | append_singleton t c ih =>
    obtain ⟨hlt, hc⟩ := digitChar_digitValue (hd c (by simp))
    have h0' : h ≠ '0' := h0.resolve_left (by simp)
    have hpos : 0 < digitsValue 10 (h :: t) := by
      obtain ⟨hl, hh⟩ := digitChar_digitValue (hd h (by simp))
      have : (digitValue h).getD 0 ≠ 0 := fun hz => h0' (by rw [← hh, hz]; rfl)
      exact Nat.lt_of_lt_of_le (Nat.pos_of_ne_zero this)
        (by simpa [digitsValue] using le_digitsValue_foldl 10 (by decide) t _)
    rw [← List.cons_append, digitsValue_append_singleton, toDigits_eq 10 (by decide)]
    have hq : (digitsValue 10 (h :: t) * 10 + (digitValue c).getD 0) / 10 =
        digitsValue 10 (h :: t) := by omega
    have hr : (digitsValue 10 (h :: t) * 10 + (digitValue c).getD 0) % 10 =
        (digitValue c).getD 0 := by omega
    rw [hq, hr, if_neg hpos.ne', ih (fun x hx => hd x (List.mem_append_left [c] hx)) (.inr h0'),
      hc]

/-- An IPv4 text is four octets separated by dots. -/
theorem isV4Str_spec {s : List Char} (h : isV4Str s) :
    ∃ a b c d, split '.' s = [a, b, c, d] ∧
      isV4Seg a ∧ isV4Seg b ∧ isV4Seg c ∧ isV4Seg d := by
  unfold isV4Str at h
  split at h
  · next a b c d hs =>
    simp only [Bool.and_eq_true] at h
    exact ⟨a, b, c, d, hs, h.1.1.1, h.1.1.2, h.1.2, h.2⟩
  · cases h

/-- An octet is a run of decimal digits that prints back unchanged. -/
theorem isV4Seg_spec {s : List Char} (h : isV4Seg s) :
    (∀ c ∈ s, isDecDigit c) ∧ Nat.toDigits 10 (digitsValue 10 s) = s := by
  simp only [isV4Seg, Bool.and_eq_true, List.all_eq_true, decide_eq_true_eq, Bool.or_eq_true,
    ne_eq] at h
  obtain ⟨⟨⟨⟨hne, -⟩, hd⟩, h0⟩, -⟩ := h
  refine ⟨hd, ?_⟩
  obtain ⟨c, t, rfl⟩ := List.exists_cons_of_ne_nil hne
  refine toDigits_digitsValue_cons c t hd ?_
  rcases h0 with h0 | h0
  · exact .inl (by simpa using h0)
  · exact .inr fun hc => h0 (by simp [hc])

/-- The text of four octets, in decimal without leading zeros, joined by dots. -/
def renderIPv4 (octets : List Nat) : List Char := join '.' (octets.map (Nat.toDigits 10))

/-- An IPv4 text is the decimal rendering of its octets, and holds only digits and dots. -/
theorem isV4Str_render {s : List Char} (h : isV4Str s) :
    s = renderIPv4 ((split '.' s).map (digitsValue 10)) ∧
      ∀ c ∈ s, c = '.' ∨ isDecDigit c := by
  obtain ⟨a, b, c, d, hs, ha, hb, hc, hd⟩ := isV4Str_spec h
  have hparts : ∀ p ∈ split '.' s, isV4Seg p := by rw [hs]; simp [ha, hb, hc, hd]
  refine ⟨?_, fun x hx => ?_⟩
  · conv_lhs => rw [← join_split '.' s]
    rw [renderIPv4, List.map_map]
    congr 1
    exact (List.map_congr_left fun p hp => (isV4Seg_spec (hparts p hp)).2).trans
      (List.map_id _) |>.symm
  · rw [← join_split '.' s] at hx
    rcases mem_join hx with hx | ⟨p, hp, hx⟩
    · exact .inl hx
    · exact .inr ((isV4Seg_spec (hparts p hp)).1 x hx)

/-! ## The identifier of a plain address -/

/-- A text without a colon has no `::`. -/
theorem splitAtDoubleColon_of_not_mem {a : List Char} (h : ':' ∉ a) :
    splitAtDoubleColon a = none := by
  induction a with
  | nil => rfl
  | cons c rest ih =>
    have hc : c ≠ ':' := fun hc => h (hc ▸ List.mem_cons_self _ _)
    rw [splitAtDoubleColon.eq_2 c rest (fun _ h' => absurd h' hc),
      ih fun h' => h (List.mem_cons_of_mem _ h'), Option.map_none']

/-- A text without a colon is no IPv6 address. -/
theorem isIPv6Address_of_not_mem {a : List Char} (h : ':' ∉ a) : isIPv6Address a = false := by
  simp only [isIPv6Address, splitAtDoubleColon_of_not_mem h, split_of_not_mem h, groupsWidth]
  split_ifs <;> simp

/-- Without a zone index, `isIPv6` is the test of the address part. -/
theorem isIPv6_of_not_mem {s : String} (h : '%' ∉ s.data) : isIPv6 s = isIPv6Address s.data := by
  have hall : ∀ c ∈ s.data, decide (c ≠ '%') = true := fun c hc =>
    decide_eq_true fun hc' => h (hc' ▸ hc)
  simp only [isIPv6, List.span_eq_take_drop, List.takeWhile_eq_self_iff.2 hall,
    List.dropWhile_eq_nil_iff.2 hall]

/-- The hybrid expression only matches a text with a dot. -/
theorem matchIPv6Hybrid_of_not_mem {a : List Char} (h : '.' ∉ a) : matchIPv6Hybrid a = none := by
  induction a with
  | nil => rfl
  | cons c rest ih =>
    have ih := ih fun h' => h (List.mem_cons_of_mem _ h')
    unfold matchIPv6Hybrid
    split
    · next quad hq =>
      have hquad : '.' ∉ quad := fun h' => h (by rw [hq]; simp [h'])
      simp [isHybridQuad, split_of_not_mem hquad, ih]
    · exact ih

/-- The address a text denotes, on the texts where the identifier is canonical: the four
octets of an IPv4 text, or the eight groups of an IPv6 text with neither a dotted quad nor a
zone index and with at most seven colons. An IPv4 text and an IPv6 text never denote the same
address here. -/
def plainAddressValue (s : String) : Option (Protocol × List Nat) :=
  if isIPv4 s then some (.ipv4, (split '.' s.data).map (digitsValue 10))
  else if isIPv6 s ∧ '.' ∉ s.data ∧ '%' ∉ s.data ∧ s.data.count ':' ≤ 7 then
    (ipv6Value s.data).map (.ipv6, ·)
  else none

/-- The identifier of a denoted address and a port: the address printed in its canonical
form, then the port in decimal. -/
def plainPeerId : Protocol × List Nat → Nat → String
  | (.ipv4, octets), port => String.mk (renderIPv4 octets) ++ ":" ++ toString port
  | (.ipv6, groups), port => "[" ++ String.mk (renderIPv6 groups) ++ "]:" ++ toString port

/-- On a plain text, `getPeerIdFromPeerInfo` succeeds with the canonical identifier of the
address the text denotes; that address has at least one octet or group. -/
theorem getPeerIdFromPeerInfo_of_plain {p : PeerInfo} {v : Protocol × List Nat}
    (h : plainAddressValue p.ipAddress = some v) :
    getPeerIdFromPeerInfo p = .ok (plainPeerId v p.wsPort) ∧ v.2 ≠ [] := by
  unfold plainAddressValue at h
  split_ifs at h with h4 h6
  · cases h
    obtain ⟨hs, hchars⟩ := isV4Str_render h4
    have hcol : ':' ∉ p.ipAddress.data := fun h' => absurd (hchars _ h') (by decide)
    have hpct : '%' ∉ p.ipAddress.data := fun h' => absurd (hchars _ h') (by decide)
    have h6 : isIPv6 p.ipAddress = false := by
      rw [isIPv6_of_not_mem hpct, isIPv6Address_of_not_mem hcol]
    refine ⟨?_, by simpa using split_ne_nil '.' p.ipAddress.data⟩
    simp only [getPeerIdFromPeerInfo, normalizeAddress, h6, plainPeerId, ← hs]
    rfl
  · obtain ⟨h6, hdot, hpct, hc⟩ := h6
    rw [isIPv6_of_not_mem hpct] at h6
    obtain ⟨w, hw, hn, hlen⟩ := normalizeIPv6Address_of_no_dot h6 hdot hc
    rw [hw, Option.map_some'] at h
    cases h
    refine ⟨?_, by simp [← List.length_pos, hlen]⟩
    simp only [getPeerIdFromPeerInfo, normalizeAddress, isIPv6_of_not_mem hpct, h6,
      matchIPv6Hybrid_of_not_mem hdot, hn, plainPeerId]
    rfl

/-! ## The identifier is injective -/

/-- No digit is one of the punctuation characters of an identifier. -/
theorem digitChar_ne : ∀ d < 16, Nat.digitChar d ≠ '.' ∧ Nat.digitChar d ≠ ':' ∧
    Nat.digitChar d ≠ '[' ∧ Nat.digitChar d ≠ ']' := by
  decide

/-- A printed number holds none of the punctuation characters of an identifier. -/
theorem ne_of_mem_toDigits {b : Nat} (hb : 2 ≤ b) (hb' : b ≤ 16) {n : Nat} {c : Char}
    (h : c ∈ Nat.toDigits b n) : c ≠ '.' ∧ c ≠ ':' ∧ c ≠ '[' ∧ c ≠ ']' := by
  obtain ⟨d, hd, rfl⟩ := mem_toDigits hb h
  exact digitChar_ne d (by omega)

/-- A character of a rendered address is the separator or a digit. -/
theorem mem_render {sep c : Char} {b : Nat} (hb : 2 ≤ b) (hb' : b ≤ 16) {xs : List Nat}
    (h : c ∈ join sep (xs.map (Nat.toDigits b))) :
    c = sep ∨ c ≠ '.' ∧ c ≠ ':' ∧ c ≠ '[' ∧ c ≠ ']' := by
  rcases mem_join h with h | ⟨p, hp, hc⟩
  · exact .inl h
  · obtain ⟨n, -, rfl⟩ := List.mem_map.1 hp
    exact .inr (ne_of_mem_toDigits hb hb' hc)

/-- Rendering a non-empty list of numbers is injective. -/
theorem render_injective {sep : Char} {b : Nat} (hb : 2 ≤ b) (hb' : b ≤ 16)
    (hsep : sep = '.' ∨ sep = ':') {xs ys : List Nat} (hx : xs ≠ []) (hy : ys ≠ [])
    (h : join sep (xs.map (Nat.toDigits b)) = join sep (ys.map (Nat.toDigits b))) : xs = ys := by
  have hfree : ∀ zs : List Nat, ∀ p ∈ zs.map (Nat.toDigits b), sep ∉ p :=
    fun zs p hp hs => by
      obtain ⟨n, -, rfl⟩ := List.mem_map.1 hp
      have := ne_of_mem_toDigits hb hb' hs
      rcases hsep with rfl | rfl
      · exact this.1 rfl
      · exact this.2.1 rfl
  have := congrArg (split sep) h
  rw [split_join sep _ (by simpa using hx) (hfree xs),
    split_join sep _ (by simpa using hy) (hfree ys)] at this
  exact List.map_injective_iff.2 (toDigits_injective b hb hb') this

/-- Only the identifier of an IPv6 address holds a bracket. -/
theorem lbracket_mem_plainPeerId (v : Protocol × List Nat) (p : Nat) :
    '[' ∈ (plainPeerId v p).data ↔ v.1 = .ipv6 := by
  obtain ⟨_ | _, xs⟩ := v
  · simp only [plainPeerId, String.data_append, List.mem_append, reduceCtorEq, iff_false, not_or]
    refine ⟨⟨fun h => ?_, by decide⟩,
      fun h => (ne_of_mem_toDigits (by decide) (by decide) h).2.2.1 rfl⟩
    simpa using mem_render (by decide) (by decide) h
  · simp [plainPeerId]

/-- Two addresses and ports with the same identifier are the same. -/
theorem plainPeerId_injective {v w : Protocol × List Nat} {p q : Nat} (hv : v.2 ≠ [])
    (hw : w.2 ≠ []) (h : plainPeerId v p = plainPeerId w q) : v = w ∧ p = q := by
  have hk : v.1 = w.1 := by
    have := lbracket_mem_plainPeerId v p
    rw [h, lbracket_mem_plainPeerId] at this
    revert this
    cases v.1 <;> cases w.1 <;> decide
  have hd := congrArg String.data h
  have hport : ∀ {x y : List Char}, x = y → x = Nat.toDigits 10 p → y = Nat.toDigits 10 q →
      p = q := fun hxy hx hy => toDigits_injective 10 (by decide) (by decide) (hx ▸ hy ▸ hxy)
  obtain ⟨k, xs⟩ := v
  obtain ⟨k', ys⟩ := w
  obtain rfl : k = k' := hk
  cases k <;> simp only [plainPeerId, String.data_append, List.append_assoc] at hd
  · have hcol : ∀ zs : List Nat, ':' ∉ renderIPv4 zs := fun zs h' => by
      simpa using mem_render (by decide) (by decide) h'
    obtain ⟨hr, hpq⟩ := append_cons_cancel (hcol xs) (hcol ys) hd
    exact ⟨Prod.ext rfl (render_injective (by decide) (by decide) (.inl rfl) hv hw hr),
      hport hpq rfl rfl⟩
  · have hbr : ∀ zs : List Nat, ']' ∉ renderIPv6 zs := fun zs h' => by
      simpa using mem_render (by decide) (by decide) h'
    simp only [List.cons_append, List.nil_append, List.cons.injEq, true_and] at hd
    obtain ⟨hr, hpq⟩ := append_cons_cancel (hbr xs) (hbr ys) hd
    exact ⟨Prod.ext rfl (render_injective (by decide) (by decide) (.inr rfl) hv hw hr),
      hport (List.cons.inj hpq).2 rfl rfl⟩

end Lp2p.Address
