import Lp2p.Address.Network

/-!
# Normalising twice, and peer identifiers read back

`normalizeAddress` (`src/unnamed/part_000:151–173`) prints each group of an IPv6 text with
`parseInt(part, 16).toString(16)`, and a printed group parses back to itself. So a second
`normalizeAddress` returns the address text of the first. Its protocol changes in one case
only: the text printed for an IPv6 address of fewer than eight groups, which `net.isIPv6`
rejects (`1:2:3:4:5:6:1.2.3.4` prints `1:2:3:4:5:6:1`).

`getHostFromPeerId`, `getPortFromPeerId` and `normalizePeerId` (`src/unnamed/part_000:281–305`)
read an identifier back. `IPV6_PEER_HOST_REGEX`, `/\[([^\[]*)\]/`, takes the text after the
first `[` up to the last `]` before the next `[`; `IPV6_PEER_PORT_REGEX`,
`/\[[^\[]*\]:([^:]*)$/`, takes the text after the last colon, when `]` stands just before
that colon and a `[` with no `[` between stands before that (lines 110–111). Without a match
both fall back to splitting at the colons.
-/

namespace Lp2p.Address

open Lp2p.Js

/-! ## Printed groups parse back -/

/-- The digits a number is printed with are hexadecimal digits. -/
theorem isHexDigit_digitChar : ∀ d < 16, isHexDigit (Nat.digitChar d) := by
  decide

/-- A hexadecimal numeral is made of hexadecimal digits. -/
theorem isHexDigit_of_mem_toDigits {n : Nat} {c : Char} (h : c ∈ Nat.toDigits 16 n) :
    isHexDigit c := by
  obtain ⟨d, hd, rfl⟩ := mem_toDigits (by decide) h
  exact isHexDigit_digitChar d hd

/-- No hexadecimal digit is punctuation of an address or of an identifier. -/
theorem punct_of_hex {c : Char} (h : isHexDigit c) :
    c ≠ ':' ∧ c ≠ '.' ∧ c ≠ '%' ∧ c ≠ '[' ∧ c ≠ ']' := by
  have hr := hexDigit_range h
  refine ⟨?_, ?_, ?_, ?_, ?_⟩ <;> rintro rfl <;> revert hr <;> decide

/-- `parseInt(text, 16)` of a minus sign and a run of hexadecimal digits. -/
theorem parseInt_neg_hex {g : List Char} (hne : g ≠ []) (hg : ∀ c ∈ g, isHexDigit c) :
    parseInt ('-' :: g) 16 = some (-((digitsValue 16 g : Nat) : Int)) := by
  have hw : isWhiteSpace '-' = false := by decide
  have htake : g.takeWhile (isDigitOf 16) = g := List.takeWhile_eq_self_iff.2 hg
  simp [parseInt, List.dropWhile, hw, parseSign, stripHexPrefix_of_hex hg, htake, hne]

/-- A printed number, `NaN` included, parses back to itself. -/
theorem normalizeIPv6Part_numberToString (n : Option Int) :
    normalizeIPv6Part (numberToString n 16) = numberToString n 16 := by
  match n with
  | none => decide
  | some (.ofNat k) =>
    have hne := toDigits_ne_nil (by decide : 2 ≤ 16) k
    simp only [normalizeIPv6Part, numberToString, if_neg hne,
      parseInt_hex hne fun _ => isHexDigit_of_mem_toDigits,
      digitsValue_toDigits 16 (by decide) le_rfl]
    rfl
  | some (.negSucc k) =>
    have hne := toDigits_ne_nil (by decide : 2 ≤ 16) (k + 1)
    simp only [normalizeIPv6Part, numberToString, reduceCtorEq, if_false,
      parseInt_neg_hex hne fun _ => isHexDigit_of_mem_toDigits,
      digitsValue_toDigits 16 (by decide) le_rfl]
    rfl

/-- Printing a group twice prints it as once. -/
theorem normalizeIPv6Part_idem (part : List Char) :
    normalizeIPv6Part (normalizeIPv6Part part) = normalizeIPv6Part part := by
  by_cases h : part = []
  · subst h
    decide
  · have hp : normalizeIPv6Part part = numberToString (parseInt part 16) 16 := if_neg h
    rw [hp, normalizeIPv6Part_numberToString]

/-- A printed group is not empty and holds no punctuation of an address or an identifier. -/
theorem normalizeIPv6Part_chars (part : List Char) :
    normalizeIPv6Part part ≠ [] ∧
      ∀ c ∈ normalizeIPv6Part part, c ≠ ':' ∧ c ≠ '.' ∧ c ≠ '%' ∧ c ≠ '[' ∧ c ≠ ']' := by
  unfold normalizeIPv6Part
  split
  · decide
  · match parseInt part 16 with
    | none => decide
    | some (.ofNat k) =>
      exact ⟨toDigits_ne_nil (by decide : 2 ≤ 16) k,
        fun c hc => punct_of_hex (isHexDigit_of_mem_toDigits hc)⟩
    | some (.negSucc k) =>
      refine ⟨List.cons_ne_nil _ _, fun c hc => ?_⟩
      rcases List.mem_cons.1 hc with rfl | hc
      · decide
      · exact punct_of_hex (isHexDigit_of_mem_toDigits hc)

/-- What `normalizeIPv6Address` returns: printed groups, at least one, joined by colons. -/
theorem normalizeIPv6Address_ok {a n : List Char} (h : normalizeIPv6Address a = .ok n) :
    ∃ parts : List (List Char), parts ≠ [] ∧ n = join ':' (parts.map normalizeIPv6Part) := by
  simp only [normalizeIPv6Address, bind, Except.bind] at h
  split at h
  · cases h
  · cases h
    exact ⟨_, split_ne_nil _ _, rfl⟩

section Printed

variable {parts : List (List Char)}

/-- A printed address has no dot, no zone sign and no bracket. -/
theorem printed_not_mem :
    '.' ∉ join ':' (parts.map normalizeIPv6Part) ∧ '%' ∉ join ':' (parts.map normalizeIPv6Part) ∧
      '[' ∉ join ':' (parts.map normalizeIPv6Part) := by
  have hc : ∀ c ∈ join ':' (parts.map normalizeIPv6Part), c ≠ '.' ∧ c ≠ '%' ∧ c ≠ '[' :=
    fun c hc => by
      rcases mem_join hc with rfl | ⟨p, hp, hcp⟩
      · decide
      · obtain ⟨part, -, rfl⟩ := List.mem_map.1 hp
        obtain ⟨-, h1, h2, h3, -⟩ := (normalizeIPv6Part_chars part).2 c hcp
        exact ⟨h1, h2, h3⟩
  exact ⟨fun h => (hc _ h).1 rfl, fun h => (hc _ h).2.1 rfl, fun h => (hc _ h).2.2 rfl⟩

/-- Every group `normalizeIPv6Address` prints is a non-empty text without a colon. -/
theorem printed_groups :
    ∀ q ∈ parts.map normalizeIPv6Part, q ≠ [] ∧ ':' ∉ q := by
  simp only [List.mem_map]
  rintro q ⟨part, -, rfl⟩
  exact ⟨(normalizeIPv6Part_chars part).1,
    fun hc => ((normalizeIPv6Part_chars part).2 ':' hc).1 rfl⟩

/-- Groups that are not empty, joined by single colons, make no `::`. -/
theorem splitAtDoubleColon_join (hne : parts ≠ []) (h : ∀ p ∈ parts, p ≠ [] ∧ ':' ∉ p) :
    splitAtDoubleColon (join ':' parts) = none := by
  cases hs : splitAtDoubleColon (join ':' parts) with
  | none => rfl
  | some lr =>
    have he := congrArg (split ':') (splitAtDoubleColon_eq hs)
    rw [split_join ':' parts hne fun p hp => (h p hp).2, split_append_cons_sep,
      split_sep_cons] at he
    exact absurd rfl (h [] (by rw [he]; simp)).1

/-- `normalizeIPv6Address` leaves a text of at most eight printed groups as it is. -/
theorem normalizeIPv6Address_printed (hne : parts ≠ []) (hlen : parts.length ≤ 8) :
    normalizeIPv6Address (join ':' (parts.map normalizeIPv6Part)) =
      .ok (join ':' (parts.map normalizeIPv6Part)) := by
  have hQne : parts.map normalizeIPv6Part ≠ [] := by simpa using hne
  have hk : (join ':' (parts.map normalizeIPv6Part)).count ':' + (8 - parts.length) = 7 := by
    rw [count_join ':' _ fun q hq => (printed_groups q hq).2, List.length_map]
    have := List.length_pos.2 hne
    omega
  have hr : replaceDoubleColons (':' :: ':' :: List.replicate (8 - parts.length) ':')
      (join ':' (parts.map normalizeIPv6Part)) = join ':' (parts.map normalizeIPv6Part) := by
    simpa [replaceDoubleColons] using replaceDoubleColons_join_append
      (':' :: ':' :: List.replicate (8 - parts.length) ':') (parts.map normalizeIPv6Part)
      printed_groups []
  rw [normalizeIPv6Address_eq hk, hr, split_join ':' _ hQne fun q hq => (printed_groups q hq).2]
  simp only [List.map_map, Function.comp_def, normalizeIPv6Part_idem]

/-- Each group is at least one wide. -/
theorem length_le_of_groupsWidth {gs : List (List Char)} {w : Nat}
    (h : groupsWidth gs = some w) : gs.length ≤ w := by
  induction gs generalizing w with
  | nil => exact Nat.zero_le _
  | cons g gs ih =>
    cases gs with
    | nil =>
      simp only [groupsWidth] at h
      split_ifs at h <;> cases h <;> simp
    | cons g' gs' =>
      rw [groupsWidth.eq_3 g (g' :: gs') (List.cons_ne_nil _ _)] at h
      split_ifs at h
      obtain ⟨w', hw', rfl⟩ := Option.map_eq_some'.1 h
      simpa using ih hw'

/-- `net.isIPv6` accepts a printed text only when it has at most eight groups. -/
theorem length_le_of_isIPv6_printed (hne : parts ≠ [])
    (h : isIPv6 (String.mk (join ':' (parts.map normalizeIPv6Part)))) : parts.length ≤ 8 := by
  have hQne : parts.map normalizeIPv6Part ≠ [] := by simpa using hne
  rw [isIPv6_of_not_mem printed_not_mem.2.1] at h
  simp only [isIPv6Address, splitAtDoubleColon_join hQne printed_groups,
    split_join ':' _ hQne fun q hq => (printed_groups q hq).2, decide_eq_true_eq] at h
  simpa using length_le_of_groupsWidth h

/-- `normalizeAddress` of a printed text returns the text, as IPv6 exactly when `net.isIPv6`
accepts it. -/
theorem normalizeAddress_printed (hne : parts ≠ []) :
    normalizeAddress (String.mk (join ':' (parts.map normalizeIPv6Part))) =
      .ok ⟨if isIPv6 (String.mk (join ':' (parts.map normalizeIPv6Part))) then .ipv6 else .ipv4,
        String.mk (join ':' (parts.map normalizeIPv6Part))⟩ := by
  unfold normalizeAddress
  split
  · next h6 =>
    simp only [String.data, matchIPv6Hybrid_of_not_mem printed_not_mem.1,
      normalizeIPv6Address_printed hne (length_le_of_isIPv6_printed hne h6), h6, if_true]
    rfl
  · next h6 => simp [h6]

/-- A printed address is not empty. -/
theorem printed_ne_nil (hne : parts ≠ []) : join ':' (parts.map normalizeIPv6Part) ≠ [] := by
  intro h0
  have hQne : parts.map normalizeIPv6Part ≠ [] := by simpa using hne
  have hs := split_join ':' _ hQne fun q hq => (printed_groups q hq).2
  rw [h0] at hs
  exact (printed_groups [] (by rw [← hs]; simp [split])).1 rfl

end Printed

/-- A text `net.isIPv6` rejects is returned as it is, as IPv4. -/
theorem normalizeAddress_of_not_isIPv6 {s : String} (h : isIPv6 s = false) :
    normalizeAddress s = .ok ⟨.ipv4, s⟩ := by
  simp [normalizeAddress, h]

/-! ## The hybrid quad -/

/-- The hybrid expression matches a quad of digit runs after `ffff:`, at the end. -/
theorem matchIPv6Hybrid_spec {a q : List Char} (h : matchIPv6Hybrid a = some q) :
    (∃ pre, a = pre ++ ':' :: q) ∧ isHybridQuad q := by
  induction a with
  | nil => cases h
  | cons c rest ih =>
    unfold matchIPv6Hybrid at h
    split at h
    · next quad hq =>
      split at h
      · cases h
        exact ⟨⟨['f', 'f', 'f', 'f'], by rw [hq]; rfl⟩, ‹_›⟩
      · obtain ⟨⟨pre, rfl⟩, hquad⟩ := ih h
        exact ⟨⟨c :: pre, rfl⟩, hquad⟩
    · obtain ⟨⟨pre, rfl⟩, hquad⟩ := ih h
      exact ⟨⟨c :: pre, rfl⟩, hquad⟩

/-- A hybrid quad is dots and decimal digits, with a dot. -/
theorem isHybridQuad_chars {q : List Char} (h : isHybridQuad q) :
    '.' ∈ q ∧ ∀ c ∈ q, c = '.' ∨ isDecDigit c := by
  unfold isHybridQuad at h
  split at h
  · next a b c d hs =>
    refine ⟨Classical.byContradiction fun hd => ?_, fun x hx => ?_⟩
    · rw [split_of_not_mem hd] at hs
      cases hs
    · rw [← join_split '.' q, hs] at hx
      rcases mem_join hx with hx | ⟨p, hp, hxp⟩
      · exact .inl hx
      · simp only [List.all_eq_true, Bool.and_eq_true] at h
        exact .inr ((h p hp).2 x hxp)
  · cases h

/-- No character of a hybrid quad is punctuation other than the dot. -/
theorem isHybridQuad_not_mem {q : List Char} (h : isHybridQuad q) :
    ':' ∉ q ∧ '%' ∉ q ∧ '[' ∉ q ∧ ']' ∉ q := by
  have hc : ∀ c ∈ q, c ≠ ':' ∧ c ≠ '%' ∧ c ≠ '[' ∧ c ≠ ']' := fun c hc => by
    rcases (isHybridQuad_chars h).2 c hc with rfl | hd
    · decide
    · obtain ⟨h1, -, h3, h4, h5⟩ := punct_of_hex (isDigitOf_of_isDecDigit hd (by decide))
      exact ⟨h1, h3, h4, h5⟩
  exact ⟨fun h' => (hc _ h').1 rfl, fun h' => (hc _ h').2.1 rfl, fun h' => (hc _ h').2.2.1 rfl,
    fun h' => (hc _ h').2.2.2 rfl⟩

/-- `net.isIPv6` rejects a hybrid quad. -/
theorem isIPv6_hybridQuad {q : List Char} (h : isHybridQuad q) : isIPv6 (String.mk q) = false := by
  obtain ⟨hcolon, hpct, -, -⟩ := isHybridQuad_not_mem h
  rw [isIPv6_of_not_mem hpct]
  exact isIPv6Address_of_not_mem hcolon

/-! ## A second `normalizeAddress` -/

/-- What `normalizeAddress` can return: a text `net.isIPv6` rejects, as it is and as IPv4; the
quad the hybrid expression finds, as IPv4; or printed groups, as IPv6. -/
theorem normalizeAddress_inv {a : String} {r : NormalizedAddress}
    (h : normalizeAddress a = .ok r) :
    (isIPv6 a = false ∧ r = ⟨.ipv4, a⟩) ∨
      (isIPv6 a ∧ ∃ q, matchIPv6Hybrid a.data = some q ∧ r = ⟨.ipv4, String.mk q⟩) ∨
      (isIPv6 a ∧ ∃ parts : List (List Char), parts ≠ [] ∧
        r = ⟨.ipv6, String.mk (join ':' (parts.map normalizeIPv6Part))⟩) := by
  unfold normalizeAddress at h
  split at h
  · next h6 =>
    split at h
    · next q hq =>
      cases h
      exact .inr (.inl ⟨h6, q, hq, rfl⟩)
    · simp only [bind, Except.bind] at h
      split at h
      · cases h
      · next n hn =>
        cases h
        obtain ⟨parts, hne, rfl⟩ := normalizeIPv6Address_ok hn
        exact .inr (.inr ⟨h6, parts, hne, rfl⟩)
  · next h6 =>
    cases h
    exact .inl ⟨by simpa using h6, rfl⟩

/-- A second `normalizeAddress` returns the address text of the first, and its protocol, except
that a printed IPv6 text `net.isIPv6` rejects comes back as IPv4. -/
theorem normalizeAddress_twice {a : String} {r : NormalizedAddress}
    (h : normalizeAddress a = .ok r) :
    normalizeAddress r.address =
      .ok ⟨if r.protocol = .ipv6 ∧ isIPv6 r.address = false then .ipv4 else r.protocol,
        r.address⟩ := by
  rcases normalizeAddress_inv h with ⟨h6, rfl⟩ | ⟨-, q, hq, rfl⟩ | ⟨-, parts, hne, rfl⟩
  · simpa using normalizeAddress_of_not_isIPv6 h6
  · exact normalizeAddress_of_not_isIPv6 (isIPv6_hybridQuad (matchIPv6Hybrid_spec hq).2)
  · rw [normalizeAddress_printed hne]
    cases isIPv6 (String.mk (join ':' (parts.map normalizeIPv6Part))) <;> rfl

/-- A plain IPv6 text: its printed form is printed again as it is. -/
theorem normalizeAddress_twice_loopback :
    normalizeAddress "::1" = .ok ⟨.ipv6, "0:0:0:0:0:0:0:1"⟩ ∧
      normalizeAddress "0:0:0:0:0:0:0:1" = .ok ⟨.ipv6, "0:0:0:0:0:0:0:1"⟩ :=
  ⟨by decide, (normalizeAddress_twice (by decide :
    normalizeAddress "::1" = .ok ⟨.ipv6, "0:0:0:0:0:0:0:1"⟩)).trans (by decide)⟩

/-! ## The characters of an address text -/

/-- A dotted quad is dots and decimal digits. -/
theorem isV4Str_chars {s : List Char} (h : isV4Str s) : ∀ c ∈ s, c = '.' ∨ isDecDigit c := by
  obtain ⟨a, b, c, d, hs, ha, hb, hc, hd⟩ := isV4Str_spec h
  intro x hx
  rw [← join_split '.' s, hs] at hx
  rcases mem_join hx with hx | ⟨p, hp, hxp⟩
  · exact .inl hx
  · simp only [List.mem_cons, List.mem_singleton, List.not_mem_nil, or_false] at hp
    rcases hp with rfl | rfl | rfl | rfl
    exacts [.inr ((isV4Seg_spec ha).1 x hxp), .inr ((isV4Seg_spec hb).1 x hxp),
      .inr ((isV4Seg_spec hc).1 x hxp), .inr ((isV4Seg_spec hd).1 x hxp)]

/-- A run that `groupsWidth` measures is made of groups and, last, a dotted quad. -/
theorem groupsWidth_mem {gs : List (List Char)} {w : Nat} (h : groupsWidth gs = some w)
    {g : List Char} (hg : g ∈ gs) : isV6Seg g ∨ isV4Str g := by
  induction gs generalizing w with
  | nil => cases hg
  | cons g₀ gs ih =>
    cases gs with
    | nil =>
      rw [List.mem_singleton.1 hg]
      simp only [groupsWidth] at h
      split_ifs at h with h6 h4
      exacts [.inl h6, .inr h4]
    | cons g' gs' =>
      rw [groupsWidth.eq_3 g₀ (g' :: gs') (List.cons_ne_nil _ _)] at h
      split_ifs at h with h6
      obtain ⟨w', hw', -⟩ := Option.map_eq_some'.1 h
      rcases List.mem_cons.1 hg with rfl | hg
      exacts [.inl h6, ih hw' hg]

/-- Each colon-separated part of an IPv6 text is empty, a group or a dotted quad. -/
theorem isIPv6Address_groups {a : List Char} (h : isIPv6Address a) :
    ∀ g ∈ split ':' a, g = [] ∨ isV6Seg g ∨ isV4Str g := by
  unfold isIPv6Address at h
  split at h
  · next l r hs =>
    intro g hg
    rw [splitAtDoubleColon_eq hs, split_append_cons_sep, split_sep_cons] at hg
    split at h
    · next x y hx hy =>
      rcases List.mem_append.1 hg with hg | hg
      · obtain ⟨hall, -⟩ := leftWidth_spec hx
        unfold groupsOf at hall
        split at hall
        · next hl => subst hl; exact .inl (List.mem_singleton.1 hg)
        · exact .inr (.inl (hall g hg))
      · rcases List.mem_cons.1 hg with rfl | hg
        · exact .inl rfl
        · unfold rightWidth at hy
          split at hy
          · next hr => subst hr; exact .inl (List.mem_singleton.1 hg)
          · exact .inr (groupsWidth_mem hy hg)
    · cases h
  · exact fun g hg => .inr (groupsWidth_mem (of_decide_eq_true h) hg)

/-- An IPv6 text is not empty and has no bracket. -/
theorem isIPv6Address_chars {a : List Char} (h : isIPv6Address a) :
    a ≠ [] ∧ '[' ∉ a ∧ ']' ∉ a := by
  have hc : ∀ c ∈ a, c ≠ '[' ∧ c ≠ ']' := fun c hc => by
    rw [← join_split ':' a] at hc
    rcases mem_join hc with rfl | ⟨g, hg, hcg⟩
    · decide
    · rcases isIPv6Address_groups h g hg with rfl | h6 | h4
      · cases hcg
      · simp only [isV6Seg, Bool.and_eq_true, List.all_eq_true] at h6
        exact ⟨(punct_of_hex (h6.2 c hcg)).2.2.2.1, (punct_of_hex (h6.2 c hcg)).2.2.2.2⟩
      · rcases isV4Str_chars h4 c hcg with rfl | hd
        · decide
        · have := punct_of_hex (isDigitOf_of_isDecDigit hd (by decide))
          exact ⟨this.2.2.2.1, this.2.2.2.2⟩
  refine ⟨?_, fun h' => (hc _ h').1 rfl, fun h' => (hc _ h').2 rfl⟩
  rintro rfl
  cases h

/-- An IPv4 text has no colon, no zone and no bracket, and `net.isIPv6` rejects it. -/
theorem isIPv4_chars {s : String} (h : isIPv4 s) :
    ':' ∉ s.data ∧ '[' ∉ s.data ∧ isIPv6 s = false := by
  have hc : ∀ c ∈ s.data, c ≠ ':' ∧ c ≠ '%' ∧ c ≠ '[' := fun c hc => by
    rcases isV4Str_chars h c hc with rfl | hd
    · decide
    · have := punct_of_hex (isDigitOf_of_isDecDigit hd (by decide))
      exact ⟨this.1, this.2.2.1, this.2.2.2.1⟩
  have hcolon : ':' ∉ s.data := fun h' => (hc _ h').1 rfl
  refine ⟨hcolon, fun h' => (hc _ h').2.2 rfl, ?_⟩
  rw [isIPv6_of_not_mem fun h' => (hc _ h').2.1 rfl]
  exact isIPv6Address_of_not_mem hcolon

/-- Without a zone, the quad the hybrid expression finds in an IPv6 text is an IPv4 text:
a part of an IPv6 text that holds a dot is a dotted quad. -/
theorem isV4Str_of_hybrid {a q : List Char} (ha : isIPv6Address a)
    (hq : matchIPv6Hybrid a = some q) : isV4Str q := by
  obtain ⟨⟨pre, rfl⟩, hquad⟩ := matchIPv6Hybrid_spec hq
  have hdot := (isHybridQuad_chars hquad).1
  have hmem : q ∈ split ':' (pre ++ ':' :: q) := by
    rw [split_append_cons_sep, split_of_not_mem (isHybridQuad_not_mem hquad).1]
    simp
  have hv6 : isV6Seg q = false := by
    simp only [isV6Seg, Bool.and_eq_false_iff, List.all_eq_false]
    exact .inr ⟨'.', hdot, by decide⟩
  rcases isIPv6Address_groups ha q hmem with rfl | h6 | h4
  · cases hdot
  · exact absurd h6 (by simp [hv6])
  · exact h4

/-! ## Reading an identifier back -/

/-- The text before the last `c`, if `c` occurs. -/
def beforeLast (c : Char) : List Char → Option (List Char)
  | [] => none
  | x :: rest =>
    match beforeLast c rest with
    | some pre => some (x :: pre)
    | none => if x = c then some [] else none

/-- `peerId.match(IPV6_PEER_HOST_REGEX)[1]`: at the first `[` whose run of characters other
than `[` holds a `]`, the text up to the last `]` of that run. -/
def matchHostGroup : List Char → Option (List Char)
  | [] => none
  | c :: rest =>
    (if c = '[' then beforeLast ']' (rest.takeWhile fun x => x != '[') else none) <|>
      matchHostGroup rest

/-- The rest of `IPV6_PEER_PORT_REGEX` after a `[`: no `[` up to a `]` followed by the last
colon, then the text after that colon. -/
def portAfterClose : List Char → Option (List Char)
  | [] => none
  | c :: rest =>
    if c = '[' then none
    else if c = ']' ∧ rest.head? = some ':' ∧ ':' ∉ rest.tail then some rest.tail
    else portAfterClose rest

/-- `peerId.match(IPV6_PEER_PORT_REGEX)[1]`: the first `[` from which the rest matches. -/
def matchPortGroup : List Char → Option (List Char)
  | [] => none
  | c :: rest => (if c = '[' then portAfterClose rest else none) <|> matchPortGroup rest

/-- `getHostFromPeerId`, `src/unnamed/part_000:281–288`: a non-empty bracketed host is
normalised, otherwise the text before the first colon is returned. -/
def getHostFromPeerId (peerId : PeerId) : Except JsError String :=
  match matchHostGroup peerId.data with
  | some (c :: rest) => (normalizeAddress (String.mk (c :: rest))).map (·.address)
  | _ => .ok (String.mk ((split ':' peerId.data).getD 0 []))

/-- `getPortFromPeerId`, `src/unnamed/part_000:290–296`; `none` is `NaN`. A missing second part
is `undefined`, which `parseInt` reads as the text `undefined`. -/
def getPortFromPeerId (peerId : PeerId) : Option Int :=
  match matchPortGroup peerId.data with
  | some (c :: rest) => parseInt (c :: rest) 0
  | _ => parseInt ((split ':' peerId.data).getD 1 "undefined".data) 0

/-- `normalizePeerId`, `src/unnamed/part_000:298–305`. -/
def normalizePeerId (peerId : PeerId) : Except JsError PeerId := do
  let host ← getHostFromPeerId peerId
  let port := String.mk (numberToString (getPortFromPeerId peerId) 10)
  if isIPv4 host then pure (host ++ ":" ++ port) else pure ("[" ++ host ++ "]:" ++ port)

/-! ### The two expressions on the texts of identifiers -/

/-- A text without the character has no last occurrence of it. -/
theorem beforeLast_of_not_mem {c : Char} {l : List Char} (h : c ∉ l) : beforeLast c l = none := by
  induction l with
  | nil => rfl
  | cons x rest ih =>
    simp only [List.mem_cons, not_or] at h
    simp [beforeLast, ih h.2, Ne.symm h.1]

/-- The last `c` is the one followed by no other. -/
theorem beforeLast_append {c : Char} (pre : List Char) {t : List Char} (ht : c ∉ t) :
    beforeLast c (pre ++ c :: t) = some pre := by
  induction pre with
  | nil => simp [beforeLast, beforeLast_of_not_mem ht]
  | cons x pre ih => simp [beforeLast, ih]

/-- A text without `[` matches no bracketed host. -/
theorem matchHostGroup_of_not_mem {l : List Char} (h : '[' ∉ l) : matchHostGroup l = none := by
  induction l with
  | nil => rfl
  | cons x rest ih =>
    simp only [List.mem_cons, not_or] at h
    simp [matchHostGroup, ih h.2, Ne.symm h.1]

/-- A text without `[` matches no bracketed port. -/
theorem matchPortGroup_of_not_mem {l : List Char} (h : '[' ∉ l) : matchPortGroup l = none := by
  induction l with
  | nil => rfl
  | cons x rest ih =>
    simp only [List.mem_cons, not_or] at h
    simp [matchPortGroup, ih h.2, Ne.symm h.1]

/-- The port expression reads the text after `]:` when no colon follows. -/
theorem portAfterClose_append {host t : List Char} (hh : '[' ∉ host) (ht : ':' ∉ t) :
    portAfterClose (host ++ ']' :: ':' :: t) = some t := by
  induction host with
  | nil => simp [portAfterClose, ht]
  | cons x host ih =>
    simp only [List.mem_cons, not_or] at hh
    have hc : ':' ∈ (host ++ ']' :: ':' :: t).tail := by cases host <;> simp
    simp [portAfterClose, Ne.symm hh.1, hc, ih hh.2]

/-- The characters of a printed port. -/
theorem port_chars (port : Nat) :
    ∀ c ∈ (toString port).data, c ≠ ':' ∧ c ≠ '[' ∧ c ≠ ']' := fun c hc =>
  have h := ne_of_mem_toDigits (by decide) (by decide) hc
  ⟨h.2.1, h.2.2.1, h.2.2.2⟩

/-- Every decimal digit prints as a decimal digit. -/
theorem isDecDigit_digitChar : ∀ d < 10, isDecDigit (Nat.digitChar d) := by
  decide

/-- `parseInt` reads a printed port back. -/
theorem parseInt_port (port : Nat) : parseInt (toString port).data 0 = some (port : Int) := by
  have hd : ∀ c ∈ Nat.toDigits 10 port, isDecDigit c := fun c hc => by
    obtain ⟨d, hd, rfl⟩ := mem_toDigits (by decide) hc
    exact isDecDigit_digitChar d hd
  rw [show (toString port).data = Nat.toDigits 10 port from rfl,
    parseInt_dec (toDigits_ne_nil (by decide : 2 ≤ 10) port) hd,
    digitsValue_toDigits 10 (by decide) (by decide)]

section Port

variable {host : String} (port : Nat)

/-- The host of a bracketed id is its normalised address. -/
theorem getHostFromPeerId_bracketed (h1 : '[' ∉ host.data) (hne : host.data ≠ []) :
    getHostFromPeerId ("[" ++ host ++ "]:" ++ toString port) =
      (normalizeAddress host).map (·.address) := by
  have hp := port_chars port
  have hnb : '[' ∉ host.data ++ ']' :: ':' :: (toString port).data := by
    simp only [List.mem_append, List.mem_cons, not_or]
    exact ⟨h1, by decide, by decide, fun h' => (hp _ h').2.1 rfl⟩
  have hrun : (host.data ++ ']' :: ':' :: (toString port).data).takeWhile (fun x => x != '[') =
      host.data ++ ']' :: ':' :: (toString port).data :=
    List.takeWhile_eq_self_iff.2 fun x hx => bne_iff_ne.2 fun h' => hnb (h' ▸ hx)
  have hb : beforeLast ']' (host.data ++ ']' :: ':' :: (toString port).data) = some host.data :=
    beforeLast_append _ fun h' => by
      rcases List.mem_cons.1 h' with h' | h'
      · cases h'
      · exact (hp _ h').2.2 rfl
  have hg : matchHostGroup ('[' :: (host.data ++ ']' :: ':' :: (toString port).data)) =
      some host.data := by
    simp only [matchHostGroup, if_true, hrun, hb]
    rfl
  obtain ⟨c, t, hct⟩ := List.exists_cons_of_ne_nil hne
  have hid : ("[" ++ host ++ "]:" ++ toString port).data =
      '[' :: (host.data ++ ']' :: ':' :: (toString port).data) := by simp
  simp only [getHostFromPeerId, hid, hg]
  rw [hct]
  show Except.map _ (normalizeAddress ⟨c :: t⟩) = _
  rw [← hct]

/-- The port of a bracketed id is the port printed after the bracket. -/
theorem getPortFromPeerId_bracketed (h1 : '[' ∉ host.data) :
    getPortFromPeerId ("[" ++ host ++ "]:" ++ toString port) = some (port : Int) := by
  have hid : ("[" ++ host ++ "]:" ++ toString port).data =
      '[' :: (host.data ++ ']' :: ':' :: (toString port).data) := by simp
  have hg : matchPortGroup ('[' :: (host.data ++ ']' :: ':' :: (toString port).data)) =
      some (toString port).data := by
    simp only [matchPortGroup, if_true,
      portAfterClose_append h1 fun h' => (port_chars port _ h').1 rfl]
    rfl
  obtain ⟨c, t, hct⟩ : ∃ c t, (toString port).data = c :: t :=
    List.exists_cons_of_ne_nil (toDigits_ne_nil (by decide : 2 ≤ 10) port)
  simp only [getPortFromPeerId, hid, hg]
  rw [hct]
  show parseInt (c :: t) 0 = _
  rw [← hct]
  exact parseInt_port port

/-- `normalizePeerId` prints the host and the port it reads. -/
theorem normalizePeerId_of {peerId : PeerId} (hh : getHostFromPeerId peerId = .ok host)
    (hp : getPortFromPeerId peerId = some (port : Int)) :
    normalizePeerId peerId = .ok (if isIPv4 host then host ++ ":" ++ toString port
      else "[" ++ host ++ "]:" ++ toString port) := by
  simp only [normalizePeerId, hh, hp, bind, Except.bind]
  split <;> rfl

/-- A bracketed identifier reads back as its normalised host and its port. -/
theorem bracketed_reads_back (h1 : '[' ∉ host.data) (hne : host.data ≠ []) {host' : String}
    (hn : (normalizeAddress host).map (·.address) = .ok host') :
    getHostFromPeerId ("[" ++ host ++ "]:" ++ toString port) = .ok host' ∧
      getPortFromPeerId ("[" ++ host ++ "]:" ++ toString port) = some (port : Int) ∧
      normalizePeerId ("[" ++ host ++ "]:" ++ toString port) =
        .ok (if isIPv4 host' then host' ++ ":" ++ toString port
          else "[" ++ host' ++ "]:" ++ toString port) := by
  have hh := (getHostFromPeerId_bracketed port h1 hne).trans hn
  have hp := getPortFromPeerId_bracketed port h1
  exact ⟨hh, hp, normalizePeerId_of port hh hp⟩

/-- An identifier `host:port`, with an IPv4 host, reads back and `normalizePeerId` keeps it. -/
theorem plain_reads_back (h1 : '[' ∉ host.data) (h2 : ':' ∉ host.data) (h4 : isIPv4 host) :
    getHostFromPeerId (host ++ ":" ++ toString port) = .ok host ∧
      getPortFromPeerId (host ++ ":" ++ toString port) = some (port : Int) ∧
      normalizePeerId (host ++ ":" ++ toString port) = .ok (host ++ ":" ++ toString port) := by
  have hid : (host ++ ":" ++ toString port).data = host.data ++ ':' :: (toString port).data := by
    simp
  have hb : '[' ∉ host.data ++ ':' :: (toString port).data := by
    simp only [List.mem_append, List.mem_cons, not_or]
    exact ⟨h1, by decide, fun h' => (port_chars port _ h').2.1 rfl⟩
  have hs : split ':' (host.data ++ ':' :: (toString port).data) =
      [host.data, (toString port).data] := by
    rw [split_append_sep h2, split_of_not_mem fun h' => (port_chars port _ h').1 rfl]
  have hh : getHostFromPeerId (host ++ ":" ++ toString port) = .ok host := by
    simp only [getHostFromPeerId, hid, matchHostGroup_of_not_mem hb, hs]
    rfl
  have hp : getPortFromPeerId (host ++ ":" ++ toString port) = some (port : Int) := by
    simp only [getPortFromPeerId, hid, matchPortGroup_of_not_mem hb, hs]
    exact parseInt_port port
  exact ⟨hh, hp, (normalizePeerId_of port hh hp).trans (by rw [if_pos h4])⟩

end Port

/-- `net.isIP` of an IPv6 text. -/
theorem isIP_of_isIPv6 {s : String} (h6 : isIPv6 s) : isIP s = 6 := by
  by_cases h4 : isIPv4 s
  · exact absurd h6 (by simp [(isIPv4_chars h4).2.2])
  · simp [isIP, h4, h6]

/-- An identifier reads back. For an address text without a zone index that `net.isIP` accepts
and `normalizeAddress` normalises, and any port, the identifier exists; `getHostFromPeerId`
returns the normalised address and `getPortFromPeerId` the port; `normalizePeerId` leaves the
identifier as it is, and turns the text written from the address as given into it. -/
theorem peerId_reads_back {ip : String} {r : NormalizedAddress} (port : Nat) (hip : isIP ip ≠ 0)
    (hz : '%' ∉ ip.data) (hr : normalizeAddress ip = .ok r) :
    ∃ id, getPeerIdFromPeerInfo { ipAddress := ip, wsPort := port } = .ok id ∧
      getHostFromPeerId id = .ok r.address ∧ getPortFromPeerId id = some (port : Int) ∧
      normalizePeerId id = .ok id ∧
      normalizePeerId (if isIP ip = 4 then ip ++ ":" ++ toString port
        else "[" ++ ip ++ "]:" ++ toString port) = .ok id := by
  rcases normalizeAddress_inv hr with ⟨h6, rfl⟩ | ⟨h6, q, hq, rfl⟩ | ⟨h6, parts, hpne, rfl⟩
  · have h4 : isIPv4 ip := by simpa [isIP, h6] using hip
    obtain ⟨hcolon, hbr, -⟩ := isIPv4_chars h4
    obtain ⟨hh, hp, hn⟩ := plain_reads_back port hbr hcolon h4
    refine ⟨_, by simp only [getPeerIdFromPeerInfo, hr]; rfl, hh, hp, hn, ?_⟩
    rwa [if_pos (by simp [isIP, h4])]
  all_goals
    have ha : isIPv6Address ip.data := by rwa [isIPv6_of_not_mem hz] at h6
    obtain ⟨hne, hbr, -⟩ := isIPv6Address_chars ha
    obtain ⟨-, -, hn'⟩ := bracketed_reads_back port hbr hne (by rw [hr]; rfl)
    rw [if_neg (by rw [isIP_of_isIPv6 h6]; decide), hn']
  · obtain ⟨hcolon, -, hbq, -⟩ := isHybridQuad_not_mem (matchIPv6Hybrid_spec hq).2
    have hv4 : isIPv4 (String.mk q) := isV4Str_of_hybrid ha hq
    obtain ⟨hh, hp, hn⟩ := plain_reads_back port hbq hcolon hv4
    exact ⟨_, by simp only [getPeerIdFromPeerInfo, hr]; rfl, hh, hp, hn, by rw [if_pos hv4]⟩
  · have hn4 : isIPv4 (String.mk (join ':' (parts.map normalizeIPv6Part))) = false :=
      isV4Str_of_not_mem printed_not_mem.1
    obtain ⟨hh, hp, hn⟩ := bracketed_reads_back port printed_not_mem.2.2 (printed_ne_nil hpne)
      (by rw [normalizeAddress_printed hpne]; rfl)
    simp only [hn4, Bool.false_eq_true, if_false] at hn ⊢
    exact ⟨_, by simp only [getPeerIdFromPeerInfo, hr]; rfl, hh, hp, hn, rfl⟩

/-- The hybrid quad of an address without zone index, read back. -/
example :
    ∃ id, getPeerIdFromPeerInfo { ipAddress := "::ffff:1.2.3.4", wsPort := 5000 } = .ok id ∧
      getHostFromPeerId id = .ok "1.2.3.4" ∧ getPortFromPeerId id = some ((5000 : Nat) : Int) ∧
      normalizePeerId id = .ok id ∧
      normalizePeerId (if isIP "::ffff:1.2.3.4" = 4 then "::ffff:1.2.3.4" ++ ":" ++ toString 5000
        else "[" ++ "::ffff:1.2.3.4" ++ "]:" ++ toString 5000) = .ok id :=
  peerId_reads_back 5000 (by decide) (by decide)
    (by decide : normalizeAddress "::ffff:1.2.3.4" = .ok ⟨.ipv4, "1.2.3.4"⟩)

/-- With a zone index, the hybrid expression can find a quad that is no IPv4 text; the
identifier is then not read back as itself. -/
theorem normalizePeerId_zone_quad :
    isIP "::1%ffff:1.2.3.999" = 6 ∧
      normalizeAddress "::1%ffff:1.2.3.999" = .ok ⟨.ipv4, "1.2.3.999"⟩ ∧
      getPeerIdFromPeerInfo { ipAddress := "::1%ffff:1.2.3.999", wsPort := 5000 } =
        .ok "1.2.3.999:5000" ∧
      normalizePeerId "1.2.3.999:5000" = .ok "[1.2.3.999]:5000" := by
  decide

end Lp2p.Address
