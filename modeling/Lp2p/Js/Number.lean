import Mathlib.Data.Rat.Floor

/-!
# JavaScript numbers in the session's rates

The rates a session computes (`src/peer/base.js:105–131, 371–373, 486–502`) and the number of
sessions a protection keeps (`src/peer_pool.js:73`) are JavaScript numbers: IEEE 754 binary64
values, `±Infinity` or `NaN`. A finite number is the rational it denotes. Each `*` and `/`
rounds its exact result to the nearest double, ties to the one whose significand is even, and a
result whose rounded magnitude reaches `2^1024` is an infinity (ECMAScript `Number::multiply`
and `Number::divide`, IEEE 754 §4.3.1 and §7.4). The counts these operations read are integers
far below `2^53`, so they are doubles as they stand.
-/

namespace Lp2p.Js

/-- A JavaScript number: finite, `±Infinity` or `NaN`. -/
inductive JsNumber
  | finite (q : ℚ)
  | infinity (positive : Bool)
  | nan
  deriving DecidableEq, Repr

/-! ### Rounding to the nearest double

A finite double is `m * 2^u` with `m < 2^53` and `u ≥ -1074`; in the binade `[2^e, 2^(e+1))`
its last significand bit weighs `2^(e - 52)`, and below `2^-1022` it weighs `2^-1074`. -/

/-- `n / d` rounded to the nearest natural number, ties to the even one. -/
def rne (n d : Nat) : Nat :=
  if 2 * (n % d) < d ∨ 2 * (n % d) = d ∧ n / d % 2 = 0 then n / d else n / d + 1

/-- The number of binary digits of `n`, found within `fuel` halvings. -/
def bitLength : Nat → Nat → Nat
  | 0, _ => 0
  | fuel + 1, n => if n = 0 then 0 else bitLength fuel (n / 2) + 1

/-- Whether `d * 2^e ≤ n`. -/
def powLe (n d : Nat) (e : Int) : Bool :=
  if 0 ≤ e then d * 2 ^ e.toNat ≤ n else d ≤ n * 2 ^ (-e).toNat

/-- `⌊log₂ (n / d)⌋` for positive `n` and `d`: the difference of their bit lengths, or one
less. -/
def binade (n d : Nat) : Int :=
  let e : Int := (bitLength n n : Int) - bitLength d d
  if powLe n d e then e else e - 1

/-- The exponent `u` of the last significand bit of a double in the binade of `n / d`: 52 bits
below the binade, and never below the least subnormal, `2^-1074`. -/
def unitExponent (n d : Nat) : Int := max (binade n d - 52) (-1074)

/-- The significand of `n / d` in units of `2^u`, rounded. -/
def significand (n d : Nat) (u : Int) : Nat :=
  if 0 ≤ u then rne n (d * 2 ^ u.toNat) else rne (n * 2 ^ (-u).toNat) d

/-- The rational `m * 2^u`. -/
def dyadic (m : Nat) (u : Int) : ℚ :=
  if 0 ≤ u then ((m * 2 ^ u.toNat : Nat) : ℚ) else mkRat m (2 ^ (-u).toNat)

/-- The double nearest `n / d`, for `d > 0`, ties to the even significand; `±Infinity` when
the rounded magnitude reaches `2^1024`. -/
def roundFrac (n : Int) (d : Nat) : JsNumber :=
  let u := unitExponent n.natAbs d
  let m := significand n.natAbs d u
  if 0 ≤ u ∧ 2 ^ 1024 ≤ m * 2 ^ u.toNat then .infinity (0 < n)
  else .finite (if n < 0 then -dyadic m u else dyadic m u)

/-- Zero is a quotient of its own. -/
@[simp] theorem rne_zero (d : Nat) : rne 0 d = 0 := by
  simp only [rne, Nat.zero_mod, mul_zero, Nat.zero_div, and_true]
  rw [if_pos (by omega)]

/-- Zero rounds to zero. -/
@[simp] theorem roundFrac_zero (d : Nat) : roundFrac 0 d = .finite 0 := by
  have h : ∀ k, ¬ 2 ^ k ≤ 0 := fun k => Nat.not_le_of_lt (Nat.two_pow_pos k)
  simp [roundFrac, significand, dyadic, h, -Nat.reducePow]

/-- Rounding never gives `NaN`. -/
theorem roundFrac_ne_nan (n : Int) (d : Nat) : roundFrac n d ≠ .nan := by
  unfold roundFrac; dsimp only; split <;> exact nofun

/-- Below half of `d`, `n` rounds to 0, and so does exactly half. -/
theorem rne_eq_zero {n d : Nat} (hd : 0 < d) (h : 2 * n ≤ d) : rne n d = 0 := by
  have hn : n < d := by omega
  simp only [rne, Nat.div_eq_of_lt hn, Nat.mod_eq_of_lt hn, Nat.zero_mod, and_true]
  split <;> omega

/-- A quotient at most `k` rounds to at most `k`. -/
theorem rne_le {n d k : Nat} (hd : 0 < d) (h : n ≤ d * k) : rne n d ≤ k := by
  have hdm := Nat.div_add_mod n d
  have hq : n / d ≤ k := Nat.div_le_of_le_mul h
  unfold rne
  split
  · exact hq
  · rcases Nat.lt_or_ge (n / d) k with hlt | hge
    · omega
    · have := Nat.mul_le_mul_left d hge
      omega

/-- A quotient in `[0, 1]` rounds to a finite double in `[0, 1]`. -/
theorem roundFrac_mem_unit {n : Int} {d : Nat} (hd : 0 < d) (h0 : 0 ≤ n) (h1 : n ≤ d) :
    ∃ v, roundFrac n d = .finite v ∧ 0 ≤ v ∧ v ≤ 1 := by
  have hnd : n.natAbs ≤ d := by omega
  generalize hu : unitExponent n.natAbs d = u
  by_cases hu0 : 0 ≤ u
  · -- at a unit of at least 1 only 0 and 1 are in reach
    have hm : rne n.natAbs (d * 2 ^ u.toNat) * 2 ^ u.toNat ≤ 1 := by
      rcases Nat.eq_zero_or_pos u.toNat with ht | ht
      · rw [ht, pow_zero, mul_one, mul_one]; exact rne_le hd (by omega)
      · have h2 : 2 ≤ 2 ^ u.toNat := Nat.le_self_pow ht.ne' 2
        rw [rne_eq_zero (by positivity) ((Nat.mul_le_mul h2 hnd).trans_eq (Nat.mul_comm _ _)),
          zero_mul]
        omega
    refine ⟨_, ?_, Nat.cast_nonneg _, by exact_mod_cast hm⟩
    simp only [roundFrac, hu, significand, hu0, if_true, dyadic, not_lt.2 h0, if_false, true_and]
    rw [if_neg (by omega)]
  · have hm : rne (n.natAbs * 2 ^ (-u).toNat) d ≤ 2 ^ (-u).toNat :=
      rne_le hd (Nat.mul_le_mul_right _ hnd)
    refine ⟨mkRat (rne (n.natAbs * 2 ^ (-u).toNat) d) (2 ^ (-u).toNat), ?_,
      Rat.mkRat_nonneg (Nat.cast_nonneg _) _, ?_⟩
    · simp only [roundFrac, hu, significand, hu0, if_false, dyadic, not_lt.2 h0, false_and]
    · rw [Rat.mkRat_eq_div, div_le_one (by positivity)]
      exact_mod_cast hm

/-- The double nearest `q`. -/
def round64 (q : ℚ) : JsNumber := roundFrac q.num q.den

namespace JsNumber

/-- `x * k` for a finite `k`: the product rounded; `±Infinity * 0` is `NaN`. -/
def mul (x : JsNumber) (k : ℚ) : JsNumber :=
  match x with
  | .finite q => roundFrac (q.num * k.num) (q.den * k.den)
  | .infinity positive => if k = 0 then .nan else .infinity (positive == decide (0 < k))
  | .nan => .nan

/-- `x / b` for a finite `b`: the quotient rounded; by zero a signed infinity, or `NaN` for
`0 / 0`; `±Infinity / b` keeps its sign when `b ≥ 0`. -/
def div (x : JsNumber) (b : ℚ) : JsNumber :=
  match x with
  | .finite a =>
    if b = 0 then (if a = 0 then .nan else .infinity (0 < a))
    else roundFrac (a.num * b.den * b.num.sign) (a.den * b.num.natAbs)
  | .infinity positive => .infinity (positive == decide (0 ≤ b))
  | .nan => .nan

/-- `Math.ceil(x)`. -/
def ceil : JsNumber → JsNumber
  | .finite q => .finite ⌈q⌉
  | x => x

/-- `x > y` for a finite `y`: false for `NaN`, decided by the sign for an infinity. -/
def gtFinite (x : JsNumber) (y : ℚ) : Bool :=
  match x with
  | .finite q => y < q
  | .infinity positive => positive
  | .nan => false

/-- `a > b`: false when either is `NaN`. -/
def gt : JsNumber → JsNumber → Bool
  | .finite a, .finite b => b < a
  | .finite _, .infinity positive => !positive
  | .infinity positive, .finite _ => positive
  | .infinity a, .infinity b => a && !b
  | _, _ => false

/-- `a >= b`: false when either is `NaN`. -/
def ge (a b : JsNumber) : Bool := a != .nan && b != .nan && !b.gt a

/-- Truthiness: `0` and `NaN` are falsy. -/
def truthy : JsNumber → Bool
  | .finite q => q ≠ 0
  | .infinity _ => true
  | .nan => false

/-- A count over a positive count is their quotient, rounded. -/
theorem div_natCast (a : Nat) {b : Nat} (hb : 0 < b) :
    (finite a).div b = roundFrac a b := by
  have hb' : (b : ℚ) ≠ 0 := by exact_mod_cast hb.ne'
  simp [div, hb', Int.sign_natCast_of_ne_zero hb.ne']

/-- `0 / b` is falsy: 0, or `NaN` for `b = 0`. -/
@[simp] theorem truthy_zero_div (b : ℚ) : ((finite 0).div b).truthy = false := by
  simp only [div]; split_ifs <;> simp [truthy]

/-- `a > b` makes `a >= b`. -/
theorem ge_of_gt {a b : JsNumber} (h : a.gt b) : a.ge b := by
  cases a <;> cases b <;> simp_all [gt, ge, le_of_lt]

/-- Two numbers, neither `NaN`, compare one way or the other. -/
theorem ge_of_not_gt {a b : JsNumber} (ha : a ≠ .nan) (hb : b ≠ .nan) (h : a.gt b = false) :
    b.ge a := by
  simp [ge, ha, hb, h]

/-- `>=` is transitive. -/
theorem ge_trans {a b c : JsNumber} (hab : a.ge b) (hbc : b.ge c) : a.ge c := by
  cases a <;> cases b <;> cases c <;> simp_all [gt, ge]
  · exact hbc.trans hab
  · rename_i x y z; cases x <;> cases y <;> cases z <;> simp_all

/-- A positive count over any divisor is never `NaN`. -/
theorem div_succ_ne_nan (n : Nat) (d : ℚ) : (finite ((n + 1 : Nat) : ℚ)).div d ≠ .nan := by
  simp only [div]
  split_ifs with hd h0
  · exact absurd h0 (by positivity)
  · exact nofun
  · exact roundFrac_ne_nan _ _

end JsNumber

end Lp2p.Js
