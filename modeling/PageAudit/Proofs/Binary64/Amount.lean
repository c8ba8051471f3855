import Mathlib.Algebra.Order.Ring.Rat
import Mathlib.Algebra.Order.WithTop.Untop0
import Mathlib.Data.Rat.Cast.Order
import Mathlib.Order.Monotone.Odd
import Mathlib.Tactic.NormNum
import PageAudit.Binary64.Basic
/-!
What a binary64 value amounts to. A finite value is a rational number (`value`), and there are two infinities
below and above all of these; a NaN amounts to nothing (`amount?`). The order of the values, which compares
bits, is the order of these amounts (`lt_iff`).

The bits of a magnitude count up through the magnitudes: whether the next one has one fraction more or starts
the next power of two, it is larger (`units_lt_succ`).
-/
namespace PageAudit.Binary64

/-! ### Magnitudes -/

/-- A finite magnitude, as a number of least units: one of them is `2 ^ (-1074)`. -/
def units (m : Nat) : Nat :=
  (if m < fractions then m % fractions else fractions + m % fractions) * 2 ^ (m / fractions - 1)

theorem units_magnitude (x : Binary64) : units x.magnitude = x.significand * 2 ^ x.raisedExponent := rfl

/-- The next magnitude is larger. -/
theorem units_lt_succ (m : Nat) : units m < units (m + 1) := by
  have hpos (k : Nat) : 0 < 2 ^ k := Nat.two_pow_pos k
  obtain hzero | hzero := Nat.eq_zero_or_pos ((m + 1) % fractions)
  · -- the fractions are used up, and the next power of two starts with none
    have hfraction : m % fractions = fractions - 1 := by unfold fractions at *; omega
    have hpower : (m + 1) / fractions = m / fractions + 1 := by unfold fractions at *; omega
    have hnext : fractions ≤ m + 1 := by unfold fractions at *; omega
    rw [units, units, hzero, hfraction, hpower, if_neg (Nat.not_lt.mpr hnext), Nat.add_zero, Nat.add_sub_cancel]
    by_cases hsmall : m < fractions
    · rw [if_pos hsmall, Nat.div_eq_of_lt hsmall]
      decide
    · have hdouble : 2 ^ (m / fractions) = 2 * 2 ^ (m / fractions - 1) := by
        rw [← Nat.pow_succ', Nat.succ_eq_add_one, Nat.sub_add_cancel]
        exact Nat.div_pos (Nat.not_lt.mp hsmall) (by decide)
      rw [if_neg hsmall, hdouble, ← Nat.mul_assoc]
      exact Nat.mul_lt_mul_of_pos_right (by decide) (hpos _)
  · -- there is one fraction more of the same power
    have hfraction : (m + 1) % fractions = m % fractions + 1 := by unfold fractions at *; omega
    have hpower : (m + 1) / fractions = m / fractions := by unfold fractions at *; omega
    have hsame : m + 1 < fractions ↔ m < fractions := by unfold fractions at *; omega
    rw [units, units, hfraction, hpower]
    simp only [hsame]
    refine Nat.mul_lt_mul_of_pos_right ?_ (hpos _)
    split
    · exact Nat.lt_succ_self _
    · exact Nat.lt_succ_self _

theorem units_strictMono : StrictMono units := strictMono_nat_of_lt_succ units_lt_succ

/-- The number of least units in a magnitude with a sign. -/
def signedUnits (k : Int) : Int := if k < 0 then -(units k.natAbs : Int) else units k.natAbs

theorem signedUnits_neg (k : Int) : signedUnits (-k) = -signedUnits k := by
  have hzero : units 0 = 0 := by decide
  unfold signedUnits
  rw [Int.natAbs_neg]
  obtain hk | rfl | hk := lt_trichotomy k 0
  · rw [if_neg (by omega), if_pos hk, Int.neg_neg]
  · simp [hzero]
  · rw [if_pos (by omega), if_neg (by omega)]

theorem signedUnits_lt {j k : Int} (h : j < k) : signedUnits j < signedUnits k := by
  have hmono : StrictMono signedUnits := by
    refine strictMono_of_odd_strictMonoOn_nonneg signedUnits_neg fun j hj k hk hjk => ?_
    rw [signedUnits, signedUnits, if_neg (not_lt.mpr hj), if_neg (not_lt.mpr hk)]
    exact Int.ofNat_lt.mpr (units_strictMono (Int.natAbs_lt_natAbs_of_nonneg_of_lt hj hjk))
  exact hmono h

/-! ### Values -/

/-- The value of a finite number: a whole number times a power of two, with its sign. -/
def value (x : Binary64) : ℚ := (if x.isNegative then -1 else 1) * x.significand * 2 ^ x.exponent

/-- Rational numbers, with an infinity below and one above all of them. -/
abbrev Amount := WithBot (WithTop ℚ)

def Amount.ofRat (q : ℚ) : Amount := ((q : WithTop ℚ) : WithBot (WithTop ℚ))

/-- What a value amounts to: a rational number or an infinity, and nothing for a NaN. -/
def amount? (x : Binary64) : Option Amount :=
  if x.isNan then none
  else if x.isFinite then some (.ofRat x.value)
  else if x.isNegative then some ⊥
  else some ⊤

variable {x y : Binary64}

/-- The amount of a signed magnitude. -/
def amountOf (k : Int) : Amount :=
  if k ≤ -(infiniteMagnitude : Int) then ⊥
  else if (infiniteMagnitude : Int) ≤ k then ⊤
  else .ofRat (signedUnits k / 2 ^ 1074)

/-- Amounts grow with the signed magnitude, from one infinity to the other. -/
theorem amountOf_lt {j k : Int} (hj : -(infiniteMagnitude : Int) ≤ j) (hk : k ≤ infiniteMagnitude)
    (hjk : j < k) : amountOf j < amountOf k := by
  have hkbot : ¬ k ≤ -(infiniteMagnitude : Int) := by omega
  have hjtop : ¬ (infiniteMagnitude : Int) ≤ j := by omega
  have hunits : (signedUnits j / 2 ^ 1074 : ℚ) < signedUnits k / 2 ^ 1074 :=
    div_lt_div_of_pos_right (Int.cast_lt.mpr (signedUnits_lt hjk)) (by positivity)
  rw [amountOf, amountOf, if_neg hkbot, if_neg hjtop]
  by_cases hjbot : j ≤ -(infiniteMagnitude : Int)
  · rw [if_pos hjbot]
    split
    · exact WithBot.bot_lt_coe _
    · exact WithBot.bot_lt_coe _
  · rw [if_neg hjbot]
    split
    · exact WithBot.coe_lt_coe.mpr (WithTop.coe_lt_top _)
    · exact WithBot.coe_lt_coe.mpr (WithTop.coe_lt_coe.mpr hunits)

theorem value_eq (x : Binary64) : x.value = signedUnits x.key / 2 ^ 1074 := by
  have hunits : (x.significand : ℚ) * 2 ^ x.exponent = units x.magnitude / 2 ^ 1074 := by
    rw [units_magnitude, exponent, zpow_sub₀ two_ne_zero, zpow_natCast, zpow_ofNat, Nat.cast_mul, Nat.cast_pow,
      Nat.cast_ofNat, mul_div_assoc]
  have hkey : signedUnits x.key = if x.isNegative then -(units x.magnitude : Int) else units x.magnitude := by
    unfold key
    split
    · rw [signedUnits_neg]
      rfl
    · rfl
  rw [value, mul_assoc, hunits, hkey]
  split
  · rw [Int.cast_neg, Int.cast_natCast, neg_one_mul, neg_div]
  · rw [one_mul, Int.cast_natCast]

/-- A value that is no NaN is at most as far from zero as an infinity. -/
theorem key_bounds (h : x.isNan = false) :
    -(infiniteMagnitude : Int) ≤ x.key ∧ x.key ≤ infiniteMagnitude := by
  have hle : x.magnitude ≤ infiniteMagnitude := by simpa [isNan] using h
  rw [key]
  split
  · omega
  · omega

theorem amount?_eq (h : x.isNan = false) : x.amount? = some (amountOf x.key) := by
  have hle : x.magnitude ≤ infiniteMagnitude := by simpa [isNan] using h
  have hpos : 0 < infiniteMagnitude := by decide
  unfold amount? amountOf
  rw [h, if_neg Bool.false_ne_true]
  by_cases hfinite : x.isFinite = true
  · have hlt : x.magnitude < infiniteMagnitude := by simpa [isFinite] using hfinite
    have hkey : ¬ x.key ≤ -(infiniteMagnitude : Int) ∧ ¬ (infiniteMagnitude : Int) ≤ x.key := by
      rw [key]
      split
      · omega
      · omega
    rw [if_pos hfinite, if_neg hkey.1, if_neg hkey.2, value_eq]
  · have hinfinite : x.magnitude = infiniteMagnitude := by
      have hge : infiniteMagnitude ≤ x.magnitude := by simpa [isFinite] using hfinite
      exact Nat.le_antisymm hle hge
    rw [if_neg hfinite, key, hinfinite]
    by_cases hsign : x.isNegative = true
    · rw [if_pos hsign, if_pos hsign, if_pos (le_refl _)]
    · rw [if_neg hsign, if_neg hsign, if_neg (by omega), if_pos (le_refl _)]

theorem amount?_eq_none_iff : x.amount? = none ↔ x.isNan = true := by
  cases h : x.isNan with
  | false => simp [amount?_eq h]
  | true => simp [amount?, h]

/-- The amount of a finite number without a sign, by its parts. -/
theorem amount?_of_parts {m : Nat} {e : Int} (hfinite : x.isFinite = true) (hpositive : x.isNegative = false)
    (hsignificand : x.significand = m) (hexponent : x.exponent = e) : x.amount? = some (.ofRat (m * 2 ^ e)) := by
  have hvalue : x.value = m * 2 ^ e := by
    rw [value, hpositive, if_neg Bool.false_ne_true, one_mul, hsignificand, hexponent]
  have hnan : x.isNan = false := by
    have hlt : x.magnitude < infiniteMagnitude := by simpa [isFinite] using hfinite
    simpa [isNan] using hlt.le
  rw [amount?, hnan, if_neg Bool.false_ne_true, if_pos hfinite, hvalue]

/-- Values are ordered by what they amount to, and nothing is less or more than a NaN. -/
theorem lt_iff : x.lt y = true ↔ ∃ a ∈ x.amount?, ∃ b ∈ y.amount?, a < b := by
  by_cases hx : x.isNan = true
  · simp [lt, amount?, hx]
  by_cases hy : y.isNan = true
  · simp [lt, amount?, hy]
  rw [Bool.not_eq_true] at hx hy
  have hlt : x.lt y = true ↔ x.key < y.key := by simp [lt, hx, hy]
  -- the keys of two values that are no NaN lie where amounts grow with them
  have hmono : StrictMonoOn amountOf (Set.Icc (-(infiniteMagnitude : Int)) infiniteMagnitude) :=
    fun j hj k hk hjk => amountOf_lt hj.1 hk.2 hjk
  rw [hlt, amount?_eq hx, amount?_eq hy, ← hmono.lt_iff_lt (key_bounds hx) (key_bounds hy)]
  simp

end PageAudit.Binary64
