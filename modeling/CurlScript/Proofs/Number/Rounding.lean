import CurlScript.Proofs.Number.Numeral
import Mathlib.Data.Rat.Cast.Order
import Mathlib.Tactic.Linarith
import Mathlib.Tactic.NormNum
import Mathlib.Tactic.Positivity

/-!
Decimals become doubles by correct rounding: the nearest double is taken, of two equally near ones
the one with an even significand, and an infinity from half a unit above the greatest double on.
-/

namespace CurlScript.Number

structure Fits (significand : Nat) (exponent : Int) : Prop where
  narrow : significand < 2 ^ 53
  least : leastExponent ≤ exponent
  greatest : exponent ≤ greatestExponent
  leading : 2 ^ 52 ≤ significand ∨ exponent = leastExponent

def scaled (significand : Nat) (exponent : Int) : ℚ :=
  significand * 2 ^ exponent

def overflow : ℚ :=
  (2 ^ 53 - 1 / 2) * 2 ^ greatestExponent

structure NearestTo (value : ℚ) (significand : Nat) (exponent : Int) : Prop where
  fits : Fits significand exponent
  nearest : ∀ other power, Fits other power →
    |scaled significand exponent - value| ≤ |scaled other power - value|
  even : ∀ other power, Fits other power →
    |scaled other power - value| = |scaled significand exponent - value| →
    scaled other power = scaled significand exponent ∨ significand % 2 = 0

inductive Rounded (negative : Bool) (value : ℚ) : Double → Prop
  | finite {significand exponent} : value < overflow → NearestTo value significand exponent →
      Rounded negative value (.finite negative significand exponent)
  | infinite : overflow ≤ value → Rounded negative value (.infinite negative)

/-! Powers and quotients of natural numbers. -/

theorem pow_toNat_div (base : ℚ) (power : Int) (nonzero : base ≠ 0) :
    base ^ power.toNat / base ^ (-power).toNat = base ^ power := by
  rw [← zpow_natCast, ← zpow_natCast, ← zpow_sub₀ nonzero]
  congr 1
  omega

theorem twoTo_div (power : Int) : (twoTo power : ℚ) / twoTo (-power) = 2 ^ power := by
  have natural : ∀ power, (twoTo power : ℚ) = 2 ^ power.toNat := by
    intro power
    simp [twoTo]
  rw [natural, natural]
  exact pow_toNat_div 2 power two_ne_zero

theorem tenTo_div (power : Int) : (tenTo power : ℚ) / tenTo (-power) = 10 ^ power := by
  have natural : ∀ power, (tenTo power : ℚ) = 10 ^ power.toNat := by
    intro power
    simp [tenTo]
  rw [natural, natural]
  exact pow_toNat_div 10 power (by norm_num)

theorem twoTo_pos (power : Int) : 0 < twoTo power :=
  Nat.pow_pos (by decide)

theorem tenTo_pos (power : Int) : 0 < tenTo power :=
  Nat.pow_pos (by decide)

variable {numerator denominator : Nat}

theorem belowPowerOfTwo_iff (positive : 0 < denominator) (power : Int) :
    belowPowerOfTwo numerator denominator power = true ↔
      (numerator / denominator : ℚ) < 2 ^ power := by
  have denominatorPos : (0 : ℚ) < denominator := by exact_mod_cast positive
  have unitPos : (0 : ℚ) < twoTo (-power) := by exact_mod_cast twoTo_pos (-power)
  rw [← twoTo_div, div_lt_div_iff₀ denominatorPos unitPos, belowPowerOfTwo, decide_eq_true_iff,
    mul_comm denominator]
  exact_mod_cast Iff.rfl

theorem log2_bounds {n : Nat} (positive : 0 < n) :
    (2 : ℚ) ^ (n.log2 : Int) ≤ n ∧ (n : ℚ) < 2 ^ (n.log2 + 1 : Int) := by
  constructor
  · rw [zpow_natCast]
    exact_mod_cast Nat.log2_self_le positive.ne'
  · exact_mod_cast Nat.lt_log2_self

theorem scaleOf_eq_max (numeratorPos : 0 < numerator) (denominatorPos : 0 < denominator) :
    ∃ leading, scaleOf numerator denominator = max (leading - 52) leastExponent ∧
      (2 : ℚ) ^ leading ≤ numerator / denominator ∧
      (numerator / denominator : ℚ) < 2 ^ (leading + 1) := by
  have two : (2 : ℚ) ≠ 0 := two_ne_zero
  obtain ⟨numeratorFrom, numeratorBelow⟩ := log2_bounds numeratorPos
  obtain ⟨denominatorFrom, denominatorBelow⟩ := log2_bounds denominatorPos
  have denominatorRat : (0 : ℚ) < denominator := by exact_mod_cast denominatorPos
  set guess : Int := (numerator.log2 : Int) - (denominator.log2 : Int) with guessEq
  have above : (2 : ℚ) ^ (guess - 1) ≤ numerator / denominator := by
    rw [le_div_iff₀ denominatorRat]
    calc (2 : ℚ) ^ (guess - 1) * denominator
        ≤ 2 ^ (guess - 1) * 2 ^ (denominator.log2 + 1 : Int) := by gcongr
      _ = 2 ^ (numerator.log2 : Int) := by
          rw [← zpow_add₀ two]
          congr 1
          omega
      _ ≤ numerator := numeratorFrom
  have below : (numerator / denominator : ℚ) < 2 ^ (guess + 1) := by
    rw [div_lt_iff₀ denominatorRat]
    calc (numerator : ℚ) < 2 ^ (numerator.log2 + 1 : Int) := numeratorBelow
      _ = 2 ^ (guess + 1) * 2 ^ (denominator.log2 : Int) := by
          rw [← zpow_add₀ two]
          congr 1
          omega
      _ ≤ 2 ^ (guess + 1) * denominator := by gcongr
  by_cases low : belowPowerOfTwo numerator denominator guess = true
  · refine ⟨guess - 1, by simp [scaleOf, ← guessEq, low], above, ?_⟩
    simpa using (belowPowerOfTwo_iff denominatorPos guess).mp low
  · refine ⟨guess, by simp [scaleOf, ← guessEq, low], ?_, below⟩
    rw [belowPowerOfTwo_iff denominatorPos] at low
    exact not_lt.mp low

/-- The quotient has 53 bits before its point at this scale, or fewer at the least exponent. -/
theorem scaleOf_bounds (numeratorPos : 0 < numerator) (denominatorPos : 0 < denominator) :
    leastExponent ≤ scaleOf numerator denominator ∧
      (numerator / denominator : ℚ) < 2 ^ 53 * 2 ^ scaleOf numerator denominator ∧
      ((2 : ℚ) ^ 52 * 2 ^ scaleOf numerator denominator ≤ numerator / denominator ∨
        scaleOf numerator denominator = leastExponent) := by
  obtain ⟨leading, scaleEq, above, below⟩ := scaleOf_eq_max numeratorPos denominatorPos
  have one_le : (1 : ℚ) ≤ 2 := by norm_num
  have shifted : ∀ (bits : Nat) (power : Int), (2 : ℚ) ^ bits * 2 ^ power = 2 ^ (bits + power) := by
    intro bits power
    rw [zpow_add₀ two_ne_zero, zpow_natCast]
  rw [scaleEq, shifted, shifted]
  refine ⟨le_max_right _ _, below.trans_le (zpow_le_zpow_right₀ one_le ?_), ?_⟩
  · have bound := le_max_left (leading - 52) leastExponent
    push_cast
    omega
  · rcases le_total leastExponent (leading - 52) with normal | least
    · left
      rw [max_eq_left normal]
      simpa using above
    · exact .inr (max_eq_right least)

structure NearestNat (value : ℚ) (n : Nat) : Prop where
  close : |(n : ℚ) - value| ≤ 1 / 2
  even : |(n : ℚ) - value| = 1 / 2 → n % 2 = 0

theorem nearestNat_roundDiv (numerator : Nat) (positive : 0 < denominator) :
    NearestNat (numerator / denominator) (roundDiv numerator denominator) := by
  have denominatorRat : (0 : ℚ) < denominator := by exact_mod_cast positive
  set quotient := numerator / denominator with quotientEq
  set remainder := numerator % denominator with remainderEq
  have split : (numerator / denominator : ℚ) = quotient + remainder / denominator := by
    have division : (numerator : ℚ) = denominator * quotient + remainder := by
      exact_mod_cast (Nat.div_add_mod numerator denominator).symm
    rw [division]
    field_simp
  rw [split]
  set part : ℚ := remainder / denominator with partEq
  have twice : part * (2 * denominator) = (2 * remainder : Nat) := by
    rw [partEq]
    push_cast
    field_simp
  have partBelow : 2 * remainder < denominator → part < 1 / 2 := by
    intro less
    have lessRat : ((2 * remainder : Nat) : ℚ) < denominator := by exact_mod_cast less
    nlinarith
  have partAbove : denominator < 2 * remainder → 1 / 2 < part := by
    intro more
    have moreRat : (denominator : ℚ) < (2 * remainder : Nat) := by exact_mod_cast more
    nlinarith
  have partHalf : 2 * remainder = denominator → part = 1 / 2 := by
    intro same
    rw [same] at twice
    field_simp at twice ⊢
    linarith
  have partFrom : 0 ≤ part := by positivity
  have partTo : part < 1 := by
    rw [partEq, div_lt_one denominatorRat]
    exact_mod_cast Nat.mod_lt numerator positive
  have below : |(quotient : ℚ) - (quotient + part)| = part := by
    rw [sub_add_cancel_left, abs_neg, abs_of_nonneg partFrom]
  have above : |((quotient + 1 : Nat) : ℚ) - (quotient + part)| = 1 - part := by
    push_cast
    rw [add_sub_add_left_eq_sub, abs_of_nonneg (by linarith)]
  unfold roundDiv
  simp only [← quotientEq, ← remainderEq]
  split_ifs with less more isEven
  · constructor
    · rw [below]
      exact (partBelow less).le
    · intro tie
      rw [below] at tie
      exact absurd tie (partBelow less).ne
  · constructor
    · rw [above]
      linarith [partAbove more]
    · intro tie
      rw [above] at tie
      linarith [partAbove more]
  · have half : part = 1 / 2 := partHalf (by omega)
    exact ⟨by rw [below, half], fun _ => isEven⟩
  · have half : part = 1 / 2 := partHalf (by omega)
    refine ⟨?_, fun _ => by omega⟩
    rw [above, half]
    norm_num

theorem NearestNat.le_of_nat {value : ℚ} {n : Nat} (isNearest : NearestNat value n) (other : Nat) :
    |(n : ℚ) - value| ≤ |(other : ℚ) - value| ∧
      (|(other : ℚ) - value| = |(n : ℚ) - value| → other = n ∨ n % 2 = 0) := by
  by_cases same : other = n
  · subst same
    exact ⟨le_rfl, fun _ => .inl rfl⟩
  · have apart : (1 : ℚ) ≤ |(other : ℚ) - n| := by
      have different : (other : Int) - n ≠ 0 := by omega
      exact_mod_cast Int.one_le_abs different
    have triangle : |(other : ℚ) - n| ≤ |(other : ℚ) - value| + |(n : ℚ) - value| := by
      rw [abs_sub_comm (n : ℚ)]
      exact abs_sub_le _ _ _
    have close := isNearest.close
    refine ⟨by linarith, fun tie => .inr (isNearest.even ?_)⟩
    linarith

theorem scaled_eq_of_le {significand : Nat} {exponent scale : Int} (le : scale ≤ exponent) :
    scaled significand exponent =
      scaled (significand * 2 ^ (exponent - scale).toNat) scale := by
  have exponentEq : exponent = ((exponent - scale).toNat : Int) + scale := by omega
  conv_lhs => rw [scaled, exponentEq, zpow_add₀ two_ne_zero, zpow_natCast]
  rw [scaled]
  push_cast
  ring

/-- The least significand of 53 bits follows the greatest one, at the next exponent. -/
theorem scaled_carry (scale : Int) : scaled (2 ^ 52) (scale + 1) = scaled (2 ^ 53) scale := by
  rw [scaled, scaled, zpow_add₀ two_ne_zero]
  push_cast
  ring

theorem scaled_lt_of_lt {significand : Nat} {exponent scale : Int}
    (fits : Fits significand exponent) (lt : exponent < scale) :
    scaled significand exponent < scaled (2 ^ 52) scale := by
  have narrow : (significand : ℚ) < 2 ^ 53 := by exact_mod_cast fits.narrow
  calc scaled significand exponent < 2 ^ 53 * 2 ^ exponent := by
        rw [scaled]
        gcongr
    _ = 2 ^ 52 * 2 ^ (exponent + 1) := by
        rw [zpow_add₀ two_ne_zero]
        ring
    _ ≤ 2 ^ 52 * 2 ^ scale := by
        gcongr
        · norm_num
        · omega
    _ = scaled (2 ^ 52) scale := by
        rw [scaled]
        norm_num

theorem distance_scaled (n : Nat) (scale : Int) (value : ℚ) :
    |scaled n scale - value| = |(n : ℚ) - value / 2 ^ scale| * 2 ^ scale := by
  have unit : (0 : ℚ) < 2 ^ scale := by positivity
  rw [scaled, ← abs_of_pos unit, ← abs_mul, abs_of_pos unit, sub_mul, div_mul_cancel₀ _ unit.ne']

/-- A natural number that is nearest at the scale of a value gives the double that is nearest: the
doubles of smaller exponents lie below that scale. -/
theorem NearestNat.le_of_fits {value : ℚ} {n other : Nat} {scale power : Int}
    (isNearest : NearestNat (value / 2 ^ scale) n)
    (leading : 2 ^ 52 * 2 ^ scale ≤ value ∨ scale = leastExponent) (fits : Fits other power) :
    |scaled n scale - value| ≤ |scaled other power - value| ∧
      (|scaled other power - value| = |scaled n scale - value| →
        scaled other power = scaled n scale ∨ n % 2 = 0) := by
  have unit : (0 : ℚ) < 2 ^ scale := by positivity
  rcases le_or_gt scale power with le | lt
  · rw [scaled_eq_of_le le, distance_scaled, distance_scaled]
    obtain ⟨nearest, even⟩ := isNearest.le_of_nat (other * 2 ^ (power - scale).toNat)
    refine ⟨by gcongr, fun tie => ?_⟩
    exact (even (mul_right_cancel₀ unit.ne' tie)).imp_left (congrArg (scaled · scale))
  · have from52 : scaled (2 ^ 52) scale ≤ value := by
      have normal : 2 ^ 52 * 2 ^ scale ≤ value :=
        leading.resolve_right (by have := fits.least; omega)
      simpa only [scaled, Nat.cast_pow, Nat.cast_ofNat] using normal
    have smaller : scaled other power < scaled (2 ^ 52) scale := scaled_lt_of_lt fits lt
    have nearest : |scaled n scale - value| ≤ |scaled (2 ^ 52) scale - value| := by
      rw [distance_scaled, distance_scaled]
      exact mul_le_mul_of_nonneg_right (isNearest.le_of_nat (2 ^ 52)).1 unit.le
    have farther : |scaled (2 ^ 52) scale - value| < |scaled other power - value| := by
      rw [abs_sub_comm, abs_of_nonneg (by linarith), abs_sub_comm, abs_of_nonneg (by linarith)]
      linarith
    exact ⟨(nearest.trans_lt farther).le, fun tie => absurd tie (nearest.trans_lt farther).ne'⟩

theorem NearestNat.le_nat {value : ℚ} {n : Nat} (isNearest : NearestNat value n) {bound : Nat}
    (le : value ≤ bound) : n ≤ bound := by
  by_contra more
  have moreRat : (bound : ℚ) + 1 ≤ n := by exact_mod_cast Nat.lt_of_not_le more
  have close := abs_le.mp isNearest.close
  linarith

theorem NearestNat.nat_le {value : ℚ} {n : Nat} (isNearest : NearestNat value n) {bound : Nat}
    (le : (bound : ℚ) ≤ value) : bound ≤ n := by
  by_contra less
  have lessRat : (n : ℚ) + 1 ≤ bound := by exact_mod_cast Nat.lt_of_not_le less
  have close := abs_le.mp isNearest.close
  linarith

theorem NearestNat.eq_two_pow_iff {value : ℚ} {n : Nat} (isNearest : NearestNat value n)
    (below : value < 2 ^ 53) : n = 2 ^ 53 ↔ 2 ^ 53 - 1 / 2 ≤ value := by
  have close := abs_le.mp isNearest.close
  constructor
  · rintro rfl
    push_cast at close
    linarith
  · intro from53
    by_contra less
    have n_le : n + 1 ≤ 2 ^ 53 := by
      have upTo : value ≤ (2 ^ 53 : Nat) := by exact_mod_cast below.le
      have n_upTo : n ≤ 2 ^ 53 := isNearest.le_nat upTo
      omega
    have n_le_rat : (n : ℚ) + 1 ≤ 2 ^ 53 := by exact_mod_cast n_le
    have tie : |(n : ℚ) - value| = 1 / 2 := by
      rw [abs_sub_comm, abs_of_nonneg (by linarith)]
      linarith
    have odd : n = 2 ^ 53 - 1 := by
      have n_ge_rat : (2 : ℚ) ^ 53 ≤ n + 1 := by linarith
      have n_ge : 2 ^ 53 ≤ n + 1 := by exact_mod_cast n_ge_rat
      omega
    have even := isNearest.even tie
    omega

theorem overflow_le_iff {scale : Int} :
    overflow ≤ (2 ^ 53 - 1 / 2) * 2 ^ scale ↔ greatestExponent ≤ scale := by
  have half : (0 : ℚ) < 2 ^ 53 - 1 / 2 := by norm_num
  have two : (1 : ℚ) < 2 := by norm_num
  rw [overflow, mul_le_mul_iff_right₀ half, zpow_le_zpow_iff_right₀ two]

section Scale

variable {value : ℚ} {n significand : Nat} {scale exponent : Int}

theorem NearestNat.nearestTo (isNearest : NearestNat (value / 2 ^ scale) n)
    (leading : 2 ^ 52 * 2 ^ scale ≤ value ∨ scale = leastExponent)
    (fits : Fits significand exponent) (same : scaled significand exponent = scaled n scale)
    (even : n % 2 = 0 → significand % 2 = 0) : NearestTo value significand exponent := by
  refine ⟨fits, ?_, ?_⟩
  · intro other power otherFits
    rw [same]
    exact (isNearest.le_of_fits leading otherFits).1
  · intro other power otherFits tie
    rw [same] at tie ⊢
    exact ((isNearest.le_of_fits leading otherFits).2 tie).imp_right even

theorem rounded_carried (negative : Bool) (isNearest : NearestNat (value / 2 ^ scale) (2 ^ 53))
    (least : leastExponent ≤ scale) (below : value < 2 ^ 53 * 2 ^ scale)
    (leading : 2 ^ 52 * 2 ^ scale ≤ value ∨ scale = leastExponent)
    (from53 : (2 ^ 53 - 1 / 2) * 2 ^ scale ≤ value) :
    Rounded negative value (if greatestExponent < scale + 1 then .infinite negative
      else .finite negative (2 ^ 52) (scale + 1)) := by
  split
  · rename_i beyond
    exact .infinite ((overflow_le_iff.mpr (by omega)).trans from53)
  · rename_i within
    refine .finite (below.trans_le ?_) ?_
    · calc (2 : ℚ) ^ 53 * 2 ^ scale = 2 ^ 52 * 2 ^ (scale + 1) := by
            rw [zpow_add₀ two_ne_zero]
            ring
        _ ≤ overflow := by
            rw [overflow]
            gcongr
            · norm_num
            · norm_num
            · omega
    · have fits : Fits (2 ^ 52) (scale + 1) := ⟨by norm_num, by omega, by omega, .inl le_rfl⟩
      exact isNearest.nearestTo leading fits (scaled_carry scale) (fun _ => by norm_num)

theorem rounded_narrow (negative : Bool) (isNearest : NearestNat (value / 2 ^ scale) n)
    (least : leastExponent ≤ scale) (narrow : n < 2 ^ 53)
    (leading : 2 ^ 52 * 2 ^ scale ≤ value ∨ scale = leastExponent)
    (below53 : value < (2 ^ 53 - 1 / 2) * 2 ^ scale) :
    Rounded negative value (if greatestExponent < scale then .infinite negative
      else .finite negative n scale) := by
  split
  · rename_i beyond
    have normal : 2 ^ 52 * 2 ^ scale ≤ value := by
      refine leading.resolve_right ?_
      rintro rfl
      exact absurd beyond (by decide)
    refine .infinite (le_trans ?_ normal)
    calc overflow ≤ (2 ^ 53 - 1 / 2) * 2 ^ (scale - 1) := overflow_le_iff.mpr (by omega)
      _ ≤ 2 ^ 52 * 2 ^ scale := by
          rw [zpow_sub₀ two_ne_zero]
          have unit : (0 : ℚ) < 2 ^ scale := by positivity
          linarith
  · rename_i within
    refine .finite (below53.trans_le ?_) ?_
    · rw [overflow]
      gcongr
      · norm_num
      · omega
    · refine isNearest.nearestTo leading ⟨narrow, least, by omega, ?_⟩ rfl id
      have unit : (0 : ℚ) < 2 ^ scale := by positivity
      refine leading.imp_left fun normal => isNearest.nat_le ?_
      rw [le_div_iff₀ unit]
      exact_mod_cast normal

end Scale

theorem rounded_ofQuotient (negative : Bool) (numeratorPos : 0 < numerator)
    (denominatorPos : 0 < denominator) :
    Rounded negative (numerator / denominator)
      (Double.ofQuotient negative numerator denominator) := by
  obtain ⟨least, below, leading⟩ := scaleOf_bounds numeratorPos denominatorPos
  set value : ℚ := numerator / denominator with valueEq
  set scale := scaleOf numerator denominator with scaleEq
  set n := roundDiv (numerator * twoTo (-scale)) (denominator * twoTo scale) with nEq
  have isNearest : NearestNat (value / 2 ^ scale) n := by
    have positive : 0 < denominator * twoTo scale := Nat.mul_pos denominatorPos (twoTo_pos scale)
    have nearest := nearestNat_roundDiv (numerator * twoTo (-scale)) positive
    have quotient : ((numerator * twoTo (-scale) : Nat) / (denominator * twoTo scale : Nat) : ℚ) =
        value / 2 ^ scale := by
      rw [← twoTo_div, valueEq]
      push_cast
      rw [div_div_div_eq]
    rwa [quotient] at nearest
  have unit : (0 : ℚ) < 2 ^ scale := by positivity
  have below53 : value / 2 ^ scale < 2 ^ 53 := by rwa [div_lt_iff₀ unit]
  have carries := isNearest.eq_two_pow_iff below53
  rw [le_div_iff₀ unit] at carries
  have powers : (twoTo 53 = 2 ^ 53) ∧ (twoTo 52 = 2 ^ 52) := ⟨rfl, rfl⟩
  unfold Double.ofQuotient
  simp only [← scaleEq, ← nEq, powers]
  by_cases carry : n = 2 ^ 53
  · rw [carry] at isNearest
    simpa only [carry, if_true] using
      rounded_carried negative isNearest least below leading (carries.mp carry)
  · have narrow : n < 2 ^ 53 := 
      (isNearest.le_nat (by exact_mod_cast below53.le)).lt_of_ne carry
    simpa only [carry, if_false] using
      rounded_narrow negative isNearest least narrow leading (not_le.mp (carry ∘ carries.mpr))

/-! Decimals far beyond the range of doubles. -/

theorem digitCount_bounds {n : Nat} (positive : 0 < n) :
    (10 : ℚ) ^ (digitCount n - 1 : Int) ≤ n ∧ (n : ℚ) < 10 ^ (digitCount n : Int) := by
  have count : 0 < digitCount n := Nat.length_toDigits_pos
  constructor
  · by_cases one : digitCount n = 1
    · have one_le : (1 : ℚ) ≤ n := by exact_mod_cast positive
      simpa [one] using one_le
    · have below : ¬ n < 10 ^ (digitCount n - 1) := by
        rw [← Nat.length_toDigits_le_iff (by decide) (by omega)]
        exact Nat.not_le.mpr (Nat.sub_lt count one_pos)
      have countEq : (digitCount n - 1 : Int) = (digitCount n - 1 : Nat) := by omega
      rw [countEq, zpow_natCast]
      exact_mod_cast Nat.not_lt.mp below
  · have below : n < 10 ^ digitCount n :=
      (Nat.length_toDigits_le_iff (by decide) count).mp le_rfl
    exact_mod_cast below

theorem magnitude_eq_div (decimal : Decimal) :
    decimal.magnitude = (decimal.digits * tenTo decimal.exponent : Nat) /
      (tenTo (-decimal.exponent) : Nat) := by
  rw [Decimal.magnitude, ← tenTo_div]
  push_cast
  ring

theorem one_lt_overflow : 1 < overflow := by
  have unit : (1 : ℚ) ≤ 2 ^ greatestExponent := one_le_zpow₀ (by norm_num) (by decide)
  rw [overflow]
  linarith

theorem overflow_le : overflow ≤ 10 ^ (310 : Int) := by
  have powers : 2 ^ 53 * 2 ^ 971 ≤ 10 ^ 310 := by decide +kernel
  have unit : (0 : ℚ) < 2 ^ greatestExponent := by positivity
  calc overflow ≤ 2 ^ 53 * 2 ^ greatestExponent := by
        rw [overflow]
        linarith
    _ ≤ 10 ^ (310 : Int) := by
        rw [greatestExponent]
        exact_mod_cast powers

theorem two_mul_ten_zpow_le : 2 * (10 : ℚ) ^ (-331 : Int) ≤ 2 ^ leastExponent := by
  have powers : 2 * 2 ^ 1074 ≤ 10 ^ 331 := by decide +kernel
  rw [leastExponent, zpow_neg, zpow_neg, ← div_eq_mul_inv, div_le_iff₀ (by positivity),
    ← div_eq_inv_mul, le_div_iff₀ (by positivity)]
  exact_mod_cast powers

/-- Less than half of the least double is rounded to zero. -/
theorem rounded_zero (negative : Bool) {value : ℚ} (nonneg : 0 ≤ value)
    (tiny : 2 * value ≤ 2 ^ leastExponent) : Rounded negative value (.zero negative) := by
  have zero : scaled 0 leastExponent = 0 := by simp [scaled]
  have small : (2 : ℚ) ^ leastExponent ≤ 1 := zpow_le_one_of_nonpos₀ (by norm_num) (by decide)
  refine .finite ?_ ⟨⟨by norm_num, le_rfl, by decide, .inr rfl⟩, ?_, fun _ _ _ _ => .inr rfl⟩
  · linarith [one_lt_overflow]
  · intro other power fits
    rw [zero, zero_sub, abs_neg, abs_of_nonneg nonneg]
    rcases Nat.eq_zero_or_pos other with rfl | positive
    · simp [scaled, abs_of_nonneg nonneg]
    · have least : (2 : ℚ) ^ leastExponent ≤ scaled other power := by
        have one_le : (1 : ℚ) ≤ other := by exact_mod_cast positive
        calc (2 : ℚ) ^ leastExponent ≤ 2 ^ power :=
              zpow_le_zpow_right₀ (by norm_num) fits.least
          _ ≤ scaled other power := le_mul_of_one_le_left (by positivity) one_le
      rw [abs_of_nonneg (by linarith)]
      linarith

/-- Decimals become the doubles that are nearest to them. -/
theorem rounded_nearest (decimal : Decimal) :
    Rounded decimal.negative decimal.magnitude (Double.nearest decimal) := by
  have ten : (10 : ℚ) ≠ 0 := by norm_num
  have one_le : (1 : ℚ) ≤ 10 := by norm_num
  unfold Double.nearest
  split
  · rename_i noDigits
    have zero : decimal.magnitude = 0 := by simp [Decimal.magnitude, noDigits]
    refine rounded_zero _ zero.ge ?_
    rw [zero, mul_zero]
    positivity
  · rename_i digits
    have positive : 0 < decimal.digits := Nat.pos_of_ne_zero digits
    obtain ⟨fromCount, belowCount⟩ := digitCount_bounds positive
    have unit : (0 : ℚ) < 10 ^ decimal.exponent := by positivity
    dsimp only
    split
    · rename_i beyond
      refine .infinite ?_
      calc overflow ≤ 10 ^ (310 : Int) := overflow_le
        _ ≤ 10 ^ (digitCount decimal.digits - 1 + decimal.exponent : Int) :=
            zpow_le_zpow_right₀ one_le (by omega)
        _ ≤ decimal.magnitude := by
            rw [zpow_add₀ ten, Decimal.magnitude]
            gcongr
    · split
      · rename_i tiny
        refine rounded_zero _ ?_ ?_
        · rw [Decimal.magnitude]
          positivity
        · calc 2 * decimal.magnitude
              ≤ 2 * 10 ^ (digitCount decimal.digits + decimal.exponent : Int) := by
                rw [zpow_add₀ ten, Decimal.magnitude]
                gcongr
            _ ≤ 2 * 10 ^ (-331 : Int) := by
                gcongr
                omega
            _ ≤ 2 ^ leastExponent := two_mul_ten_zpow_le
      · rw [magnitude_eq_div]
        exact rounded_ofQuotient _ (Nat.mul_pos positive (tenTo_pos _)) (tenTo_pos _)

/-! The rounding of a value is unique. -/

section Unique

variable {first second : Nat} {low high : Int}

theorem Fits.two_pow_le (fits : Fits second high) (lt : low < high)
    (least : leastExponent ≤ low) : scaled (2 ^ 52) high ≤ scaled second high := by
  have normal : 2 ^ 52 ≤ second := fits.leading.resolve_right (by omega)
  have normalRat : ((2 ^ 52 : Nat) : ℚ) ≤ second := by exact_mod_cast normal
  exact mul_le_mul_of_nonneg_right normalRat (by positivity)

theorem Fits.scaled_lt (fitsFirst : Fits first low) (fitsSecond : Fits second high)
    (lt : low < high) : scaled first low < scaled second high :=
  (scaled_lt_of_lt fitsFirst lt).trans_le (fitsSecond.two_pow_le lt fitsFirst.least)

theorem scaled_lt_iff {exponent : Int} :
    scaled first exponent < scaled second exponent ↔ first < second := by
  have unit : (0 : ℚ) < 2 ^ exponent := by positivity
  rw [scaled, scaled, mul_lt_mul_iff_left₀ unit, Nat.cast_lt]

theorem Fits.eq_of_scaled (fitsFirst : Fits first low) (fitsSecond : Fits second high)
    (same : scaled first low = scaled second high) : first = second ∧ low = high := by
  rcases lt_trichotomy low high with lt | rfl | gt
  · exact absurd same (fitsFirst.scaled_lt fitsSecond lt).ne
  · have notLess := scaled_lt_iff.not.mp same.not_lt
    have notMore := scaled_lt_iff.not.mp same.not_gt
    exact ⟨by omega, rfl⟩
  · exact absurd same (fitsSecond.scaled_lt fitsFirst gt).ne'

/-- No double lies between one and the one with the next significand. -/
theorem Fits.succ_le (fitsFirst : Fits first low) (fitsSecond : Fits second high)
    (less : scaled first low < scaled second high) :
    scaled (first + 1) low ≤ scaled second high := by
  rcases lt_trichotomy low high with lt | rfl | gt
  · have narrow : ((first + 1 : Nat) : ℚ) ≤ (2 ^ 53 : Nat) := by exact_mod_cast fitsFirst.narrow
    calc scaled (first + 1) low ≤ scaled (2 ^ 53) low :=
          mul_le_mul_of_nonneg_right narrow (by positivity)
      _ = scaled (2 ^ 52) (low + 1) := (scaled_carry low).symm
      _ ≤ scaled (2 ^ 52) high :=
          mul_le_mul_of_nonneg_left (zpow_le_zpow_right₀ one_le_two (by omega)) (by positivity)
      _ ≤ scaled second high := fitsSecond.two_pow_le lt fitsFirst.least
  · have fewer : first < second := scaled_lt_iff.mp less
    exact not_lt.mp (scaled_lt_iff.not.mpr (by omega))
  · exact absurd less (fitsSecond.scaled_lt fitsFirst gt).not_gt

theorem NearestTo.not_less {value : ℚ} (isFirst : NearestTo value first low)
    (isSecond : NearestTo value second high) : ¬ scaled first low < scaled second high := by
  intro less
  have tie : |scaled second high - value| = |scaled first low - value| :=
    le_antisymm (isSecond.nearest first low isFirst.fits)
      (isFirst.nearest second high isSecond.fits)
  have firstEven : first % 2 = 0 :=
    (isFirst.even second high isSecond.fits tie).resolve_left less.ne'
  have secondEven : second % 2 = 0 :=
    (isSecond.even first low isFirst.fits tie.symm).resolve_left less.ne
  -- An even significand is not the greatest one, so the next one is a double's too.
  have next : Fits (first + 1) low := by
    have narrow := isFirst.fits.narrow
    exact ⟨by omega, isFirst.fits.least, isFirst.fits.greatest,
      isFirst.fits.leading.imp_left (by omega)⟩
  have middle : scaled first low + scaled second high = 2 * value := by
    rcases abs_eq_abs.mp tie with same | opposite
    · linarith
    · linarith
  have above : scaled first low < scaled (first + 1) low :=
    scaled_lt_iff.mpr (Nat.lt_succ_self _)
  have reached : scaled (first + 1) low = scaled second high := by
    refine (isFirst.fits.succ_le isSecond.fits less).antisymm (not_lt.mp fun before => ?_)
    have farther : |scaled first low - value| ≤ |scaled (first + 1) low - value| :=
      isFirst.nearest (first + 1) low next
    rw [abs_of_neg (by linarith), le_abs] at farther
    rcases farther with high | low <;> linarith
  have successor : first + 1 = second := (next.eq_of_scaled isSecond.fits reached).1
  omega

theorem Rounded.unique {negative : Bool} {value : ℚ} {first second : Double}
    (isFirst : Rounded negative value first) (isSecond : Rounded negative value second) :
    first = second := by
  cases isFirst with
  | finite below nearest =>
      cases isSecond with
      | finite _ otherNearest =>
          have same := (not_lt.mp (otherNearest.not_less nearest)).antisymm
            (not_lt.mp (nearest.not_less otherNearest))
          obtain ⟨rfl, rfl⟩ := nearest.fits.eq_of_scaled otherNearest.fits same
          rfl
      | infinite beyond => exact absurd below beyond.not_gt
  | infinite beyond =>
      cases isSecond with
      | finite below _ => exact absurd below beyond.not_gt
      | infinite _ => rfl

end Unique

end CurlScript.Number
