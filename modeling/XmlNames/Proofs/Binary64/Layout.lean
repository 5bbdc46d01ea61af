import XmlNames.Proofs.Binary64.Order
import XmlNames.Proofs.Decimal.Minimal
import XmlNames.Proofs.Decimal.Shape

set_option autoImplicit false

namespace XmlNames

namespace Decimal

open Binary64

theorem lt_point_iff {d : Decimal} (positive : 0 < d.coefficient) {place : Int} :
    place < d.point ↔ 10 ^ place ≤ d.value := by
  have ten : (1 : ℚ) < 10 := by norm_num
  have step : (0 : ℚ) < 10 ^ d.exponent := by positivity
  constructor
  · intro before
    have leading : ((10 ^ ((digits d.coefficient).length - 1) : ℕ) : ℚ) ≤ d.coefficient := by
      exact_mod_cast pow_length_digits_le positive
    have reached : place ≤ d.exponent + ((digits d.coefficient).length - 1 : ℕ) := by
      rw [point] at before
      omega
    calc (10 : ℚ) ^ place ≤ 10 ^ (d.exponent + ((digits d.coefficient).length - 1 : ℕ)) :=
          zpow_le_zpow_right₀ ten.le reached
      _ = (10 ^ ((digits d.coefficient).length - 1) : ℕ) * 10 ^ d.exponent := (pow_grid _ _).symm
      _ ≤ d.value := mul_le_mul_of_nonneg_right leading step.le
  · intro reached
    have leading : (d.coefficient : ℚ) < (10 ^ (digits d.coefficient).length : ℕ) := by
      exact_mod_cast lt_pow_length_digits d.coefficient
    have short : d.value < 10 ^ d.point := by
      calc d.value < (10 ^ (digits d.coefficient).length : ℕ) * 10 ^ d.exponent :=
            mul_lt_mul_of_pos_right leading step
        _ = 10 ^ d.point := pow_grid _ _
    exact (zpow_lt_zpow_iff_right₀ ten).1 (lt_of_le_of_lt reached short)

section Shortest

variable {x t : Binary64} (tie : Tie)

theorem coefficient_shortest_pos (finite : x.IsFinite) (nonzero : ¬x.IsZero) :
    0 < (shortest tie x.magnitude).coefficient := by
  apply coefficient_pos
  rw [magnitude_shortest tie finite.le]
  exact Nat.pos_of_ne_zero nonzero

theorem lt_point_shortest_iff {place : Int} (near : IsNearest (10 ^ place) t.unsigned)
    (own : place < (shortest tie t.magnitude).point) (finite : x.IsFinite) (nonzero : ¬x.IsZero) :
    place < (shortest tie x.magnitude).point ↔ (t.magnitude : Nat) ≤ x.magnitude := by
  have rounds : IsNearest (shortest tie x.magnitude).value x.unsigned :=
    isNearest_iff_magnitude.2 (magnitude_shortest tie finite.le)
  constructor
  · intro before
    rw [lt_point_iff (coefficient_shortest_pos tie finite nonzero)] at before
    have ordered := near.mono before rounds
    rwa [value_unsigned, value_unsigned, amount_strictMono.le_iff_le] at ordered
  · intro ordered
    rcases Nat.eq_or_lt_of_le ordered with same | above
    · rwa [← same]
    · by_contra behind
      rw [lt_point_iff (coefficient_shortest_pos tie finite nonzero), not_le] at behind
      have reversed := rounds.mono behind.le near
      rw [value_unsigned, value_unsigned, amount_strictMono.le_iff_le] at reversed
      omega

end Shortest

end Decimal

namespace Binary64

open Decimal

theorem isNearest_ofRatio (num : Nat) {den : Nat} (pos : 0 < den) :
    IsNearest (num / den) (ofRatio false num den) := by
  have near := isNearest_of_nearest (x := ofRatio false num den) pos rfl
  rwa [sign, if_neg (by simp [ofRatio]), one_mul] at near

def leastPositional : Binary64 := ofRatio false 1 1000000

theorem value_leastPositional : leastPositional.value = amount leastPositional.magnitude :=
  value_unsigned leastPositional

theorem isNearest_leastPositional : IsNearest (10 ^ (-6 : Int)) leastPositional := by
  have positive : 0 < 1000000 := by decide
  have near := isNearest_ofRatio 1 positive
  have power : ((1 : ℕ) / (1000000 : ℕ) : ℚ) = 10 ^ (-6 : Int) := by norm_num
  rwa [power] at near

section Notation

variable {x : Binary64} (finite : x.IsFinite) (nonzero : ¬x.IsZero)

include finite nonzero

-- The decimal of a number that is a power of ten is found by computing.
theorem lt_point_iff_le_value (power : Nat)
    (same : units (nearest (10 ^ power) 1) = 10 ^ power * unitsInOne)
    (own : power < (shortest .upward (nearest (10 ^ power) 1)).point) :
    power < (shortest .upward x.magnitude).point ↔ 10 ^ power ≤ |x.value| := by
  have near := isNearest_ofRatio (10 ^ power) Nat.zero_lt_one
  have whole := amount_eq_of_units same
  rw [Nat.cast_one, div_one, Nat.cast_pow, Nat.cast_ofNat, ← zpow_natCast] at near
  rw [Nat.cast_pow, Nat.cast_ofNat] at whole
  rw [lt_point_shortest_iff .upward (t := ofRatio false (10 ^ power) 1) near own finite nonzero, abs_value, ← whole,
    amount_strictMono.le_iff_le]
  rfl

theorem lt_point_iff_leastPositional :
    -6 < (shortest .upward x.magnitude).point ↔ leastPositional.value ≤ |x.value| := by
  have own : -6 < (shortest .upward leastPositional.magnitude).point := by decide +kernel
  rw [lt_point_shortest_iff .upward (t := leastPositional) isNearest_leastPositional own finite nonzero, abs_value,
    value_leastPositional, amount_strictMono.le_iff_le]

theorem near_point_iff :
    (scriptStyle.leastPoint ≤ (shortest .upward x.magnitude).point ∧
        (shortest .upward x.magnitude).point ≤ scriptStyle.mostPoint) ↔
      ¬(10 ^ 21 ≤ |x.value| ∨ |x.value| < leastPositional.value) := by
  have large := lt_point_iff_le_value finite nonzero 21 (by decide +kernel) (by decide +kernel)
  have small := lt_point_iff_leastPositional finite nonzero
  rw [not_or, ← large, not_lt, not_lt, ← small]
  change -5 ≤ (shortest .upward x.magnitude).point ∧ (shortest .upward x.magnitude).point ≤ 21 ↔ _
  omega

theorem point_le_zero_iff : (shortest .upward x.magnitude).point ≤ 0 ↔ |x.value| < 1 := by
  have one := lt_point_iff_le_value finite nonzero 0 (by decide +kernel) (by decide +kernel)
  rw [pow_zero, Nat.cast_zero] at one
  rw [← not_lt, one, not_le]

end Notation

theorem scriptStyle_tie : scriptStyle.tie = .upward := rfl

theorem value_neg_iff {x : Binary64} : x.value < 0 ↔ x.negative = true ∧ ¬x.IsZero := by
  by_cases zero : x.IsZero
  · have nothing : (x.magnitude : Nat) = 0 := zero
    simp [value, nothing, amount_zero, zero]
  · have positive : 0 < amount x.magnitude := amount_pos_iff.2 (Nat.pos_of_ne_zero zero)
    cases negative : x.negative with
    | false => simp [value, sign, negative, positive.le]
    | true => simp [value, sign, negative, positive, zero]

section Written

variable {x : Binary64} (finite : x.IsFinite) (nonzero : ¬x.IsZero)

include finite nonzero

theorem write?_eq : scriptStyle.write? x.magnitude = some (scriptStyle.write x.magnitude) := by
  have significant := areSignificant_significant (coefficient_shortest_pos scriptStyle.tie finite nonzero)
  rw [Style.write?_eq_layout?, Style.write_eq_layout, layout?_eq scriptStyle significant.numeric.1]

theorem exponential_write (far : 10 ^ 21 ≤ |x.value| ∨ |x.value| < leastPositional.value) :
    Exponential (scriptStyle.write x.magnitude) := by
  have outside := (near_point_iff finite nonzero).not_left.2 far
  have significant := areSignificant_significant (coefficient_shortest_pos .upward finite nonzero)
  rw [Style.write_eq_layout, scriptStyle_tie, Style.layout, if_neg outside]
  apply exponential_shape significant
  intro first
  rw [first] at outside
  exact outside (by decide)

theorem write_eq_positional (near : ¬(10 ^ 21 ≤ |x.value| ∨ |x.value| < leastPositional.value)) :
    scriptStyle.write x.magnitude =
      positional (shortest .upward x.magnitude).significant (shortest .upward x.magnitude).point := by
  have inside := (near_point_iff finite nonzero).2 near
  have unmarked : ¬(scriptStyle.marksWhole = true ∧
      ((shortest .upward x.magnitude).significant.length : Int) ≤ (shortest .upward x.magnitude).point) :=
    fun marked => absurd marked.1 (by decide)
  rw [Style.write_eq_layout, scriptStyle_tie, Style.layout, if_pos inside, if_neg unmarked]

theorem positional_write (near : ¬(10 ^ 21 ≤ |x.value| ∨ |x.value| < leastPositional.value)) :
    ∃ whole, Positional whole (scriptStyle.write x.magnitude) ∧ (whole = ['0'] ↔ |x.value| < 1) := by
  have significant := areSignificant_significant (coefficient_shortest_pos .upward finite nonzero)
  rw [write_eq_positional finite nonzero near, ← point_le_zero_iff finite nonzero]
  exact positional_shape significant

theorem head_write : (scriptStyle.write x.magnitude).head? ≠ some '-' := by
  by_cases far : 10 ^ 21 ≤ |x.value| ∨ |x.value| < leastPositional.value
  · exact (exponential_write finite nonzero far).head_ne
  · obtain ⟨whole, positional, -⟩ := positional_write finite nonzero far
    exact positional.head_ne

theorem toText_signed : x.toText.toList =
    if x.value < 0 then '-' :: scriptStyle.write x.magnitude else scriptStyle.write x.magnitude := by
  rw [toText_nonzero finite nonzero]
  cases negative : x.negative <;> simp [value_neg_iff, negative, nonzero]

end Written

theorem not_isZero_of_infinite {x : Binary64} (infinite : x.IsInfinite) : ¬x.IsZero := by
  intro zero
  exact absurd (infinite.symm.trans zero) (by decide)

theorem head_toText_iff (x : Binary64) : x.toText.toList.head? = some '-' ↔ ¬x.IsNaN ∧ x.value < 0 := by
  rcases x.trichotomy with nan | infinite | finite
  · simp [toText_nan nan, nan]
  · have number : ¬x.IsNaN := infinite.not_gt
    have nonzero := not_isZero_of_infinite infinite
    rw [toText_infinite infinite]
    cases negative : x.negative <;> simp [value_neg_iff, negative, number, nonzero]
  · have number : ¬x.IsNaN := lt_asymm finite
    by_cases zero : x.IsZero
    · simp [toText_zero zero, value_neg_iff, zero]
    · have head := head_write finite zero
      rw [toText_signed finite zero]
      split_ifs with negative
      · simp [number, negative]
      · simp [head, negative]

theorem text_layout (x : Binary64) :
    (x.toText.toList.head? = some '-' ↔ ¬x.IsNaN ∧ x.value < 0) ∧
    (x.IsNaN → x.toText = "NaN") ∧
    (x.IsInfinite → x.toText = if x.value < 0 then "-Infinity" else "Infinity") ∧
    (x.IsZero → x.toText = "0") ∧
    IsNearest (10 ^ (-6 : Int)) leastPositional ∧
    (x.IsFinite → ¬x.IsZero → ∃ body,
      scriptStyle.write? x.magnitude = some body ∧
      x.toText.toList = (if x.value < 0 then '-' :: body else body) ∧
      (Exponential body ↔ 10 ^ 21 ≤ |x.value| ∨ |x.value| < leastPositional.value) ∧
      (¬Exponential body → ∃ whole, Positional whole body ∧ (whole = ['0'] ↔ |x.value| < 1))) := by
  refine ⟨head_toText_iff x, toText_nan, ?_, toText_zero, isNearest_leastPositional, ?_⟩
  · intro infinite
    have nonzero := not_isZero_of_infinite infinite
    rw [toText_infinite infinite]
    cases negative : x.negative <;> simp [value_neg_iff, negative, nonzero]
  · intro finite nonzero
    have form : Exponential (scriptStyle.write x.magnitude) ↔
        10 ^ 21 ≤ |x.value| ∨ |x.value| < leastPositional.value := by
      refine ⟨fun exponential => ?_, exponential_write finite nonzero⟩
      by_contra near
      obtain ⟨whole, positional, -⟩ := positional_write finite nonzero near
      exact positional.not_exponential exponential
    refine ⟨_, write?_eq finite nonzero, toText_signed finite nonzero, form, ?_⟩
    intro other
    exact positional_write finite nonzero (mt form.2 other)

theorem text_layout_below_a_millionth :
    let x := ofBits 0xBEB0C6F7A0B5ED8C
    x.IsFinite ∧ ¬x.IsZero ∧ (x.magnitude : Nat) + 1 = leastPositional.magnitude ∧
      leastPositional.toText = "0.000001" ∧ x.toText = "-9.999999999999997e-7" ∧
      ∃ body, '-' :: body = "-9.999999999999997e-7".toList ∧ Exponential body := by
  intro x
  have finite : x.IsFinite := by decide
  have nonzero : ¬x.IsZero := by decide
  have last : (x.magnitude : Nat) + 1 = leastPositional.magnitude := by decide +kernel
  have text : x.toText = "-9.999999999999997e-7" := by decide +kernel
  have below : |x.value| < leastPositional.value := by
    rw [value_leastPositional, abs_value]
    exact amount_strictMono (by omega)
  obtain ⟨-, -, -, -, -, written⟩ := text_layout x
  obtain ⟨body, -, shown, form, -⟩ := written finite nonzero
  rw [text, if_pos (value_neg_iff.2 ⟨rfl, nonzero⟩)] at shown
  exact ⟨finite, nonzero, last, by decide +kernel, text, body, shown.symm, form.2 (.inr below)⟩

end Binary64

end XmlNames
