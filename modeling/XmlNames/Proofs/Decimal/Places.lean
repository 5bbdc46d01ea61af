import XmlNames.Proofs.Binary64.Value
import XmlNames.Proofs.Decimal.Layout
import XmlNames.Proofs.Decimal.Shortest

set_option autoImplicit false

namespace XmlNames.Decimal

open Binary64 Json.Numeral

theorem pow_length_digits_le {n : Nat} (positive : 0 < n) : 10 ^ ((digits n).length - 1) ≤ n := by
  have nonempty : 0 < (digits n).length := List.length_pos_iff.2 Nat.toDigits_ne_nil
  by_contra less
  rw [not_le] at less
  rcases Nat.eq_zero_or_pos ((digits n).length - 1) with single | several
  · rw [single] at less
    omega
  · have fewer := (Nat.length_toDigits_le_iff (by decide) several).2 less
    rw [digits] at fewer nonempty
    omega

theorem lt_pow_length_digits (n : Nat) : n < 10 ^ (digits n).length :=
  (Nat.length_toDigits_le_iff (by decide) (List.length_pos_iff.2 Nat.toDigits_ne_nil)).1 le_rfl

theorem valueOf_lt {cs : List Char} (numeric : ∀ c ∈ cs, c.isDigit) : valueOf cs < 10 ^ cs.length := by
  induction cs using List.reverseRecOn with
  | nil => decide
  | append_singleton front last ih =>
    obtain ⟨front_digits, last_digit⟩ := List.forall_mem_append.1 numeric
    have less := ih front_digits
    have digit : valueOf [last] < 10 := by
      have single : last.isDigit := last_digit last (by simp)
      simp [Char.isDigit] at single
      have high : last.toNat ≤ 57 := UInt32.le_iff_toNat_le.1 single.2
      change 10 * 0 + (last.toNat - 48) < 10
      omega
    rw [valueOf_append, List.length_append, List.length_singleton, pow_succ]
    omega

theorem digits_mul_pow {n : Nat} (positive : 0 < n) (count : Nat) :
    digits (n * 10 ^ count) = digits n ++ List.replicate count '0' := by
  induction count with
  | zero => simp
  | succ count ih =>
    have step := Nat.toDigits_append_toDigits (b := 10) (n := n * 10 ^ count) (d := 0) (by decide)
      (by positivity) (by decide)
    have shifted : n * 10 ^ (count + 1) = 10 * (n * 10 ^ count) + 0 := by ring
    rw [shifted, digits, ← step]
    rw [digits] at ih
    rw [ih, List.append_assoc, List.replicate_succ']
    rfl

theorem significant_mul_pow (n count : Nat) (e e' : Int) :
    significant ⟨n * 10 ^ count, e⟩ = significant ⟨n, e'⟩ := by
  rcases Nat.eq_zero_or_pos n with rfl | positive
  · rw [Nat.zero_mul]
    rfl
  · unfold significant
    rw [digits_mul_pow positive, List.reverse_append, List.reverse_replicate,
      List.dropWhile_append_of_pos (by simp)]

theorem length_significant_le {d : Decimal} {count : Nat} (some_digit : 0 < count)
    (bound : d.coefficient ≤ 10 ^ count) : d.significant.length ≤ count := by
  rcases Nat.lt_or_eq_of_le bound with less | equal
  · obtain ⟨dropped, split⟩ := d.significant_spec
    have whole := (Nat.length_toDigits_le_iff (by decide) some_digit).2 less
    change (digits d.coefficient).length ≤ count at whole
    rw [split, List.length_append] at whole
    omega
  · -- A power of ten has a single digit.
    have power : d = ⟨1 * 10 ^ count, d.exponent⟩ := by
      rw [Nat.one_mul, ← equal]
    have single : (significant ⟨1, 0⟩).length = 1 := by decide
    rw [power, significant_mul_pow 1 count _ 0, single]
    exact some_digit

theorem exists_significand_value {d : Decimal} {count : Nat} (few : d.significant.length ≤ count) :
    ∃ s : Nat, ∃ power : Int, s < 10 ^ count ∧ d.value = s * 10 ^ power := by
  refine ⟨valueOf d.significant, d.point - d.significant.length, ?_, d.value_significant.symm⟩
  exact lt_of_lt_of_le (valueOf_lt d.isDigit_significant) (Nat.pow_le_pow_right (by decide) few)

def scaled (m : Nat) (exponent : Int) : Nat := units m * tenTo (-exponent).toNat

def step (exponent : Int) : Nat := unitsInOne * tenTo exponent.toNat

def floorAt (m : Nat) (exponent : Int) : Nat := scaled m exponent / step exponent

def below (m : Nat) (exponent : Int) : Decimal := ⟨floorAt m exponent, exponent⟩

def above (m : Nat) (exponent : Int) : Decimal := ⟨floorAt m exponent + 1, exponent⟩

section Neighbours

variable (m : Nat) (exponent : Int)

theorem cast_step_pos : (0 : ℚ) < step exponent := by
  exact_mod_cast Nat.mul_pos unitsInOne_pos (tenTo_pos exponent.toNat)

theorem amount_div_pow : amount m / 10 ^ exponent = scaled m exponent / step exponent := by
  rw [ten_zpow_eq_div, amount, div_div_div_eq, scaled, step, Nat.cast_mul, Nat.cast_mul]

theorem floorAt_eq : floorAt m exponent = ⌊amount m / 10 ^ exponent⌋₊ := by
  rw [amount_div_pow, Nat.floor_div_eq_div, floorAt]

theorem below_le : (below m exponent).value ≤ amount m := by
  have power : (0 : ℚ) < 10 ^ exponent := by positivity
  rw [value, below, ← le_div_iff₀ power, floorAt_eq]
  exact Nat.floor_le (div_nonneg (amount_nonneg m) power.le)

theorem lt_above : amount m < (above m exponent).value := by
  have power : (0 : ℚ) < 10 ^ exponent := by positivity
  rw [value, above, ← div_lt_iff₀ power, floorAt_eq]
  push_cast
  exact Nat.lt_floor_add_one _

theorem above_eq : (above m exponent).value = (below m exponent).value + 10 ^ exponent := by
  rw [value, value, above, below]
  push_cast
  ring

theorem mul_sub_below :
    (step exponent : ℚ) * (amount m - (below m exponent).value) =
      (scaled m exponent % step exponent : ℕ) * 10 ^ exponent := by
  have power : (10 : ℚ) ^ exponent ≠ 0 := by positivity
  have quotient := amount_div_pow m exponent
  have split := Nat.div_add_mod (scaled m exponent) (step exponent)
  rw [div_eq_div_iff power (cast_step_pos exponent).ne'] at quotient
  rw [mul_sub, mul_comm, quotient, value, below, floorAt]
  nth_rewrite 1 [← split]
  push_cast
  ring

theorem below_nearer (half : 2 * (scaled m exponent % step exponent) ≤ step exponent) :
    amount m - (below m exponent).value ≤ (above m exponent).value - amount m := by
  have short : 2 * (amount m - (below m exponent).value) ≤ 10 ^ exponent := by
    apply le_of_mul_le_mul_left _ (cast_step_pos exponent)
    rw [mul_left_comm, mul_sub_below, ← mul_assoc]
    exact mul_le_mul_of_nonneg_right (by exact_mod_cast half) (by positivity)
  rw [above_eq]
  linarith

theorem above_nearer (half : step exponent ≤ 2 * (scaled m exponent % step exponent)) :
    (above m exponent).value - amount m ≤ amount m - (below m exponent).value := by
  have long : 10 ^ exponent ≤ 2 * (amount m - (below m exponent).value) := by
    apply le_of_mul_le_mul_left _ (cast_step_pos exponent)
    rw [mul_left_comm, mul_sub_below, ← mul_assoc]
    exact mul_le_mul_of_nonneg_right (by exact_mod_cast half) (by positivity)
  rw [above_eq]
  linarith

theorem neighbours_cases (tie : Tie) :
    (neighbours tie m exponent = [below m exponent, above m exponent] ∧
      amount m - (below m exponent).value ≤ (above m exponent).value - amount m) ∨
    (neighbours tie m exponent = [above m exponent, below m exponent] ∧
      (above m exponent).value - amount m ≤ amount m - (below m exponent).value) := by
  dsimp only [neighbours]
  split_ifs with preferred
  · exact .inl ⟨rfl, below_nearer m exponent (by unfold scaled step; omega)⟩
  · exact .inr ⟨rfl, above_nearer m exponent (by unfold scaled step; omega)⟩

-- No multiple of the step lies between the two.
theorem outside_of_grid (k : Nat) :
    k * (10 : ℚ) ^ exponent ≤ (below m exponent).value ∨ (above m exponent).value ≤ k * (10 : ℚ) ^ exponent := by
  have power : (0 : ℚ) < 10 ^ exponent := by positivity
  rcases Nat.lt_or_ge (floorAt m exponent) k with higher | lower
  · right
    exact mul_le_mul_of_nonneg_right (by exact_mod_cast higher) power.le
  · left
    exact mul_le_mul_of_nonneg_right (by exact_mod_cast lower) power.le

end Neighbours

theorem pow_grid (power : Nat) (exponent : Int) :
    ((10 ^ power : ℕ) : ℚ) * 10 ^ exponent = 10 ^ (exponent + power) := by
  rw [Nat.cast_pow, ← zpow_natCast, Nat.cast_ofNat, ← zpow_add₀ (by norm_num), add_comm]

section Leading

variable {m count : Nat}

theorem leadingPlace_eq : leadingPlace m = (digits (floorAt m (-324))).length - 324 := rfl

theorem floorAt_finest_pos (positive : 0 < m) : 0 < floorAt m (-324) := by
  have fine : unitsInOne * tenTo 0 ≤ tenTo 324 := by decide +kernel
  have unit : 1 ≤ units m := by
    have first := units_strictMono positive
    omega
  exact Nat.div_pos (le_trans fine (Nat.le_mul_of_pos_left _ unit))
    (Nat.mul_pos unitsInOne_pos (tenTo_pos 0))

theorem leadingPlace_spec (positive : 0 < m) :
    (10 : ℚ) ^ (leadingPlace m - 1) ≤ amount m ∧ amount m < 10 ^ leadingPlace m := by
  have nonempty : 0 < (digits (floorAt m (-324))).length := List.length_pos_iff.2 Nat.toDigits_ne_nil
  have power : (0 : ℚ) < 10 ^ (-324 : Int) := by positivity
  rw [leadingPlace_eq]
  constructor
  · have low : ((10 ^ ((digits (floorAt m (-324))).length - 1) : ℕ) : ℚ) ≤ floorAt m (-324) := by
      exact_mod_cast pow_length_digits_le (floorAt_finest_pos positive)
    calc (10 : ℚ) ^ (((digits (floorAt m (-324))).length : Int) - 324 - 1)
        = (10 ^ ((digits (floorAt m (-324))).length - 1) : ℕ) * 10 ^ (-324 : Int) := by
          rw [pow_grid]
          congr 1
          omega
      _ ≤ (below m (-324)).value := mul_le_mul_of_nonneg_right low power.le
      _ ≤ amount m := below_le m (-324)
  · have high : ((floorAt m (-324) + 1 : ℕ) : ℚ) ≤ (10 ^ (digits (floorAt m (-324))).length : ℕ) := by
      exact_mod_cast lt_pow_length_digits (floorAt m (-324))
    calc amount m < (above m (-324)).value := lt_above m (-324)
      _ ≤ (10 ^ (digits (floorAt m (-324))).length : ℕ) * 10 ^ (-324 : Int) :=
        mul_le_mul_of_nonneg_right high power.le
      _ = 10 ^ (((digits (floorAt m (-324))).length : Int) - 324) := by
          rw [pow_grid]
          congr 1

theorem pow_le_below (positive : 0 < m) (some_digit : 0 < count) :
    (10 : ℚ) ^ (leadingPlace m - 1) ≤ (below m (leadingPlace m - count)).value := by
  have same : ((10 ^ (count - 1) : ℕ) : ℚ) * 10 ^ (leadingPlace m - count) = 10 ^ (leadingPlace m - 1) := by
    rw [pow_grid]
    congr 1
    omega
  rcases outside_of_grid m (leadingPlace m - count) (10 ^ (count - 1)) with low | high
  · rwa [same] at low
  · rw [same] at high
    have reached := (leadingPlace_spec positive).1
    have beyond := lt_above m (leadingPlace m - count)
    linarith

theorem coefficient_above_le (positive : 0 < m) (count : Nat) :
    (above m (leadingPlace m - count)).coefficient ≤ 10 ^ count := by
  have power : (0 : ℚ) < 10 ^ (leadingPlace m - count) := by positivity
  have same : ((10 ^ count : ℕ) : ℚ) * 10 ^ (leadingPlace m - count) = 10 ^ leadingPlace m := by
    rw [pow_grid, sub_add_cancel]
  rcases outside_of_grid m (leadingPlace m - count) (10 ^ count) with low | high
  · rw [same] at low
    have short := (leadingPlace_spec positive).2
    have reached := below_le m (leadingPlace m - count)
    linarith
  · have less := le_of_mul_le_mul_right high power
    exact_mod_cast less

theorem outside_neighbours {d : Decimal} (positive : 0 < m) (some_digit : 0 < count)
    (few : d.significant.length ≤ count) :
    d.value ≤ (below m (leadingPlace m - count)).value ∨ (above m (leadingPlace m - count)).value ≤ d.value := by
  obtain ⟨s, power, bound, same⟩ := exists_significand_value few
  rw [same]
  rcases le_or_gt (leadingPlace m - count) power with coarse | fine
  -- A decimal that ends before the place or in it is a multiple of the step.
  · obtain ⟨more, rfl⟩ := Int.le.dest coarse
    have grid := outside_of_grid m (leadingPlace m - count) (s * 10 ^ more)
    rwa [Nat.cast_mul, mul_assoc, pow_grid] at grid
  -- One that ends behind it has its first digit behind the leading place.
  · left
    have less : (s : ℚ) ≤ (10 ^ count : ℕ) := by exact_mod_cast bound.le
    calc (s : ℚ) * 10 ^ power ≤ (10 ^ count : ℕ) * 10 ^ power :=
          mul_le_mul_of_nonneg_right less (by positivity)
      _ = 10 ^ (power + count) := pow_grid count power
      _ ≤ 10 ^ (leadingPlace m - 1) := zpow_le_zpow_right₀ (by norm_num) (by omega)
      _ ≤ (below m (leadingPlace m - count)).value := pow_le_below positive some_digit

end Leading

end XmlNames.Decimal
