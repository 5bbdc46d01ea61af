import Mathlib
import XmlNames.Binary64.Rounding

set_option autoImplicit false

namespace XmlNames.Binary64

theorem binade_eq : binade = 2 ^ 52 := by decide

theorem binade_pos : 0 < binade := by decide

theorem unitsInOne_pos : 0 < unitsInOne := by
  rw [unitsInOne, Nat.shiftLeft_eq]
  positivity

theorem units_significand {shift r : Nat} (low : shift = 0 ∨ binade ≤ r) (high : r ≤ 2 * binade) :
    units (shift * binade + r) = r * 2 ^ shift := by
  have pos := binade_pos
  unfold units
  -- Only that it is positive matters, and as a numeral it would be computed with.
  generalize binade = B at *
  rcases Nat.lt_or_ge r B with small | large
  · have zero : shift = 0 := by omega
    simp [zero, small]
  · have outside : ¬shift * B + r < B := by
      have := Nat.zero_le (shift * B)
      omega
    rw [if_neg outside, Nat.shiftLeft_eq]
    rcases Nat.lt_or_ge r (2 * B) with inside | carry
    · obtain ⟨f, rfl⟩ := Nat.exists_eq_add_of_le large
      have fraction : f < B := by omega
      have split : shift * B + (B + f) = f + B * (shift + 1) := by ring
      rw [split, Nat.add_mul_mod_self_left, Nat.mod_eq_of_lt fraction,
        Nat.add_mul_div_left _ _ pos, Nat.div_eq_of_lt fraction]
      simp
    -- The carry is the first magnitude of the next binade, where the step is twice as large.
    · have same : r = 2 * B := by omega
      have split : shift * B + r = 0 + B * (shift + 2) := by rw [same]; ring
      have next : shift + 2 - 1 = shift + 1 := rfl
      rw [split, Nat.add_mul_mod_self_left, Nat.add_mul_div_left _ _ pos, same, Nat.zero_mod,
        Nat.zero_div, Nat.zero_add, next, pow_succ]
      ring

theorem exists_significand (m : Nat) :
    ∃ shift r, m = shift * binade + r ∧ (shift = 0 ∨ binade ≤ r) ∧ r < 2 * binade := by
  have pos := binade_pos
  have whole := Nat.div_add_mod m binade
  have rest := Nat.mod_lt m pos
  rw [Nat.mul_comm] at whole
  cases split : m / binade with
  | zero => exact ⟨0, m % binade, by simp_all, .inl rfl, by omega⟩
  | succ shift =>
    rw [split, Nat.add_mul] at whole
    exact ⟨shift, binade + m % binade, by omega, .inr (by omega), by omega⟩

theorem units_grid (m shift : Nat) :
    (∃ k, units m = k * 2 ^ shift) ∨ units m < binade * 2 ^ shift := by
  obtain ⟨own, r, rfl, low, high⟩ := exists_significand m
  rw [units_significand low high.le]
  rcases Nat.lt_or_ge own shift with finer | coarser
  · right
    calc r * 2 ^ own < 2 * binade * 2 ^ own := Nat.mul_lt_mul_of_pos_right high (by positivity)
      _ = binade * 2 ^ (own + 1) := by ring
      _ ≤ binade * 2 ^ shift := Nat.mul_le_mul_left _ (Nat.pow_le_pow_right (by decide) finer)
  · left
    obtain ⟨more, rfl⟩ := Nat.exists_eq_add_of_le coarser
    exact ⟨r * 2 ^ more, by ring⟩

theorem units_strictMono : StrictMono units := by
  apply strictMono_nat_of_lt_succ
  intro m
  obtain ⟨own, r, rfl, low, high⟩ := exists_significand m
  have next : own = 0 ∨ binade ≤ r + 1 := by omega
  rw [Nat.add_assoc, units_significand low high.le, units_significand next high]
  exact Nat.mul_lt_mul_of_pos_right (Nat.lt_succ_self r) (by positivity)

theorem infinity_eq : infinity = 2046 * binade + binade := by
  rw [infinity]
  ring

theorem units_infinity : units infinity = binade * 2 ^ 2046 := by
  rw [infinity_eq, units_significand (.inr le_rfl) (by omega)]

theorem roundEven_half (num : Nat) {den : Nat} (pos : 0 < den) :
    |(num / den : ℚ) - roundEven num den| ≤ 1 / 2 ∧
      (|(num / den : ℚ) - roundEven num den| = 1 / 2 → roundEven num den % 2 = 0) := by
  have denPos : (0 : ℚ) < den := by exact_mod_cast pos
  have whole : (num / den : ℚ) = (num / den : ℕ) + (num % den : ℕ) / den := by
    have split : ((den * (num / den) + num % den : ℕ) : ℚ) = num := by rw [Nat.div_add_mod]
    push_cast at split
    field_simp
    linarith
  have fraction : (0 : ℚ) ≤ (num % den : ℕ) / den := by positivity
  have short : ((num % den : ℕ) / den : ℚ) < 1 := by
    rw [div_lt_one denPos]
    exact_mod_cast Nat.mod_lt num pos
  have belowHalf : 2 * (num % den) < den ↔ ((num % den : ℕ) / den : ℚ) < 1 / 2 := by
    rw [div_lt_div_iff₀ denPos two_pos]
    norm_cast
    omega
  have aboveHalf : den < 2 * (num % den) ↔ (1 / 2 : ℚ) < (num % den : ℕ) / den := by
    rw [div_lt_div_iff₀ two_pos denPos]
    norm_cast
    omega
  rw [whole]
  dsimp only [roundEven]
  split_ifs with below above
  · rw [belowHalf] at below
    rw [add_sub_cancel_left, abs_of_nonneg fraction]
    exact ⟨below.le, fun tie => absurd tie below.ne⟩
  · rw [aboveHalf] at above
    push_cast
    rw [add_sub_add_left_eq_sub, abs_of_neg (by linarith)]
    exact ⟨by linarith, fun tie => by linarith⟩
  · rw [belowHalf, not_lt] at below
    rw [aboveHalf, not_lt] at above
    have half := le_antisymm above below
    rw [half]
    rcases Nat.mod_two_eq_zero_or_one (num / den) with even | odd
    · simp [even]
    · rw [odd]
      push_cast
      rw [add_sub_add_left_eq_sub]
      norm_num
      omega

theorem nearest_integer {t : ℚ} {r : ℕ} (half : |t - r| ≤ 1 / 2) (k : ℕ) :
    |t - r| ≤ |t - k| ∧ (|t - r| = |t - k| → k = r ∨ |t - r| = 1 / 2) := by
  by_cases same : k = r
  · simp [same]
  · have apart : (1 : ℚ) ≤ |(k : ℚ) - r| := by
      have nonzero : (k : ℤ) - r ≠ 0 := by omega
      exact_mod_cast Int.one_le_abs nonzero
    have triangle := abs_sub_le (k : ℚ) t r
    rw [abs_sub_comm (k : ℚ) t] at triangle
    constructor
    · linarith
    · intro tie
      exact .inr (by linarith)

def gridShift (num den : Nat) : Nat := (num * unitsInOne / den).log2 - 52

def significand (num den : Nat) : Nat :=
  roundEven (num * unitsInOne) (den <<< gridShift num den)

theorem nearest_eq (num den : Nat) :
    nearest num den = min (gridShift num den * binade + significand num den) infinity := rfl

def unitsOf (num den : Nat) : ℚ := (num * unitsInOne : ℕ) / den

section Rounding

variable {num den : Nat}

theorem unitsOf_div (num den : Nat) :
    unitsOf num den / 2 ^ gridShift num den =
      (num * unitsInOne : ℕ) / (den <<< gridShift num den : ℕ) := by
  rw [unitsOf, Nat.shiftLeft_eq, div_div]
  push_cast
  rfl

theorem floor_le_unitsOf (num den : Nat) : ((num * unitsInOne / den : ℕ) : ℚ) ≤ unitsOf num den :=
  Nat.cast_div_le

theorem two_pow_le_floor (shifted : gridShift num den ≠ 0) :
    binade * 2 ^ gridShift num den ≤ num * unitsInOne / den := by
  have positive : num * unitsInOne / den ≠ 0 := by
    intro zero
    simp [gridShift, zero] at shifted
  have log : 52 + gridShift num den = (num * unitsInOne / den).log2 := by
    rw [gridShift] at shifted ⊢
    omega
  rw [binade_eq, ← pow_add, log]
  exact Nat.log2_self_le positive

theorem floor_lt_two_pow (num den : Nat) :
    num * unitsInOne / den < 2 * binade * 2 ^ gridShift num den := by
  have log : (num * unitsInOne / den).log2 + 1 ≤ 53 + gridShift num den := by
    rw [gridShift]
    omega
  calc num * unitsInOne / den < 2 ^ ((num * unitsInOne / den).log2 + 1) := Nat.lt_log2_self
    _ ≤ 2 ^ (53 + gridShift num den) := Nat.pow_le_pow_right (by decide) log
    _ = 2 * binade * 2 ^ gridShift num den := by rw [binade_eq]; ring

theorem floor_le_roundEven (num den : Nat) : num / den ≤ roundEven num den := by
  dsimp only [roundEven]
  split_ifs <;> omega

theorem roundEven_le_floor (num den : Nat) : roundEven num den ≤ num / den + 1 := by
  dsimp only [roundEven]
  split_ifs <;> omega

theorem floor_shift (num den : Nat) :
    num * unitsInOne / (den <<< gridShift num den) =
      num * unitsInOne / den / 2 ^ gridShift num den := by
  rw [Nat.shiftLeft_eq, Nat.div_div_eq_div_mul]

theorem binade_le_significand (shifted : gridShift num den ≠ 0) : binade ≤ significand num den := by
  have reached : binade ≤ num * unitsInOne / (den <<< gridShift num den) := by
    rw [floor_shift, Nat.le_div_iff_mul_le (by positivity)]
    exact two_pow_le_floor shifted
  exact le_trans reached (floor_le_roundEven _ _)

theorem significand_le (num den : Nat) : significand num den ≤ 2 * binade := by
  have short : num * unitsInOne / (den <<< gridShift num den) < 2 * binade := by
    rw [floor_shift, Nat.div_lt_iff_lt_mul (by positivity)]
    exact floor_lt_two_pow num den
  exact le_trans (roundEven_le_floor _ _) short

theorem low_significand (num den : Nat) :
    gridShift num den = 0 ∨ binade ≤ significand num den := by
  by_cases shifted : gridShift num den = 0
  · exact .inl shifted
  · exact .inr (binade_le_significand shifted)

theorem units_unbounded (num den : Nat) :
    units (gridShift num den * binade + significand num den) =
      significand num den * 2 ^ gridShift num den :=
  units_significand (low_significand num den) (significand_le num den)

theorem distance_grid (num den k : Nat) :
    |unitsOf num den - (k * 2 ^ gridShift num den : ℕ)| =
      |unitsOf num den / 2 ^ gridShift num den - k| * 2 ^ gridShift num den := by
  have step : (0 : ℚ) < 2 ^ gridShift num den := by positivity
  have scale := abs_mul (unitsOf num den / 2 ^ gridShift num den - k) (2 ^ gridShift num den)
  rw [sub_mul, div_mul_cancel₀ _ step.ne', abs_of_pos step] at scale
  rw [← scale]
  push_cast
  rfl

theorem nearest_on_grid (num : Nat) (pos : 0 < den) (k : Nat) :
    |unitsOf num den - (significand num den * 2 ^ gridShift num den : ℕ)| ≤
        |unitsOf num den - (k * 2 ^ gridShift num den : ℕ)| ∧
      (|unitsOf num den - (significand num den * 2 ^ gridShift num den : ℕ)| =
          |unitsOf num den - (k * 2 ^ gridShift num den : ℕ)| →
        k = significand num den ∨ significand num den % 2 = 0) := by
  have denPos : 0 < den <<< gridShift num den := by
    rw [Nat.shiftLeft_eq]
    positivity
  have half := roundEven_half (num * unitsInOne) denPos
  rw [← unitsOf_div] at half
  have close := nearest_integer half.1 k
  have step : (0 : ℚ) < 2 ^ gridShift num den := by positivity
  rw [distance_grid, distance_grid]
  constructor
  · exact mul_le_mul_of_nonneg_right close.1 step.le
  · intro tie
    rcases close.2 (mul_right_cancel₀ step.ne' tie) with same | halfway
    · exact .inl same
    · exact .inr (half.2 halfway)

theorem nearest_unbounded (pos : 0 < den) (m : Nat) :
    |unitsOf num den - units (gridShift num den * binade + significand num den)| ≤
        |unitsOf num den - units m| ∧
      (|unitsOf num den - units (gridShift num den * binade + significand num den)| =
          |unitsOf num den - units m| →
        units m = units (gridShift num den * binade + significand num den) ∨
          (gridShift num den * binade + significand num den) % 2 = 0) := by
  have parity : (gridShift num den * binade + significand num den) % 2 = significand num den % 2 := by
    have even : binade % 2 = 0 := by decide
    rw [Nat.add_mod, Nat.mul_mod, even]
    simp
  rw [units_unbounded, parity]
  by_cases grid : ∃ k, units m = k * 2 ^ gridShift num den
  · obtain ⟨k, place⟩ := grid
    have close := nearest_on_grid num pos k
    rw [place]
    constructor
    · exact close.1
    · intro tie
      rcases close.2 tie with same | even
      · exact .inl (by rw [same])
      · exact .inr even
  -- Any other number is below the first grid point of the binade, which is nearer already.
  · have small := (units_grid m (gridShift num den)).resolve_left grid
    have shifted : gridShift num den ≠ 0 := by
      intro zero
      exact grid ⟨units m, by rw [zero]; simp⟩
    have base : ((binade * 2 ^ gridShift num den : ℕ) : ℚ) ≤ unitsOf num den :=
      le_trans (by exact_mod_cast two_pow_le_floor shifted) (floor_le_unitsOf num den)
    have below : (units m : ℚ) < (binade * 2 ^ gridShift num den : ℕ) := by exact_mod_cast small
    have close := (nearest_on_grid num pos binade).1
    have farther : |unitsOf num den - (binade * 2 ^ gridShift num den : ℕ)| <
        |unitsOf num den - units m| := by
      rw [abs_of_nonneg (by linarith), abs_of_nonneg (by linarith)]
      linarith
    exact ⟨by linarith, fun tie => by linarith⟩

theorem nearest_spec (num : Nat) (pos : 0 < den) {m : Nat} (inside : m ≤ infinity) :
    |unitsOf num den - units (nearest num den)| ≤ |unitsOf num den - units m| ∧
      (|unitsOf num den - units (nearest num den)| = |unitsOf num den - units m| →
        units m = units (nearest num den) ∨ nearest num den % 2 = 0) := by
  rw [nearest_eq]
  rcases le_or_gt (gridShift num den * binade + significand num den) infinity with finite | beyond
  · rw [Nat.min_eq_left finite]
    exact nearest_unbounded pos m
  · rw [Nat.min_eq_right beyond.le]
    -- The quotient is beyond every magnitude, and infinity is the last of them.
    have carry := significand_le num den
    have large : 2046 ≤ gridShift num den := by
      by_contra small
      rw [infinity_eq] at beyond
      have := Nat.mul_le_mul_right binade (show gridShift num den + 1 ≤ 2046 by omega)
      rw [Nat.add_mul] at this
      omega
    have shifted : gridShift num den ≠ 0 := by omega
    -- For any exponent, so that the power of two at infinity is never computed.
    have grid (top : Nat) (le : top ≤ gridShift num den) : binade * 2 ^ top ≤ num * unitsInOne / den :=
      le_trans (Nat.mul_le_mul_left binade (Nat.pow_le_pow_right Nat.two_pos le))
        (two_pow_le_floor shifted)
    have reached : units infinity ≤ num * unitsInOne / den := by
      rw [units_infinity]
      exact grid 2046 large
    have base : (units infinity : ℚ) ≤ unitsOf num den :=
      le_trans (by exact_mod_cast reached) (floor_le_unitsOf num den)
    have below : (units m : ℚ) ≤ units infinity := by exact_mod_cast units_strictMono.monotone inside
    rw [abs_of_nonneg (by linarith), abs_of_nonneg (by linarith)]
    constructor
    · linarith
    · intro tie
      have same : (units m : ℚ) = units infinity := by linarith
      exact .inl (by exact_mod_cast same)

theorem nearest_units {m : Nat} (inside : m ≤ infinity) : nearest (units m) unitsInOne = m := by
  have self : unitsOf (units m) unitsInOne = units m := by
    have nonzero : (unitsInOne : ℚ) ≠ 0 := by exact_mod_cast unitsInOne_pos.ne'
    rw [unitsOf]
    push_cast
    exact mul_div_cancel_right₀ _ nonzero
  have close := (nearest_spec (units m) unitsInOne_pos inside).1
  rw [self, sub_self, abs_zero] at close
  have same := sub_eq_zero.1 (abs_eq_zero.1 (le_antisymm close (abs_nonneg _)))
  exact (units_strictMono.injective (by exact_mod_cast same)).symm

theorem roundEven_mul_left {k : Nat} (pos : 0 < k) (num den : Nat) :
    roundEven (k * num) (k * den) = roundEven num den := by
  have below : 2 * (k * (num % den)) < k * den ↔ 2 * (num % den) < den := by
    rw [Nat.mul_left_comm]
    exact Nat.mul_lt_mul_left pos
  have above : k * den < 2 * (k * (num % den)) ↔ den < 2 * (num % den) := by
    rw [Nat.mul_left_comm]
    exact Nat.mul_lt_mul_left pos
  simp only [roundEven, Nat.mul_div_mul_left _ _ pos, Nat.mul_mod_mul_left, below, above]

theorem nearest_mul_left {k : Nat} (pos : 0 < k) (num den : Nat) :
    nearest (k * num) (k * den) = nearest num den := by
  have shift : gridShift (k * num) (k * den) = gridShift num den := by
    rw [gridShift, gridShift, Nat.mul_assoc, Nat.mul_div_mul_left _ _ pos]
  have scaled : (k * den) <<< gridShift num den = k * den <<< gridShift num den := by
    simp only [Nat.shiftLeft_eq, Nat.mul_assoc]
  rw [nearest_eq, nearest_eq, significand, significand, shift, scaled, Nat.mul_assoc,
    roundEven_mul_left pos]

theorem nearest_congr {num' den' : Nat} (pos : 0 < den) (pos' : 0 < den')
    (same : num * den' = num' * den) : nearest num den = nearest num' den' := by
  rw [← nearest_mul_left pos' num den, ← nearest_mul_left pos num' den', Nat.mul_comm den' num, same,
    Nat.mul_comm num', Nat.mul_comm den']

end Rounding

end XmlNames.Binary64
