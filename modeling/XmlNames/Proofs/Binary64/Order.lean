import XmlNames.Proofs.Binary64.Interval

set_option autoImplicit false

namespace XmlNames.Binary64

theorem nonneg_of_nearer {q a b : ℚ} (nearer : |q - a| ≤ |q - b|) : 0 ≤ (a - b) * (2 * q - (a + b)) := by
  have squares := sq_le_sq.2 nearer
  have difference : (q - b) ^ 2 - (q - a) ^ 2 = (a - b) * (2 * q - (a + b)) := by ring
  linarith

theorem IsNearest.mono {q r : ℚ} {x y : Binary64} (ordered : q ≤ r) (near : IsNearest q x)
    (near' : IsNearest r y) : x.value ≤ y.value := by
  by_contra above
  rw [not_le] at above
  have positive : 0 < x.value - y.value := by linarith
  have upper := nonneg_of_nearer (near.2 y near'.1).1
  have lower := nonneg_of_nearer (near'.2 x near.1).1
  have high := nonneg_of_mul_nonneg_right upper positive
  have low : r ≤ q := by
    rw [← neg_sub x.value, neg_mul, ← mul_neg] at lower
    have below := nonneg_of_mul_nonneg_right lower positive
    linarith
  obtain rfl : q = r := le_antisymm ordered low
  rcases near.unique near' with rfl | ⟨zero, zero'⟩
  · exact lt_irrefl _ above
  · have none_left : (x.magnitude : Nat) = 0 := zero
    have none_left' : (y.magnitude : Nat) = 0 := zero'
    rw [value, value, none_left, none_left', amount_zero, mul_zero, mul_zero] at above
    exact lt_irrefl _ above

theorem isNearest_value {x : Binary64} (number : ¬x.IsNaN) : IsNearest x.value x :=
  isNearest_of_nearest unitsInOne_pos (nearest_units (not_lt.1 number))

theorem amount_pos_iff {m : Nat} : 0 < amount m ↔ 0 < m := by
  rw [← amount_zero, amount_strictMono.lt_iff_lt]

theorem amount_eq_of_units {m n : Nat} (same : units m = n * unitsInOne) : amount m = n := by
  rw [amount, same, Nat.cast_mul, mul_div_cancel_right₀ _ cast_unitsInOne_pos.ne']

theorem pos_of_amount_eq {m n : Nat} (positive : 0 < m) (whole : amount m = n) : 0 < n := by
  rw [← amount_pos_iff, whole] at positive
  exact_mod_cast positive

theorem exists_units_eq (shift : Nat) {r : Nat} (short : r ≤ 2 * binade) :
    ∃ m ≤ shift * binade + r, units m = r * 1 <<< shift := by
  rw [Nat.one_shiftLeft]
  induction shift generalizing r with
  | zero => exact ⟨0 * binade + r, le_rfl, units_significand (.inl rfl) short⟩
  | succ shift ih =>
    rcases Nat.lt_or_ge r binade with small | large
    -- A significand that leaves room is doubled, and the step is halved.
    · obtain ⟨m, bound, same⟩ := ih (r := 2 * r) (by omega)
      have room : shift * binade + 2 * r ≤ (shift + 1) * binade + r := by
        rw [Nat.add_mul]
        omega
      exact ⟨m, le_trans bound room, by rw [same]; ring⟩
    · exact ⟨(shift + 1) * binade + r, le_rfl, units_significand (.inr large) short⟩

theorem amount_nearest_one {n : Nat} (small : n ≤ 2 ^ 53) : amount (nearest n 1) = n := by
  have short : n ≤ 2 * binade := by
    rw [binade_eq]
    omega
  obtain ⟨m, bound, same⟩ := exists_units_eq 1074 short
  have inside : m ≤ infinity := by
    rw [infinity_eq]
    omega
  rw [← unitsInOne] at same
  have found : nearest n 1 = m := by
    rw [← nearest_units inside]
    exact nearest_congr Nat.zero_lt_one unitsInOne_pos (by rw [same, Nat.mul_one])
  rw [found]
  exact amount_eq_of_units same

theorem units_grid_shift (m shift : Nat) :
    (∃ k, units m = k * 1 <<< shift) ∨ units m < binade * 1 <<< shift := by
  rw [Nat.one_shiftLeft]
  exact units_grid m shift

theorem exists_nat_of_le_amount {m : Nat} (large : 2 ^ 52 ≤ amount m) : ∃ n : Nat, amount m = n := by
  have grid := units_grid_shift m 1074
  rw [← unitsInOne] at grid
  rcases grid with ⟨n, whole⟩ | small
  · exact ⟨n, amount_eq_of_units whole⟩
  · have less : (units m : ℚ) < binade * unitsInOne := by exact_mod_cast small
    rw [amount, le_div_iff₀ cast_unitsInOne_pos] at large
    rw [binade_eq] at less
    push_cast at less
    linarith

end XmlNames.Binary64
