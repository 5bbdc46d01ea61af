import XmlNames.Proofs.Binary64.Value

set_option autoImplicit false

namespace XmlNames.Binary64

theorem IsNearest.toward {q r : ℚ} {x : Binary64} (near : IsNearest q x)
    (between : q ≤ r ∧ r ≤ x.value ∨ x.value ≤ r ∧ r ≤ q) : IsNearest r x := by
  have split : |q - x.value| = |q - r| + |r - x.value| := by
    rcases between with ⟨low, high⟩ | ⟨low, high⟩
    · rw [abs_of_nonpos (by linarith), abs_of_nonpos (by linarith), abs_of_nonpos (by linarith)]
      ring
    · rw [abs_of_nonneg (by linarith), abs_of_nonneg (by linarith), abs_of_nonneg (by linarith)]
      ring
  refine ⟨near.1, fun y number => ?_⟩
  have close := near.2 y number
  have triangle := abs_sub_le q r y.value
  constructor
  · linarith
  · intro tie
    exact close.2 (le_antisymm close.1 (by linarith))

theorem units_step (m : Nat) : units (m + 1) ≤ 2 ^ 53 * (units (m + 1) - units m) := by
  obtain ⟨shift, r, rfl, low, high⟩ := exists_significand m
  have next : shift = 0 ∨ binade ≤ r + 1 := by omega
  have whole : 2 * binade = 2 ^ 53 := by rw [binade_eq]; ring
  rw [Nat.add_assoc, units_significand low high.le, units_significand next high, ← Nat.sub_mul,
    Nat.add_sub_cancel_left, Nat.one_mul, ← whole]
  exact Nat.mul_le_mul_right _ high

theorem amount_step (m : Nat) : amount (m + 1) ≤ 2 ^ 53 * (amount (m + 1) - amount m) := by
  have step := units_step m
  have ordered := (units_strictMono (Nat.lt_succ_self m)).le
  have cast : (units (m + 1) : ℚ) ≤ 2 ^ 53 * (units (m + 1) - units m) := by
    rw [← Nat.cast_sub ordered]
    exact_mod_cast step
  rw [amount, amount, ← sub_div, ← mul_div_assoc]
  exact div_le_div_of_nonneg_right cast cast_unitsInOne_pos.le

theorem amount_apart {m n : Nat} (other : n ≠ m) : amount m ≤ 2 ^ 53 * |amount m - amount n| := by
  rcases Nat.lt_or_gt_of_ne other with below | above
  · obtain ⟨k, rfl⟩ := Nat.exists_eq_add_of_lt below
    have step := amount_step (n + k)
    have reached := amount_strictMono.monotone (Nat.le_add_right n k)
    rw [abs_of_nonneg (by linarith [amount_strictMono.monotone below.le])]
    linarith
  · have step := amount_step m
    have less := amount_strictMono (Nat.lt_succ_self m)
    have reached := amount_strictMono.monotone (Nat.succ_le_of_lt above)
    rw [abs_sub_comm, abs_of_nonneg (by linarith)]
    linarith

theorem abs_value (x : Binary64) : |x.value| = amount x.magnitude := by
  rw [value, abs_mul, abs_sign, one_mul, abs_of_nonneg (amount_nonneg _)]

theorem value_apart {x y : Binary64} (other : y.value ≠ x.value) : |x.value| ≤ 2 ^ 53 * |x.value - y.value| := by
  rw [abs_value]
  rcases sign_eq_or x y with same | opposite
  · have magnitudes : (y.magnitude : Nat) ≠ x.magnitude := by
      intro equal
      exact other (by rw [value, value, same, equal])
    rw [value, value, same, abs_sign_mul_sub]
    exact amount_apart magnitudes
  · have nonneg := amount_nonneg x.magnitude
    have nonneg' := amount_nonneg y.magnitude
    rw [value, value, abs_sub_opposite opposite nonneg nonneg']
    linarith

-- Any other number is twice as far off.
theorem isNearest_of_close {q : ℚ} {x : Binary64} (number : ¬x.IsNaN)
    (close : 2 ^ 54 * |q - x.value| < |x.value|) : IsNearest q x := by
  refine ⟨number, fun y _ => ?_⟩
  by_cases same : y.value = x.value
  · rw [same]
    exact ⟨le_rfl, fun _ => .inl rfl⟩
  · have apart := value_apart same
    have triangle := abs_sub_le x.value q y.value
    rw [abs_sub_comm x.value q] at triangle
    have nearer : |q - x.value| < |q - y.value| := by linarith
    exact ⟨nearer.le, fun tie => absurd tie nearer.ne⟩

def unsigned (x : Binary64) : Binary64 := { x with negative := false }

theorem value_unsigned (x : Binary64) : x.unsigned.value = amount x.magnitude := by
  simp [unsigned, value, sign]

end XmlNames.Binary64
