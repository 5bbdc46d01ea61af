import XmlNames.Decimal.Basic
import XmlNames.Proofs.Binary64.Nearest

set_option autoImplicit false

namespace XmlNames

namespace Binary64

-- The value of a magnitude. Infinity counts as where the next binade would begin, which is how far rounding
-- reaches.
def amount (m : Nat) : ℚ := units m / unitsInOne

def sign (x : Binary64) : ℚ := if x.negative then -1 else 1

def value (x : Binary64) : ℚ := x.sign * amount x.magnitude

-- Of two at the same distance the even one is the nearest.
def IsNearest (q : ℚ) (x : Binary64) : Prop :=
  ¬x.IsNaN ∧ ∀ y : Binary64, ¬y.IsNaN →
    |q - x.value| ≤ |q - y.value| ∧
      (|q - x.value| = |q - y.value| → y.value = x.value ∨ (x.magnitude : Nat) % 2 = 0)

theorem cast_unitsInOne_pos : (0 : ℚ) < unitsInOne := by
  exact_mod_cast unitsInOne_pos

theorem amount_nonneg (m : Nat) : 0 ≤ amount m :=
  div_nonneg (Nat.cast_nonneg _) cast_unitsInOne_pos.le

theorem amount_zero : amount 0 = 0 := by
  simp [amount]

theorem amount_strictMono : StrictMono amount := by
  intro m n less
  have units_less : (units m : ℚ) < units n := by exact_mod_cast units_strictMono less
  exact div_lt_div_of_pos_right units_less cast_unitsInOne_pos

theorem abs_sign (x : Binary64) : |x.sign| = 1 := by
  unfold sign
  split_ifs <;> simp

theorem sign_eq_or (x y : Binary64) : y.sign = x.sign ∨ y.sign = -x.sign := by
  unfold sign
  split_ifs <;> simp

theorem abs_sign_mul_sub (x : Binary64) (a b : ℚ) : |x.sign * a - x.sign * b| = |a - b| := by
  rw [← mul_sub, abs_mul, abs_sign, one_mul]

theorem abs_sub_opposite {x y : Binary64} (opposite : y.sign = -x.sign) {a b : ℚ} (nonneg : 0 ≤ a)
    (nonneg' : 0 ≤ b) :
    |x.sign * a - y.sign * b| = a + b := by
  rw [opposite, neg_mul, sub_neg_eq_add, ← mul_add, abs_mul, abs_sign, one_mul, abs_of_nonneg (by linarith)]

theorem nearest_amount (num : Nat) {den : Nat} (pos : 0 < den) {m : Nat} (inside : m ≤ infinity) :
    |(num / den : ℚ) - amount (nearest num den)| ≤ |(num / den : ℚ) - amount m| ∧
      (|(num / den : ℚ) - amount (nearest num den)| = |(num / den : ℚ) - amount m| →
        m = nearest num den ∨ nearest num den % 2 = 0) := by
  have scale (k : Nat) : |(num / den : ℚ) - amount k| = |unitsOf num den - units k| / unitsInOne := by
    have nonzero := cast_unitsInOne_pos.ne'
    have apart : (num / den : ℚ) - amount k = (unitsOf num den - units k) / unitsInOne := by
      unfold unitsOf amount
      push_cast
      field_simp
    rw [apart, abs_div, abs_of_pos cast_unitsInOne_pos]
  have close := nearest_spec num pos inside
  rw [scale, scale]
  constructor
  · exact div_le_div_of_nonneg_right close.1 cast_unitsInOne_pos.le
  · intro tie
    rcases close.2 ((div_left_inj' cast_unitsInOne_pos.ne').1 tie) with same | even
    · exact .inl (units_strictMono.injective same)
    · exact .inr even

theorem isNearest_of_nearest {x : Binary64} {num den : Nat} (pos : 0 < den)
    (found : nearest num den = x.magnitude) : IsNearest (x.sign * (num / den)) x := by
  have finite : ¬x.IsNaN := not_lt.2 (found ▸ nearest_le_infinity num den)
  refine ⟨finite, fun y number => ?_⟩
  have inside : (y.magnitude : Nat) ≤ infinity := not_lt.1 number
  have near := nearest_amount num pos inside
  have zero := (nearest_amount num pos (Nat.zero_le infinity)).1
  have nonneg : (0 : ℚ) ≤ num / den := by positivity
  have nonneg' := amount_nonneg y.magnitude
  rw [found] at near zero
  rw [amount_zero, sub_zero, abs_of_nonneg nonneg] at zero
  unfold value
  rw [abs_sign_mul_sub]
  rcases sign_eq_or x y with same | opposite
  · rw [same, abs_sign_mul_sub]
    constructor
    · exact near.1
    · intro tie
      exact (near.2 tie).imp_left fun hit => by rw [hit]
  · rw [abs_sub_opposite opposite nonneg nonneg']
    constructor
    · linarith
    · intro tie
      -- Zero is as near as a number of the other sign, so that number is zero.
      have nothing : amount y.magnitude = 0 := by linarith
      rw [nothing, add_zero] at tie
      rw [nothing, sub_zero, abs_of_nonneg nonneg] at near
      rcases near.2 tie with hit | even
      · left
        rw [← hit, nothing, mul_zero, mul_zero]
      · exact .inr even

def index (x : Binary64) : ℤ := if x.negative then -x.magnitude else x.magnitude

def amountAt : ℤ → ℚ
  | .ofNat n => amount n
  | .negSucc n => -amount (n + 1)

theorem amountAt_strictMono : StrictMono amountAt := by
  apply strictMono_int_of_lt_succ
  intro i
  match i with
  | .ofNat n => exact amount_strictMono (Nat.lt_succ_self n)
  | .negSucc 0 =>
    have positive := amount_strictMono Nat.zero_lt_one
    have nonneg := amount_nonneg 0
    change -amount 1 < amount 0
    linarith
  | .negSucc (n + 1) => exact neg_lt_neg (amount_strictMono (Nat.lt_succ_self (n + 1)))

theorem value_eq_amountAt (x : Binary64) : x.value = amountAt x.index := by
  unfold value sign index
  cases x.negative with
  | false =>
    rw [if_neg (by simp), if_neg (by simp), one_mul]
    rfl
  | true =>
    rw [if_pos rfl, if_pos rfl, neg_one_mul]
    cases (x.magnitude : Nat) with
    | zero => rw [amount_zero, neg_zero]; exact amount_zero.symm
    | succ m => rfl

theorem index_eq_iff {x y : Binary64} : x.index = y.index ↔ x = y ∨ x.IsZero ∧ y.IsZero := by
  obtain ⟨xNegative, xMagnitude⟩ := x
  obtain ⟨yNegative, yMagnitude⟩ := y
  simp only [index, IsZero, Binary64.mk.injEq, Fin.ext_iff]
  cases xNegative <;> cases yNegative <;> simp only [reduceIte, reduceCtorEq, true_and, false_and, false_or] <;> omega

theorem exists_index {i : ℤ} (inside : i.natAbs ≤ infinity) : ∃ x : Binary64, ¬x.IsNaN ∧ x.index = i := by
  have bound : i.natAbs < 0x8000000000000000 := lt_of_le_of_lt inside (by decide)
  refine ⟨⟨decide (i < 0), i.natAbs, bound⟩, not_lt.2 inside, ?_⟩
  simp only [index, decide_eq_true_eq]
  split_ifs <;> omega

theorem IsNearest.index_le {q : ℚ} {x y : Binary64} (near : IsNearest q x) (near' : IsNearest q y) :
    x.index ≤ y.index := by
  by_contra above
  rw [not_le] at above
  have values : y.value < x.value := by
    rw [value_eq_amountAt, value_eq_amountAt]
    exact amountAt_strictMono above
  have tie : |q - x.value| = |q - y.value| :=
    le_antisymm (near.2 y near'.1).1 (near'.2 x near.1).1
  have even := ((near.2 y near'.1).2 tie).resolve_left values.ne
  have even' := ((near'.2 x near.1).2 tie.symm).resolve_left values.ne'
  have bounds : (x.magnitude : Nat) ≤ infinity ∧ (y.magnitude : Nat) ≤ infinity :=
    ⟨not_lt.1 near.1, not_lt.1 near'.1⟩
  -- Both indices are even, so a number lies between them and is nearer than both.
  have gap : y.index + 1 < x.index ∧ (y.index + 1).natAbs ≤ infinity := by
    unfold index at above ⊢
    split_ifs at above ⊢ <;> omega
  obtain ⟨z, finite, place⟩ := exists_index gap.2
  have lower : y.value < z.value := by
    rw [value_eq_amountAt, value_eq_amountAt, place]
    exact amountAt_strictMono (lt_add_one _)
  have upper : z.value < x.value := by
    rw [value_eq_amountAt, value_eq_amountAt, place]
    exact amountAt_strictMono gap.1
  have nearer := (near.2 z finite).1
  have nearer' := (near'.2 z finite).1
  rcases le_total q z.value with low | high
  · rw [abs_of_nonpos (by linarith), abs_of_nonpos (by linarith)] at nearer
    linarith
  · rw [abs_of_nonneg (by linarith), abs_of_nonneg (by linarith)] at nearer'
    linarith

theorem IsNearest.unique {q : ℚ} {x y : Binary64} (near : IsNearest q x) (near' : IsNearest q y) :
    x = y ∨ x.IsZero ∧ y.IsZero :=
  index_eq_iff.1 (le_antisymm (near.index_le near') (near'.index_le near))

end Binary64

end XmlNames
