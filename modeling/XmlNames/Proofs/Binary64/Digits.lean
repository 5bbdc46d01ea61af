import XmlNames.Proofs.Decimal.Minimal

set_option autoImplicit false

namespace XmlNames

open Json Json.Numeral

namespace Decimal

theorem digits_valueOf_singleton {c : Char} (numeric : c.isDigit) : digits (valueOf [c]) = [c] := by
  have between : '0' ≤ c ∧ c ≤ '9' := by simpa [Char.isDigit, Char.le_def] using numeric
  obtain ⟨n, low, high, rfl⟩ := exists_toNat between
  simp at low high
  interval_cases n <;> decide

theorem digits_valueOf {cs : List Char} (leading : AreLeading cs) : digits (valueOf cs) = cs := by
  induction cs using List.reverseRecOn with
  | nil => exact absurd rfl leading.numeric.1
  | append_singleton front last ih =>
    obtain ⟨front_numeric, last_numeric⟩ := List.forall_mem_append.1 leading.numeric.2
    have single := digits_valueOf_singleton (last_numeric last (by simp))
    by_cases empty : front = []
    · rw [empty, List.nil_append, single]
    · have unpadded := leading.unpadded
      rw [List.head?_append_of_ne_nil _ empty] at unpadded
      have whole := ih ⟨⟨empty, front_numeric⟩, unpadded⟩
      have positive : 0 < valueOf front := by
        rw [Nat.pos_iff_ne_zero]
        intro zero
        rw [zero] at whole
        rw [← whole] at unpadded
        exact unpadded rfl
      have step := Nat.toDigits_append_toDigits (b := 10) (by decide) positive (valueOf_lt last_numeric)
      rw [digits] at whole single ⊢
      rw [valueOf_append, List.length_singleton, pow_one, mul_comm, ← step, whole, single]

theorem significant_valueOf {cs : List Char} (numeric : ∀ c ∈ cs, c.isDigit) (positive : 0 < valueOf cs)
    (exponent : Int) :
    significant ⟨valueOf cs, exponent⟩ = (cs.dropWhile (· == '0')).rdropWhile (· == '0') := by
  obtain ⟨count, split⟩ := exists_padding cs
  have value : valueOf cs = valueOf (cs.dropWhile (· == '0')) := by
    conv_lhs => rw [split, valueOf_append, valueOf_zeros, Nat.zero_mul, Nat.zero_add]
  have leading : AreLeading (cs.dropWhile (· == '0')) := by
    refine ⟨⟨?_, fun c found => numeric c ((List.dropWhile_sublist _).subset found)⟩, ?_⟩
    · intro empty
      rw [value, empty] at positive
      exact absurd positive (by decide)
    · have first := List.head?_dropWhile_not (· == '0') cs
      intro zero
      rw [zero] at first
      exact absurd first (by decide)
  have same := digits_valueOf leading
  rw [← value] at same
  rw [significant, same, List.rdropWhile]

theorem significant_of_le {d d' : Decimal} (same : d.value = d'.value) (finer : d.exponent ≤ d'.exponent) :
    d.significant = d'.significant := by
  obtain ⟨count, coarse⟩ := Int.le.dest finer
  have step : (10 : ℚ) ^ d.exponent ≠ 0 := by positivity
  have coefficient : d.coefficient = d'.coefficient * 10 ^ count := by
    have scaled : (d.coefficient : ℚ) * 10 ^ d.exponent = (d'.coefficient * 10 ^ count : ℕ) * 10 ^ d.exponent := by
      rw [Nat.cast_mul, mul_assoc, pow_grid, coarse]
      exact same
    exact_mod_cast mul_right_cancel₀ step scaled
  have padded : d = ⟨d'.coefficient * 10 ^ count, d.exponent⟩ := by
    rw [← coefficient]
  rw [padded]
  exact significant_mul_pow _ _ _ _

theorem significant_congr {d d' : Decimal} (same : d.value = d'.value) : d.significant = d'.significant := by
  rcases le_total d.exponent d'.exponent with finer | coarser
  · exact significant_of_le same finer
  · exact (significant_of_le same.symm coarser).symm

theorem IsShortest.congr {d d' : Decimal} {x : Binary64} (short : IsShortest d x) (same : d.value = d'.value) :
    IsShortest d' x := by
  have digits := significant_congr same
  constructor
  · rw [← same]
    exact short.rounds
  · rw [← digits]
    exact short.fewest
  · rw [← digits, ← same]
    exact short.closest

end Decimal

namespace Json.Numeral

def significand (n : Numeral) : List Char :=
  ((n.whole ++ n.decimals).dropWhile (· == '0')).rdropWhile (· == '0')

def decimal (n : Numeral) : Decimal :=
  ⟨valueOf (n.whole ++ n.decimals), n.exponent.getD 0 - n.decimals.length⟩

theorem value_eq_decimal (n : Numeral) : n.value = n.sign * n.decimal.value :=
  n.value_eq

theorem WellWritten.isDigit {n : Numeral} (written : n.WellWritten) : ∀ c ∈ n.whole ++ n.decimals, c.isDigit := by
  refine List.forall_mem_append.2 ⟨written.whole.2, ?_⟩
  unfold decimals
  cases fraction : n.fraction with
  | none => simp
  | some digits => exact (written.fraction digits fraction).2

theorem significant_decimal {n : Numeral} (written : n.WellWritten) (positive : 0 < n.decimal.coefficient) :
    n.decimal.significant = n.significand :=
  Decimal.significant_valueOf written.isDigit positive _

end Json.Numeral

namespace Binary64

theorem text_is_shortest {x : Binary64} (finite : x.IsFinite) (nonzero : ¬x.IsZero) :
    ∃ n : Numeral, scan x.toText.toList = some (n, []) ∧ n.negative = x.negative ∧
      n.decimal.IsShortest x.unsigned ∧ n.decimal.significant = n.significand ∧ n.significand.length ≤ 17 := by
  obtain ⟨n, written, spelled, signed, value⟩ := spell_nonzero finite nonzero
  obtain ⟨short, bound⟩ := Decimal.isShortest_shortest scriptStyle.tie finite nonzero
  have same : (Decimal.shortest scriptStyle.tie x.magnitude).value = n.decimal.value := by
    have signs : n.sign = x.sign := by rw [Numeral.sign, Binary64.sign, signed]
    have nonzero_sign : x.sign ≠ 0 := abs_pos.1 (by rw [abs_sign]; exact one_pos)
    rw [value_eq_decimal, signs] at value
    exact (mul_left_cancel₀ nonzero_sign value).symm
  have written_short := short.congr same
  have positive : 0 < n.decimal.coefficient := by
    apply Decimal.coefficient_pos
    rw [Decimal.isNearest_iff_magnitude.1 written_short.rounds]
    exact Nat.pos_of_ne_zero nonzero
  have digits := significant_decimal written positive
  refine ⟨n, spelled ▸ scan_spell written, signed, written_short, digits, ?_⟩
  rw [← digits, ← Decimal.significant_congr same]
  exact bound

-- Below a power of two numbers are twice as dense: the nearest decimal of sixteen digits ends in 1, but it reads
-- back as the number below.
theorem text_is_shortest_at_a_power_of_two :
    (ofBits 0x3D30000000000000).toText = "5.684341886080802e-14" ∧
      (⟨5684341886080802, -29⟩ : Decimal).IsShortest (ofBits 0x3D30000000000000).unsigned ∧
      (⟨5684341886080801, -29⟩ : Decimal).magnitude + 1 = (ofBits 0x3D30000000000000).magnitude := by
  have text : (ofBits 0x3D30000000000000).toText = "5.684341886080802e-14" := by decide +kernel
  obtain ⟨n, read, -, short, -⟩ := text_is_shortest (x := ofBits 0x3D30000000000000) (by decide) (by decide)
  have numeral : scan "5.684341886080802e-14".toList =
      some (⟨false, ['5'], some "684341886080802".toList, some (-14)⟩, []) := by decide +kernel
  rw [text, numeral, Option.some.injEq, Prod.mk.injEq] at read
  rw [← read.1] at short
  exact ⟨text, short, by decide +kernel⟩

end Binary64

end XmlNames
