import XmlNames.Proofs.Binary64.Digits
import XmlNames.Proofs.Binary64.Layout

set_option autoImplicit false

namespace XmlNames

namespace Decimal

open Binary64 Json.Numeral

theorem digits_of_value_eq {d : Decimal} {n : Nat} (positive : 0 < n) (same : d.value = n) :
    d.significant.length ≤ d.point ∧ d.significant ++ zeros (d.point - d.significant.length) = digits n := by
  have whole : d.value = (⟨n, 0⟩ : Decimal).value := by rw [same]; simp [value]
  have equal := significant_congr whole
  obtain ⟨count, split⟩ := significant_spec ⟨n, 0⟩
  have place : (⟨n, 0⟩ : Decimal).point - d.significant.length = count := by
    rw [point, split, ← equal, List.length_append, List.length_replicate]
    push_cast
    ring
  have scaled := whole
  rw [← value_significant d, ← value_significant ⟨n, 0⟩, ← equal, place] at scaled
  have nonzero : (valueOf d.significant : ℚ) ≠ 0 := by
    intro zero
    rw [← value_significant d, zero, zero_mul] at same
    exact positive.ne (by exact_mod_cast same)
  have padding : d.point - d.significant.length = count :=
    zpow_right_injective₀ (by norm_num) (by norm_num) (mul_left_cancel₀ nonzero scaled)
  refine ⟨by omega, ?_⟩
  rw [padding, zeros, Int.toNat_natCast, split, equal]

theorem exists_nat_eq_mul_zpow (n : ℕ) {exponent : Int} (nonneg : 0 ≤ exponent) :
    ∃ k : ℕ, (n : ℚ) * 10 ^ exponent = k := by
  obtain ⟨power, rfl⟩ := Int.eq_ofNat_of_zero_le nonneg
  exact ⟨n * 10 ^ power, by push_cast; rw [zpow_natCast]⟩

theorem length_le_point_iff {d : Decimal} (positive : 0 < d.coefficient) :
    d.significant.length ≤ d.point ↔ ∃ n : ℕ, d.value = n := by
  constructor
  · intro before
    rw [← value_significant]
    exact exists_nat_eq_mul_zpow _ (sub_nonneg.2 before)
  · rintro ⟨n, same⟩
    have above : 0 < d.value := mul_pos (by exact_mod_cast positive) (by positivity)
    rw [same] at above
    exact (digits_of_value_eq (by exact_mod_cast above) same).1

section Shortest

variable {x : Binary64}

theorem eq_or_le_of_isNearest {k : ℕ} (near : IsNearest k x.unsigned) :
    amount x.magnitude = k ∨ 2 ^ 53 ≤ amount x.magnitude := by
  have fixed {n : ℕ} (small : n ≤ 2 ^ 53) : IsNearest n (ofRatio false n 1) ∧ (ofRatio false n 1).value = n := by
    have same : (ofRatio false n 1).value = n := (value_unsigned (ofRatio false n 1)).trans (amount_nearest_one small)
    have own := isNearest_value (x := ofRatio false n 1) (not_lt.2 (nearest_le_infinity n 1))
    rw [same] at own
    exact ⟨own, same⟩
  rw [← value_unsigned]
  rcases Nat.le_total k (2 ^ 53) with small | large
  · left
    obtain ⟨own, same⟩ := fixed small
    rw [← same]
    exact le_antisymm (near.mono le_rfl own) (own.mono le_rfl near)
  · right
    obtain ⟨own, same⟩ := fixed le_rfl
    have ordered := own.mono (by exact_mod_cast large) near
    rw [same] at ordered
    exact_mod_cast ordered

theorem exponent_of_ofExponent {tie : Tie} {m : Nat} {exponent : Int} {d : Decimal}
    (found : ofExponent? tie m exponent = some d) : d.exponent = exponent := by
  rcases (mem_neighbours tie m exponent).1 (List.mem_of_find?_eq_some found) with rfl | rfl
  · rfl
  · rfl

theorem leadingPlace_pos {m n : ℕ} (positive : 0 < m) (whole : amount m = n) : 0 < leadingPlace m := by
  have some_unit : (10 : ℚ) ^ (0 : Int) ≤ amount m := by
    rw [whole, zpow_zero]
    exact_mod_cast pos_of_amount_eq positive whole
  exact (zpow_lt_zpow_iff_right₀ (by norm_num)).1 (lt_of_le_of_lt some_unit (leadingPlace_spec positive).2)

variable (tie : Tie) (finite : x.IsFinite) (nonzero : ¬x.IsZero)

include finite nonzero

-- The number itself is a decimal without a fraction, and the search comes to it before any with one.
theorem exists_nat_shortest {n : ℕ} (whole : amount x.magnitude = n) :
    ∃ k : ℕ, (shortest tie x.magnitude).value = k := by
  obtain ⟨count, -, -, found, missed⟩ := shortest_found tie finite nonzero
  rcases le_or_gt (count : Int) (leadingPlace x.magnitude) with coarse | fine
  · apply exists_nat_eq_mul_zpow
    rw [exponent_of_ofExponent found]
    exact sub_nonneg.2 coarse
  · have leading := leadingPlace_pos (Nat.pos_of_ne_zero nonzero) whole
    obtain ⟨fewer, same⟩ := Int.eq_ofNat_of_zero_le leading.le
    have itself : (below x.magnitude (leadingPlace x.magnitude - fewer)).value = x.unsigned.value := by
      rw [same, sub_self, value, below, floorAt_eq, value_unsigned, whole]
      simp
    have number : ¬x.unsigned.IsNaN := lt_asymm finite
    have rounds := isNearest_iff_magnitude.1 (itself ▸ isNearest_value number)
    obtain ⟨d, hit, -⟩ := ofExponent_of_mem ((mem_neighbours tie _ _).2 (.inl rfl)) rounds
    rw [missed fewer (by omega) (by omega)] at hit
    contradiction

theorem shortest_whole_iff :
    (∃ k : ℕ, (shortest tie x.magnitude).value = k) ↔ ∃ n : ℕ, amount x.magnitude = n := by
  constructor
  · rintro ⟨k, whole⟩
    have rounds := isNearest_iff_magnitude.2 (magnitude_shortest tie finite.le)
    rw [whole] at rounds
    rcases eq_or_le_of_isNearest rounds with same | large
    · exact ⟨k, same⟩
    · exact exists_nat_of_le_amount (le_trans (by norm_num) large)
  · rintro ⟨n, whole⟩
    exact exists_nat_shortest tie finite nonzero whole

theorem value_shortest {n : ℕ} (whole : amount x.magnitude = n) (small : n ≤ 2 ^ 53) :
    (shortest .upward x.magnitude).value = n := by
  obtain ⟨k, natural⟩ := exists_nat_shortest .upward finite nonzero whole
  have rounds := isNearest_iff_magnitude.2 (magnitude_shortest .upward finite.le)
  rw [natural] at rounds
  rcases eq_or_le_of_isNearest rounds with same | large
  · rw [natural, ← same, whole]
  -- At the bound itself the decimal is computed.
  · rw [whole] at large
    obtain rfl : n = 2 ^ 53 := le_antisymm small (by exact_mod_cast large)
    have last : (x.magnitude : Nat) = nearest (2 ^ 53) 1 :=
      amount_strictMono.injective (whole.trans (amount_nearest_one le_rfl).symm)
    have computed : shortest .upward (nearest (2 ^ 53) 1) = ⟨2 ^ 53, 0⟩ := by decide +kernel
    rw [last, computed, value]
    simp

end Shortest

def IsPlain (cs : List Char) : Prop :=
  ∃ digits, AreDigits digits ∧ (cs = digits ∨ cs = '-' :: digits)

theorem not_areDigits_of_mem {cs : List Char} {c : Char} (found : c ∈ cs) (other : ¬c.isDigit) : ¬AreDigits cs :=
  fun numeric => other (numeric.2 c found)

theorem isPlain_iff {body : List Char} (negative : Bool) (unsigned : body.head? ≠ some '-') :
    IsPlain (if negative then '-' :: body else body) ↔ AreDigits body := by
  cases negative with
  | false =>
    constructor
    · rintro ⟨digits, numeric, rfl | rfl⟩
      · exact numeric
      · exact absurd rfl unsigned
    · exact fun numeric => ⟨body, numeric, .inl rfl⟩
  | true =>
    constructor
    · rintro ⟨digits, numeric, same | same⟩
      · exact absurd (same ▸ numeric) (not_areDigits_of_mem List.mem_cons_self (by decide))
      · rwa [(List.cons.inj same).2]
    · exact fun numeric => ⟨body, numeric, .inr rfl⟩

theorem areDigits_positional_iff {digits : List Char} {point : Int} (numeric : AreDigits digits) :
    AreDigits (positional digits point) ↔ digits.length ≤ point := by
  unfold positional
  split_ifs with integral behind
  · refine iff_of_true ⟨by simp [numeric.1], ?_⟩ integral
    exact List.forall_mem_append.2 ⟨numeric.2, isDigit_zeros _⟩
  · exact iff_of_false (not_areDigits_of_mem (c := '.') (by simp) (by decide)) integral
  · exact iff_of_false (not_areDigits_of_mem (c := '.') (by simp) (by decide)) integral

theorem Exponential.not_areDigits {cs : List Char} (exponential : Exponential cs) : ¬AreDigits cs := by
  cases exponential with
  | mk => exact not_areDigits_of_mem (c := 'e') (by simp) (by decide)

end Decimal

namespace Binary64

open Decimal Json.Numeral

section Plain

variable {x : Binary64} (finite : x.IsFinite) (nonzero : ¬x.IsZero) (short : |x.value| < 10 ^ 21)

include finite nonzero short

theorem areDigits_write_iff :
    AreDigits (scriptStyle.write x.magnitude) ↔
      (shortest .upward x.magnitude).significant.length ≤ (shortest .upward x.magnitude).point := by
  have leading := areLeading_significant (coefficient_shortest_pos .upward finite nonzero)
  have nonempty := List.length_pos_iff.2 leading.numeric.1
  by_cases small : |x.value| < leastPositional.value
  · have low := (lt_point_iff_leastPositional finite nonzero).not.2 (not_le.2 small)
    exact iff_of_false (exponential_write finite nonzero (.inr small)).not_areDigits (by omega)
  · rw [write_eq_positional finite nonzero (not_or.2 ⟨not_le.2 short, small⟩),
      areDigits_positional_iff leading.numeric]

theorem isPlain_iff_whole : IsPlain x.toText.toList ↔ ∃ n : ℕ, |x.value| = n := by
  have positive := coefficient_shortest_pos .upward finite nonzero
  rw [toText_nonzero finite nonzero, isPlain_iff _ (head_write finite nonzero),
    areDigits_write_iff finite nonzero short, length_le_point_iff positive,
    shortest_whole_iff .upward finite nonzero, abs_value]

end Plain

theorem isZero_iff_value {x : Binary64} : x.IsZero ↔ x.value = 0 := by
  rw [← abs_eq_zero, abs_value, ← amount_zero, amount_strictMono.injective.eq_iff]
  rfl

theorem isPlain_iff_integer {x : Binary64} (finite : x.IsFinite) (short : |x.value| < 10 ^ 21) :
    IsPlain x.toText.toList ↔ ∃ k : ℤ, x.value = k := by
  by_cases zero : x.IsZero
  · rw [toText_zero zero, isZero_iff_value.1 zero]
    exact iff_of_true ⟨['0'], by simp [AreDigits], .inl rfl⟩ ⟨0, by simp⟩
  · rw [isPlain_iff_whole finite zero short]
    constructor
    · rintro ⟨n, whole⟩
      rcases abs_choice x.value with same | opposite
      · exact ⟨n, by rw [← same, whole, Int.cast_natCast]⟩
      · exact ⟨-n, by rw [Int.cast_neg, Int.cast_natCast, ← whole, opposite, neg_neg]⟩
    · rintro ⟨k, same⟩
      exact ⟨k.natAbs, by rw [same, Nat.cast_natAbs, Int.cast_abs]⟩

theorem toList_toString (m : ℤ) :
    (toString m).toList = if m < 0 then '-' :: digits m.natAbs else digits m.natAbs := by
  cases m with
  | ofNat n => simp [toString, Int.repr, Nat.repr, digits]
  | negSucc n => simp [toString, Int.repr, Nat.repr, digits]

section Exact

variable {m : ℤ} (small : |m| ≤ 2 ^ 53)

include small

theorem natAbs_le : m.natAbs ≤ 2 ^ 53 := by
  rw [Int.abs_eq_natAbs] at small
  exact_mod_cast small

theorem toText_integer {x : Binary64} (finite : x.IsFinite) (same : x.value = m) : x.toText = toString m := by
  have whole : amount x.magnitude = m.natAbs := by
    rw [← abs_value, same, Nat.cast_natAbs, Int.cast_abs]
  by_cases zero : x.IsZero
  · rw [isZero_iff_value.1 zero] at same
    obtain rfl : m = 0 := by exact_mod_cast same.symm
    exact toText_zero zero
  · have short : |x.value| < 10 ^ 21 := by
      have bound : (m.natAbs : ℚ) ≤ 2 ^ 53 := by exact_mod_cast natAbs_le small
      rw [abs_value, whole]
      exact lt_of_le_of_lt bound (by norm_num)
    have positive := pos_of_amount_eq (Nat.pos_of_ne_zero zero) whole
    obtain ⟨before, written⟩ :=
      digits_of_value_eq positive (value_shortest finite zero whole (natAbs_le small))
    have least := (lt_point_iff_leastPositional finite zero).1 (by omega)
    have near : ¬(10 ^ 21 ≤ |x.value| ∨ |x.value| < leastPositional.value) :=
      not_or.2 ⟨not_le.2 short, not_lt.2 least⟩
    have negative : x.value < 0 ↔ m < 0 := by
      rw [same]
      exact_mod_cast Iff.rfl
    apply String.toList_injective
    rw [toText_signed finite zero, write_eq_positional finite zero near, positional, if_pos before, written,
      toList_toString]
    simp only [negative]

theorem ofInt_exact : (ofInt m).IsFinite ∧ (ofInt m).value = m := by
  have whole : amount (ofInt m).magnitude = m.natAbs := amount_nearest_one (natAbs_le small)
  constructor
  · have last : nearest (2 ^ 53) 1 < infinity := by decide +kernel
    have bound : (m.natAbs : ℚ) ≤ (2 ^ 53 : ℕ) := by exact_mod_cast natAbs_le small
    rw [← whole, ← amount_nearest_one le_rfl, amount_strictMono.le_iff_le] at bound
    exact lt_of_le_of_lt bound last
  · have signed : (ofInt m).sign = if m < 0 then -1 else 1 := by simp [sign, ofInt, ofRatio]
    rw [value, whole, signed, Nat.cast_natAbs, Int.cast_abs]
    split_ifs with negative
    · rw [abs_of_neg (by exact_mod_cast negative), neg_one_mul, neg_neg]
    · rw [abs_of_nonneg (by exact_mod_cast not_lt.1 negative), one_mul]

end Exact

theorem text_of_integer :
    (∀ x : Binary64, x.IsFinite → |x.value| < 10 ^ 21 → (IsPlain x.toText.toList ↔ ∃ k : ℤ, x.value = k)) ∧
    (∀ m : ℤ, |m| ≤ 2 ^ 53 →
      (∀ x : Binary64, x.IsFinite → x.value = m → x.toText = toString m) ∧
      (ofInt m).IsFinite ∧ (ofInt m).value = m ∧ (Value.ofInt m).toText = toString m) ∧
    ∀ i : Int32, (Value.ofInt i.toInt).toText = toString i.toInt := by
  have given {m : ℤ} (small : |m| ≤ 2 ^ 53) : (Value.ofInt m).toText = toString m :=
    toText_integer small (ofInt_exact small).1 (ofInt_exact small).2
  refine ⟨fun x finite short => isPlain_iff_integer finite short, fun m small => ?_, fun i => given ?_⟩
  · exact ⟨fun x finite same => toText_integer small finite same, (ofInt_exact small).1, (ofInt_exact small).2,
      given small⟩
  · have low := i.le_toInt
    have high := i.toInt_lt
    rw [abs_le]
    omega

-- Beyond `2 ^ 53` the digits of a whole number are fewer than its own.
theorem text_of_integer_beyond :
    let x := ofBits 0x441AC53A7E04BCDA
    x.value = 123456789012345683968 ∧ x.toText = "123456789012345680000" ∧ IsPlain x.toText.toList := by
  intro x
  have finite : x.IsFinite := by decide
  have value : x.value = 123456789012345683968 := by
    have whole : amount x.magnitude = (123456789012345683968 : ℕ) := amount_eq_of_units (by decide +kernel)
    have signed : x.sign = 1 := rfl
    rw [Binary64.value, signed, whole, one_mul]
    rfl
  have short : |x.value| < 10 ^ 21 := by
    rw [value]
    norm_num
  exact ⟨value, by decide +kernel, (text_of_integer.1 x finite short).2 ⟨123456789012345683968, by rw [value]; rfl⟩⟩

end Binary64

end XmlNames
