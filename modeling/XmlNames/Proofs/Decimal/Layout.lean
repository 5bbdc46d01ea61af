import XmlNames.Decimal.Style
import XmlNames.Proofs.Json.Numerals

set_option autoImplicit false

namespace XmlNames.Decimal

open Json Json.Numeral

def value (d : Decimal) : ℚ := d.coefficient * 10 ^ d.exponent

def IsNumeralOf (cs : List Char) (q : ℚ) : Prop :=
  ∃ n : Numeral, n.WellWritten ∧ n.negative = false ∧ n.spellUnsigned = cs ∧ n.value = q

structure AreLeading (digits : List Char) : Prop where
  numeric : AreDigits digits
  unpadded : digits.head? ≠ some '0'

theorem ten_zpow_eq_div (exponent : Int) : (10 : ℚ) ^ exponent = tenTo exponent.toNat / tenTo (-exponent).toNat := by
  unfold tenTo
  rcases le_total 0 exponent with nonneg | nonpos
  · obtain ⟨power, rfl⟩ := Int.eq_ofNat_of_zero_le nonneg
    simp
  · obtain ⟨power, same⟩ := Int.eq_ofNat_of_zero_le (Int.neg_nonneg_of_nonpos nonpos)
    have flipped : exponent = -(power : Int) := by omega
    rw [flipped]
    simp

theorem value_eq_div (d : Decimal) : d.value = d.numerator / d.denominator := by
  rw [value, ten_zpow_eq_div, numerator, denominator, Nat.cast_mul, mul_div_assoc]

theorem exists_padding (cs : List Char) : ∃ count, cs = List.replicate count '0' ++ cs.dropWhile (· == '0') := by
  refine ⟨(cs.takeWhile (· == '0')).length, ?_⟩
  have padding : cs.takeWhile (· == '0') = List.replicate (cs.takeWhile (· == '0')).length '0' := by
    apply List.eq_replicate_of_mem
    intro c found
    simpa using List.mem_takeWhile_imp found
  rw [← padding, List.takeWhile_append_dropWhile]

theorem significant_spec (d : Decimal) :
    ∃ count, digits d.coefficient = d.significant ++ List.replicate count '0' := by
  -- Backwards, the digits begin with the zeros that are dropped.
  obtain ⟨count, split⟩ := exists_padding (digits d.coefficient).reverse
  refine ⟨count, ?_⟩
  have turned := congrArg List.reverse split
  rwa [List.reverse_reverse, List.reverse_append, List.reverse_replicate] at turned

theorem head_digits {n : Nat} (positive : 0 < n) : (digits n).head? ≠ some '0' := by
  unfold digits
  induction n using Nat.strong_induction_on with
  | _ n ih =>
    rcases Nat.lt_or_ge n 10 with small | large
    · rw [Nat.toDigits_of_lt_base small]
      simp
      omega
    · rw [Nat.toDigits_of_base_le (by decide) large, List.head?_append_of_ne_nil _ Nat.toDigits_ne_nil]
      exact ih (n / 10) (by omega) (by omega)

theorem isDigit_significant (d : Decimal) : ∀ c ∈ d.significant, c.isDigit := by
  obtain ⟨count, split⟩ := d.significant_spec
  intro c found
  apply (areDigits_toDigits d.coefficient).2
  change c ∈ digits d.coefficient
  rw [split]
  exact List.mem_append_left _ found

theorem areLeading_significant {d : Decimal} (positive : 0 < d.coefficient) : AreLeading d.significant := by
  obtain ⟨count, split⟩ := d.significant_spec
  have head := head_digits positive
  have nonempty : d.significant ≠ [] := by
    intro empty
    rw [split, empty, List.nil_append] at head
    -- All digits would be zeros, and the first digit of a positive number is none.
    have some_zero : count ≠ 0 := by
      intro none_left
      rw [empty, none_left] at split
      exact Nat.toDigits_ne_nil split
    obtain ⟨others, rfl⟩ := Nat.exists_eq_succ_of_ne_zero some_zero
    simp [List.replicate_succ] at head
  refine ⟨⟨nonempty, d.isDigit_significant⟩, ?_⟩
  rw [split, List.head?_append_of_ne_nil _ nonempty] at head
  exact head

theorem value_significant (d : Decimal) :
    valueOf d.significant * (10 : ℚ) ^ (d.point - d.significant.length) = d.value := by
  obtain ⟨count, split⟩ := d.significant_spec
  have coefficient : d.coefficient = valueOf d.significant * 10 ^ count := by
    have whole := valueOf_toDigits d.coefficient
    change valueOf (digits d.coefficient) = d.coefficient at whole
    rw [split, valueOf_append, valueOf_zeros, List.length_replicate, Nat.add_zero] at whole
    exact whole.symm
  have place : d.point - d.significant.length = d.exponent + count := by
    rw [point, split, List.length_append, List.length_replicate]
    push_cast
    ring
  rw [place, zpow_add₀ (by norm_num), zpow_natCast, value, coefficient]
  push_cast
  ring

theorem isDigit_zeros (count : Int) : ∀ c ∈ zeros count, c.isDigit := by
  intro c found
  rw [List.eq_of_mem_replicate found]
  rfl

theorem isNumeralOf_spelled (whole : List Char) (fraction : Option (List Char)) (power : Option Int)
    (numeric : AreDigits whole) (unpadded : whole.head? = some '0' → whole = ['0'])
    (decimals : ∀ digits, fraction = some digits → AreDigits digits) :
    IsNumeralOf (whole ++ (spellFraction fraction ++ spellExponent power))
      (valueOf (whole ++ fraction.getD []) * 10 ^ (power.getD 0 - (fraction.getD []).length : Int)) := by
  refine ⟨⟨false, whole, fraction, power⟩, ⟨numeric, unpadded, decimals⟩, rfl, rfl, ?_⟩
  rw [Numeral.value_eq]
  simp [Numeral.sign, Numeral.decimals]

theorem valueOf_zeros_append (count : Int) (digits : List Char) :
    valueOf (zeros count ++ digits) = valueOf digits := by
  rw [valueOf_append, zeros, valueOf_zeros, Nat.zero_mul, Nat.zero_add]

theorem valueOf_append_zeros (digits : List Char) {count : Int} (nonneg : 0 ≤ count) :
    (valueOf (digits ++ zeros count) : ℚ) = valueOf digits * 10 ^ count := by
  obtain ⟨size, rfl⟩ := Int.eq_ofNat_of_zero_le nonneg
  rw [valueOf_append, zeros, valueOf_zeros]
  simp

section Layouts

variable {digits : List Char} {point : Int}

theorem AreLeading.append_zeros (leading : AreLeading digits) (count : Int) :
    AreLeading (digits ++ zeros count) := by
  have numeric : AreDigits (digits ++ zeros count) :=
    ⟨by simp [leading.numeric.1], List.forall_mem_append.2 ⟨leading.numeric.2, isDigit_zeros count⟩⟩
  refine ⟨numeric, ?_⟩
  rw [List.head?_append_of_ne_nil _ leading.numeric.1]
  exact leading.unpadded

theorem AreLeading.take (leading : AreLeading digits) {place : Nat} (positive : 0 < place) :
    AreLeading (digits.take place) := by
  refine ⟨⟨?_, fun c found => leading.numeric.2 c (List.mem_of_mem_take found)⟩, ?_⟩
  · rw [Ne, List.take_eq_nil_iff, not_or]
    exact ⟨by omega, leading.numeric.1⟩
  · rw [List.head?_take, if_neg (by omega)]
    exact leading.unpadded

theorem isNumeralOf_integer (leading : AreLeading digits) (whole : digits.length ≤ point) :
    IsNumeralOf (positional digits point) (valueOf digits * 10 ^ (point - digits.length)) := by
  have written := leading.append_zeros (point - digits.length)
  have read := isNumeralOf_spelled _ none none written.numeric (fun padded => absurd padded written.unpadded) (by simp)
  rw [Option.getD_none, List.append_nil, valueOf_append_zeros _ (by omega)] at read
  simpa [positional, whole, spellFraction, spellExponent] using read

theorem isNumeralOf_marked (leading : AreLeading digits) (whole : digits.length ≤ point) :
    IsNumeralOf (positional digits point ++ ['.', '0']) (valueOf digits * 10 ^ (point - digits.length)) := by
  have written := leading.append_zeros (point - digits.length)
  have read := isNumeralOf_spelled _ (some ['0']) none written.numeric
    (fun padded => absurd padded written.unpadded) (by simp [AreDigits])
  have value : (valueOf (digits ++ zeros (point - digits.length) ++ ['0']) : ℚ) * 10 ^ (0 - (1 : Nat) : Int) =
      valueOf digits * 10 ^ (point - digits.length) := by
    have nothing : valueOf ['0'] = 0 := by decide
    rw [valueOf_append, nothing]
    push_cast
    rw [valueOf_append_zeros _ (by omega)]
    norm_num
    ring
  simp only [Option.getD_none, Option.getD_some, List.length_singleton] at read
  rw [value] at read
  simpa [positional, whole, spellFraction, spellExponent] using read

theorem isNumeralOf_mixed (leading : AreLeading digits) (behind : 0 < point) (before : point < digits.length) :
    IsNumeralOf (positional digits point) (valueOf digits * 10 ^ (point - digits.length)) := by
  obtain ⟨place, rfl⟩ := Int.eq_ofNat_of_zero_le behind.le
  have front := leading.take (Int.natCast_pos.1 behind)
  have back : AreDigits (digits.drop place) := by
    constructor
    · simp
      omega
    · exact fun c found => leading.numeric.2 c (List.mem_of_mem_drop found)
  have read := isNumeralOf_spelled _ (some (digits.drop place)) none front.numeric
    (fun padded => absurd padded front.unpadded) (by simpa using back)
  have power : (0 - (digits.drop place).length : Int) = place - digits.length := by
    rw [List.length_drop]
    omega
  simp only [Option.getD_none, Option.getD_some, List.take_append_drop, power] at read
  have split : positional digits place = digits.take place ++ '.' :: digits.drop place := by
    rw [positional, if_neg (by omega), if_pos behind, Int.toNat_natCast]
  simpa [split, spellFraction, spellExponent] using read

theorem isNumeralOf_fraction (leading : AreLeading digits) (low : point ≤ 0) :
    IsNumeralOf (positional digits point) (valueOf digits * 10 ^ (point - digits.length)) := by
  have nonempty := List.length_pos_iff.2 leading.numeric.1
  have back : AreDigits (zeros (-point) ++ digits) :=
    ⟨by simp [leading.numeric.1], List.forall_mem_append.2 ⟨isDigit_zeros (-point), leading.numeric.2⟩⟩
  have read := isNumeralOf_spelled ['0'] (some (zeros (-point) ++ digits)) none
    (by simp [AreDigits]) (fun _ => rfl) (by simpa using back)
  have value : valueOf (['0'] ++ (zeros (-point) ++ digits)) = valueOf digits := by
    have one : ['0'] = zeros 1 := rfl
    rw [one, valueOf_zeros_append, valueOf_zeros_append]
  have power : (0 - (zeros (-point) ++ digits).length : Int) = point - digits.length := by
    simp [zeros]
    omega
  simp only [Option.getD_none, Option.getD_some, value, power] at read
  have split : positional digits point = '0' :: '.' :: zeros (-point) ++ digits := by
    rw [positional, if_neg (by omega), if_neg (by omega)]
  simpa [split, spellFraction, spellExponent] using read

theorem isNumeralOf_positional (leading : AreLeading digits) :
    IsNumeralOf (positional digits point) (valueOf digits * 10 ^ (point - digits.length)) := by
  rcases le_or_gt (digits.length : Int) point with whole | before
  · exact isNumeralOf_integer leading whole
  · rcases lt_or_ge 0 point with behind | low
    · exact isNumeralOf_mixed leading behind before
    · exact isNumeralOf_fraction leading low

theorem isNumeralOf_scientific (leading : AreLeading digits) :
    IsNumeralOf (scientific digits point) (valueOf digits * 10 ^ (point - digits.length)) := by
  obtain ⟨first, rest, rfl⟩ := List.exists_cons_of_ne_nil leading.numeric.1
  have front : AreLeading [first] := leading.take Nat.zero_lt_one
  cases rest with
  | nil =>
    have read := isNumeralOf_spelled [first] none (some (point - 1)) front.numeric
      (fun padded => absurd padded front.unpadded) (by simp)
    simpa [scientific, spellFraction, spellExponent] using read
  | cons second others =>
    have back : AreDigits (second :: others) :=
      ⟨by simp, fun c found => leading.numeric.2 c (List.mem_cons_of_mem _ found)⟩
    have read := isNumeralOf_spelled [first] (some (second :: others)) (some (point - 1)) front.numeric
      (fun padded => absurd padded front.unpadded) (by simpa using back)
    have power : point - 1 - (second :: others).length = point - (first :: second :: others).length := by
      simp only [List.length_cons]
      omega
    simp only [Option.getD_some, power] at read
    simpa [scientific, spellFraction, spellExponent] using read

end Layouts

theorem isNumeralOf_layout (style : Style) {digits : List Char} (leading : AreLeading digits) (point : Int) :
    IsNumeralOf (style.layout digits point) (valueOf digits * 10 ^ (point - digits.length)) := by
  unfold Style.layout
  split_ifs with near marked
  · exact isNumeralOf_marked leading marked.2
  · exact isNumeralOf_positional leading
  · exact isNumeralOf_scientific leading

end XmlNames.Decimal
