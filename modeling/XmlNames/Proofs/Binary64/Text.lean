import XmlNames.Construction
import XmlNames.Proofs.Binary64.Value
import XmlNames.Proofs.Decimal.Layout
import XmlNames.Proofs.Decimal.Shortest
import XmlNames.Proofs.Json.Lexeme

set_option autoImplicit false

namespace XmlNames

open Json Json.Numeral

namespace Decimal

theorem coefficient_pos {d : Decimal} (positive : 0 < d.magnitude) : 0 < d.coefficient := by
  rw [Nat.pos_iff_ne_zero]
  intro nothing
  have same : Binary64.nearest 0 d.denominator = Binary64.nearest 0 Binary64.unitsInOne :=
    Binary64.nearest_congr (tenTo_pos _) Binary64.unitsInOne_pos (by simp)
  have zero := Binary64.nearest_units (Nat.zero_le Binary64.infinity)
  rw [Binary64.units_zero] at zero
  rw [magnitude, numerator, nothing, Nat.zero_mul, same, zero] at positive
  exact Nat.lt_irrefl 0 positive

theorem isNumeralOf_write (style : Style) {m : Nat} (positive : 0 < m) (finite : m < Binary64.infinity) :
    IsNumeralOf (style.write m) (shortest style.tie m).value := by
  have back := magnitude_shortest style.tie finite.le
  rw [← value_significant]
  exact isNumeralOf_layout style (areLeading_significant (coefficient_pos (back.symm ▸ positive))) _

end Decimal

namespace Binary64

-- As numbers compare: what is no number equals nothing, and both zeros are equal.
def NumericallyEqual (x y : Binary64) : Prop :=
  ¬x.IsNaN ∧ ¬y.IsNaN ∧ (x = y ∨ x.IsZero ∧ y.IsZero)

theorem isNearest_decimal {x : Binary64} {d : Decimal} (back : d.magnitude = x.magnitude) :
    IsNearest (x.sign * d.value) x := by
  rw [d.value_eq_div]
  exact isNearest_of_nearest (Decimal.tenTo_pos _) back

theorem IsZero.number {x : Binary64} (zero : x.IsZero) : ¬x.IsNaN := by
  have none_left : (x.magnitude : Nat) = 0 := zero
  rw [IsNaN, none_left]
  exact Nat.not_lt_zero infinity

theorem toText_zero {x : Binary64} (zero : x.IsZero) : x.toText = "0" := by
  rw [toText, if_neg zero.number, if_pos zero]

theorem toText_nonzero {x : Binary64} (finite : x.IsFinite) (nonzero : ¬x.IsZero) :
    x.toText.toList =
      if x.negative then '-' :: scriptStyle.write x.magnitude else scriptStyle.write x.magnitude := by
  have number : ¬x.IsNaN := lt_asymm finite
  rw [toText, if_neg number, if_neg nonzero, unsignedText, if_neg finite.ne]
  split_ifs <;> simp

theorem value_signed {n : Numeral} (unsigned : n.negative = false) (x : Binary64) :
    ({ n with negative := x.negative } : Numeral).value = x.sign * n.value := by
  have plain : n.sign = 1 := by simp [Numeral.sign, unsigned]
  rw [Numeral.value_eq, Numeral.value_eq n, plain, one_mul]
  rfl

theorem spell_nonzero {x : Binary64} (finite : x.IsFinite) (nonzero : ¬x.IsZero) :
    ∃ n : Numeral, n.WellWritten ∧ n.spell = x.toText.toList ∧ n.negative = x.negative ∧
      n.value = x.sign * (Decimal.shortest scriptStyle.tie x.magnitude).value := by
  obtain ⟨n, written, unsigned, spelled, value⟩ :=
    Decimal.isNumeralOf_write scriptStyle (Nat.pos_of_ne_zero nonzero) finite
  refine ⟨{ n with negative := x.negative }, ⟨written.whole, written.unpadded, written.fraction⟩, ?_, rfl, ?_⟩
  · rw [toText_nonzero finite nonzero, ← spelled]
    rfl
  · rw [value_signed unsigned, value]

theorem spell_toText {x : Binary64} (finite : x.IsFinite) :
    ∃ n : Numeral, n.WellWritten ∧ n.spell = x.toText.toList ∧ IsNearest n.value x := by
  by_cases zero : x.IsZero
  · have back : (⟨0, 0⟩ : Decimal).magnitude = x.magnitude := by
      have none_left : (x.magnitude : Nat) = 0 := zero
      rw [none_left]
      decide
    have near := isNearest_decimal back
    refine ⟨⟨false, ['0'], none, none⟩, ⟨by simp [AreDigits], fun _ => rfl, by simp⟩, ?_, ?_⟩
    · rw [toText_zero zero]
      rfl
    · have nothing : Nat.ofDigitChars 10 ['0'] 0 = 0 := rfl
      simpa [Numeral.value, Numeral.decimals, valueOf, nothing, Decimal.value] using near
  · obtain ⟨n, written, spelled, -, value⟩ := spell_nonzero finite zero
    exact ⟨n, written, spelled, value ▸ isNearest_decimal (Decimal.magnitude_shortest scriptStyle.tie finite.le)⟩

theorem scan_toText {x : Binary64} (finite : x.IsFinite) :
    ∃ n : Numeral, scan x.toText.toList = some (n, []) ∧ IsNearest n.value x := by
  obtain ⟨n, written, same, near⟩ := spell_toText finite
  exact ⟨n, same ▸ scan_spell written, near⟩

theorem toText_nan {x : Binary64} (nan : x.IsNaN) : x.toText = "NaN" := by
  rw [toText, if_pos nan]

theorem toText_infinite {x : Binary64} (infinite : x.IsInfinite) :
    x.toText = if x.negative then "-Infinity" else "Infinity" := by
  have number : ¬x.IsNaN := infinite.not_gt
  have same : (x.magnitude : Nat) = infinity := infinite
  have nonzero : ¬x.IsZero := by
    intro zero
    have nothing : infinity = 0 := same.symm.trans zero
    exact absurd nothing (by decide)
  rw [toText, if_neg number, if_neg nonzero, unsignedText, if_pos same]
  split_ifs <;> rfl

theorem trichotomy (x : Binary64) : x.IsNaN ∨ x.IsInfinite ∨ x.IsFinite := by
  rcases lt_trichotomy (x.magnitude : Nat) infinity with finite | infinite | nan
  · exact .inr (.inr finite)
  · exact .inr (.inl infinite)
  · exact .inl nan

theorem finite_of_scan {x : Binary64} {n : Numeral} (read : scan x.toText.toList = some (n, [])) :
    x.IsFinite := by
  have refused : scan "NaN".toList = none ∧ scan "-Infinity".toList = none ∧ scan "Infinity".toList = none := by
    decide
  rcases x.trichotomy with nan | infinite | finite
  · rw [toText_nan nan, refused.1] at read
    contradiction
  · rw [toText_infinite infinite] at read
    split_ifs at read
    · rw [refused.2.1] at read
      contradiction
    · rw [refused.2.2] at read
      contradiction
  · exact finite

theorem isFinite_iff_scan (x : Binary64) :
    x.IsFinite ↔ ∃ n : Numeral, scan x.toText.toList = some (n, []) ∧ IsNearest n.value x :=
  ⟨scan_toText, fun ⟨_, read, _⟩ => finite_of_scan read⟩

theorem finite_of_same_text {x y : Binary64} (same : x.toText = y.toText) (finite : x.IsFinite) : y.IsFinite := by
  obtain ⟨n, read, -⟩ := scan_toText finite
  rw [same] at read
  exact finite_of_scan read

theorem nan_of_same_text {x y : Binary64} (same : x.toText = y.toText) (nan : x.IsNaN) : y.IsNaN := by
  rcases y.trichotomy with nan' | infinite | finite
  · exact nan'
  · rw [toText_nan nan, toText_infinite infinite] at same
    split_ifs at same <;> exact absurd same (by decide)
  · exact absurd nan (lt_asymm (finite_of_same_text same.symm finite))

theorem eq_of_same_infinite {x y : Binary64} (infinite : x.IsInfinite) (infinite' : y.IsInfinite)
    (same : x.toText = y.toText) : x = y := by
  have magnitudes : x.magnitude = y.magnitude := Fin.ext (infinite.trans infinite'.symm)
  rw [toText_infinite infinite, toText_infinite infinite'] at same
  have signs : x.negative = y.negative := by
    split_ifs at same with negative negative' negative'
    · exact negative.trans negative'.symm
    · exact absurd same (by decide)
    · exact absurd same (by decide)
    · rw [Bool.not_eq_true] at negative negative'
      rw [negative, negative']
  cases x
  cases y
  congr

theorem toText_eq_iff {x y : Binary64} :
    x.toText = y.toText ↔ x.IsNaN ∧ y.IsNaN ∨ NumericallyEqual x y := by
  constructor
  · intro same
    rcases x.trichotomy with nan | infinite | finite
    · exact .inl ⟨nan, nan_of_same_text same nan⟩
    · right
      have number : ¬x.IsNaN := infinite.not_gt
      rcases y.trichotomy with nan' | infinite' | finite'
      · exact absurd (nan_of_same_text same.symm nan') number
      · exact ⟨number, infinite'.not_gt, .inl (eq_of_same_infinite infinite infinite' same)⟩
      · exact absurd infinite (finite_of_same_text same.symm finite').ne
    · have finite' := finite_of_same_text same finite
      obtain ⟨n, read, near⟩ := scan_toText finite
      obtain ⟨n', read', near'⟩ := scan_toText finite'
      -- Both are the same numeral, which rounds to one number only.
      rw [← same, read, Option.some.injEq, Prod.mk.injEq] at read'
      rw [← read'.1] at near'
      exact .inr ⟨near.1, near'.1, near.unique near'⟩
  · rintro (⟨nan, nan'⟩ | ⟨-, -, rfl | ⟨zero, zero'⟩⟩)
    · rw [toText_nan nan, toText_nan nan']
    · rfl
    · rw [toText_zero zero, toText_zero zero']

theorem text_reads_back :
    (∀ x : Binary64, x.IsFinite ↔
      ∃ n : Numeral, scan x.toText.toList = some (n, []) ∧ IsNearest n.value x) ∧
    ∀ x y : Binary64,
      (x.toText = y.toText ↔ x.IsNaN ∧ y.IsNaN ∨ NumericallyEqual x y) ∧
      ((Namespace.fromUri (.number x) == Namespace.fromUri (.number y)) = true ↔
        x.IsNaN ∧ y.IsNaN ∨ NumericallyEqual x y) :=
  ⟨isFinite_iff_scan, fun _ _ => ⟨toText_eq_iff, Namespace.beq_iff.trans toText_eq_iff⟩⟩

example : (ofBits 0x3EB0C6F7A0B5ED8D).toText = "0.000001" ∧ (ofBits 0x444B1AE4D6E2EF50).toText = "1e+21" := by
  decide +kernel

end Binary64

end XmlNames
