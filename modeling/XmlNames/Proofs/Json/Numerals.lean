import Mathlib
import XmlNames.Decimal.Layout
import XmlNames.Json.Numeral

set_option autoImplicit false

namespace XmlNames.Json.Numeral

def decimals (n : Numeral) : List Char := n.fraction.getD []

def sign (n : Numeral) : ℚ := if n.negative then -1 else 1

def value (n : Numeral) : ℚ :=
  n.sign * (valueOf n.whole + valueOf n.decimals / 10 ^ n.decimals.length) * 10 ^ n.exponent.getD 0

theorem valueOf_append (front back : List Char) :
    valueOf (front ++ back) = valueOf front * 10 ^ back.length + valueOf back := by
  unfold valueOf
  rw [Nat.ofDigitChars_append, Nat.ofDigitChars_eq_ofDigitChars_zero, Nat.mul_comm]

theorem valueOf_zeros (count : Nat) : valueOf (List.replicate count '0') = 0 := by
  simp [valueOf]

theorem valueOf_toDigits (n : Nat) : valueOf (Nat.toDigits 10 n) = n :=
  Nat.ofDigitChars_ten_toDigits

theorem value_eq (n : Numeral) :
    n.value = n.sign *
      (valueOf (n.whole ++ n.decimals) * 10 ^ (n.exponent.getD 0 - n.decimals.length : Int)) := by
  have nonzero : (10 : ℚ) ^ n.decimals.length ≠ 0 := by positivity
  rw [value, valueOf_append, zpow_sub₀ (by norm_num), zpow_natCast]
  push_cast
  field_simp

def spellFraction : Option (List Char) → List Char
  | none => []
  | some digits => '.' :: digits

def spellExponent : Option Int → List Char
  | none => []
  | some power => 'e' :: Decimal.signed power

def spellUnsigned (n : Numeral) : List Char :=
  n.whole ++ (spellFraction n.fraction ++ spellExponent n.exponent)

def spell (n : Numeral) : List Char :=
  if n.negative then '-' :: n.spellUnsigned else n.spellUnsigned

def AreDigits (cs : List Char) : Prop := cs ≠ [] ∧ ∀ c ∈ cs, c.isDigit

structure WellWritten (n : Numeral) : Prop where
  whole : AreDigits n.whole
  unpadded : n.whole.head? = some '0' → n.whole = ['0']
  fraction : ∀ digits, n.fraction = some digits → AreDigits digits

def EndsDigits (rest : List Char) : Prop := ∀ c, rest.head? = some c → c.isDigit = false

theorem someDigits_append {digits rest : List Char} (numeric : AreDigits digits) (ends : EndsDigits rest) :
    someDigits (digits ++ rest) = some (digits, rest) := by
  have none_taken : rest.takeWhile Char.isDigit = [] ∧ rest.dropWhile Char.isDigit = rest := by
    cases rest with
    | nil => simp
    | cons c cs =>
      have other := ends c rfl
      simp [other]
  have taken : (digits ++ rest).takeWhile Char.isDigit = digits := by
    rw [List.takeWhile_append_of_pos numeric.2, none_taken.1, List.append_nil]
  have dropped : (digits ++ rest).dropWhile Char.isDigit = rest := by
    rw [List.dropWhile_append_of_pos numeric.2, none_taken.2]
  unfold someDigits
  rw [taken, dropped]
  obtain ⟨first, others, rfl⟩ := List.exists_cons_of_ne_nil numeric.1
  rfl

theorem areDigits_toDigits (n : Nat) : AreDigits (Nat.toDigits 10 n) :=
  ⟨Nat.toDigits_ne_nil, fun _ found => Nat.isDigit_of_mem_toDigits (by decide) (by decide) found⟩

theorem wholeIn_append {whole rest : List Char} (numeric : AreDigits whole)
    (unpadded : whole.head? = some '0' → whole = ['0']) (ends : EndsDigits rest) :
    wholeIn (whole ++ rest) = some (whole, rest) := by
  unfold wholeIn
  rw [someDigits_append numeric ends]
  split
  next first second others after read =>
    obtain ⟨rfl, rfl⟩ := Prod.mk.inj (Option.some.inj read)
    -- A zero that leads is the only digit.
    have single := unpadded rfl
    simp at single
  next => rfl

theorem signIn_append {whole : List Char} (numeric : AreDigits whole) (rest : List Char) :
    signIn (whole ++ rest) = (false, whole ++ rest) := by
  obtain ⟨first, others, rfl⟩ := List.exists_cons_of_ne_nil numeric.1
  have digit : first.isDigit := numeric.2 first (by simp)
  unfold signIn
  split
  next after same =>
    rw [List.cons_append, List.cons.injEq] at same
    -- No digit is a sign.
    rw [same.1] at digit
    simp at digit
  next => rfl

end XmlNames.Json.Numeral
