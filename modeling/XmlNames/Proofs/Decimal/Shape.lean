import XmlNames.Proofs.Decimal.Places

set_option autoImplicit false

namespace XmlNames.Decimal

open Json.Numeral

inductive Fraction : List Char → Prop
  | absent : Fraction []
  | present {digits : List Char} : AreDigits digits → digits.getLast? ≠ some '0' → Fraction ('.' :: digits)

inductive Positional (whole : List Char) : List Char → Prop
  | mk {fraction : List Char} : AreDigits whole → (whole.head? = some '0' → whole = ['0']) →
    Fraction fraction → Positional whole (whole ++ fraction)

inductive Exponential : List Char → Prop
  | mk {first sign : Char} {fraction power : List Char} : first.isDigit → first ≠ '0' → Fraction fraction →
    sign = '+' ∨ sign = '-' → AreLeading power →
    Exponential (first :: (fraction ++ 'e' :: sign :: power))

theorem not_mem_of_digits {cs : List Char} (numeric : ∀ c ∈ cs, c.isDigit) : 'e' ∉ cs := by
  intro found
  exact absurd (numeric 'e' found) (by decide)

theorem Fraction.not_mem {cs : List Char} (fraction : Fraction cs) : 'e' ∉ cs := by
  cases fraction with
  | absent => simp
  | present numeric _ => simpa using not_mem_of_digits numeric.2

theorem Positional.not_exponential {whole cs : List Char} (positional : Positional whole cs) :
    ¬Exponential cs := by
  have unmarked : 'e' ∉ cs := by
    cases positional with
    | mk numeric _ fraction => simp [not_mem_of_digits numeric.2, fraction.not_mem]
  intro exponential
  cases exponential with
  | mk => simp at unmarked

theorem head_ne_minus {cs : List Char} (numeric : AreDigits cs) (rest : List Char) :
    (cs ++ rest).head? ≠ some '-' := by
  rw [List.head?_append_of_ne_nil _ numeric.1]
  intro minus
  exact absurd (numeric.2 '-' (List.mem_of_head? minus)) (by decide)

theorem Positional.head_ne {whole cs : List Char} (positional : Positional whole cs) : cs.head? ≠ some '-' := by
  cases positional with
  | mk numeric _ _ => exact head_ne_minus numeric _

theorem Exponential.head_ne {cs : List Char} (exponential : Exponential cs) : cs.head? ≠ some '-' := by
  cases exponential with
  | @mk first _ _ _ digit _ _ _ _ =>
    have single : AreDigits [first] := by simp [AreDigits, digit]
    exact head_ne_minus single _

structure AreSignificant (digits : List Char) : Prop extends AreLeading digits where
  untrailed : digits.getLast? ≠ some '0'

theorem areSignificant_significant {d : Decimal} (positive : 0 < d.coefficient) :
    AreSignificant d.significant := by
  have leading := areLeading_significant positive
  have stopped : ¬(d.significant.getLast leading.numeric.1 == '0') = true :=
    List.rdropWhile_last_not (· == '0') (digits d.coefficient) leading.numeric.1
  refine ⟨leading, ?_⟩
  rw [List.getLast?_eq_some_getLast leading.numeric.1]
  simpa using stopped

section Layouts

variable {digits : List Char} {point : Int}

theorem AreSignificant.fraction_drop (significant : AreSignificant digits) (place : Nat)
    (inside : place < digits.length) : Fraction ('.' :: digits.drop place) := by
  refine .present ⟨by simpa using inside, ?_⟩ ?_
  · exact fun c found => significant.numeric.2 c (List.mem_of_mem_drop found)
  · rw [List.getLast?_drop, if_neg (by omega)]
    exact significant.untrailed

-- The integral part is a single zero just when no digit stands before the point.
theorem positional_shape (significant : AreSignificant digits) :
    ∃ whole, Positional whole (positional digits point) ∧ (whole = ['0'] ↔ point ≤ 0) := by
  have nonempty := List.length_pos_iff.2 significant.numeric.1
  have unlike {whole : List Char} (leading : AreLeading whole) (behind : 0 < point) :
      whole = ['0'] ↔ point ≤ 0 := by
    constructor
    · rintro rfl
      exact absurd rfl leading.unpadded
    · intro low
      omega
  unfold positional
  split_ifs with integral behind
  · have leading := significant.toAreLeading.append_zeros (point - digits.length)
    have form := Positional.mk leading.numeric (fun padded => absurd padded leading.unpadded) .absent
    rw [List.append_nil] at form
    exact ⟨_, form, unlike leading (by omega)⟩
  · have leading : AreLeading (digits.take point.toNat) := significant.toAreLeading.take (by omega)
    have fraction := significant.fraction_drop point.toNat (by omega)
    exact ⟨_, .mk leading.numeric (fun padded => absurd padded leading.unpadded) fraction, unlike leading behind⟩
  · have fraction : Fraction ('.' :: (zeros (-point) ++ digits)) := by
      refine .present ⟨by simp [significant.numeric.1], ?_⟩ ?_
      · exact List.forall_mem_append.2 ⟨isDigit_zeros (-point), significant.numeric.2⟩
      · rw [List.getLast?_append_of_ne_nil _ significant.numeric.1]
        exact significant.untrailed
    exact ⟨['0'], .mk (by simp [AreDigits]) (fun _ => rfl) fraction, by simp; omega⟩

theorem exponential_shape (significant : AreSignificant digits) (apart : point ≠ 1) :
    Exponential (scientific digits point) := by
  have power : AreLeading (Decimal.digits (point - 1).natAbs) :=
    ⟨areDigits_toDigits _, head_digits (by omega)⟩
  have sign : (if point - 1 < 0 then '-' else '+') = '+' ∨ (if point - 1 < 0 then '-' else '+') = '-' := by
    split_ifs
    · exact .inr rfl
    · exact .inl rfl
  obtain ⟨first, rest, rfl⟩ := List.exists_cons_of_ne_nil significant.numeric.1
  have digit : first.isDigit := significant.numeric.2 first (by simp)
  have nonzero : first ≠ '0' := by
    rintro rfl
    exact significant.unpadded rfl
  cases rest with
  | nil => exact .mk digit nonzero .absent sign power
  | cons second others =>
    have fraction := significant.fraction_drop 1 (by simp)
    exact .mk digit nonzero fraction sign power

end Layouts

def zeros? (count : Int) : Option (List Char) := if 0 ≤ count then some (zeros count) else none

def splitAt? (digits : List Char) (place : Int) : Option (List Char × List Char) :=
  if 0 ≤ place ∧ place ≤ digits.length then some (digits.splitAt place.toNat) else none

-- Fails where it would pad or cut out of range.
def positional? (digits : List Char) (point : Int) : Option (List Char) :=
  if digits.length ≤ point then do
    let padding ← zeros? (point - digits.length)
    return digits ++ padding
  else if 0 < point then do
    let (front, back) ← splitAt? digits point
    return front ++ '.' :: back
  else do
    let padding ← zeros? (-point)
    return '0' :: '.' :: padding ++ digits

def scientific? (digits : List Char) (point : Int) : Option (List Char) := do
  let (first, rest) ← splitAt? digits 1
  if rest.isEmpty then return first ++ 'e' :: signed (point - 1)
  else return first ++ '.' :: rest ++ 'e' :: signed (point - 1)

def Style.layout? (style : Style) (digits : List Char) (point : Int) : Option (List Char) :=
  if style.leastPoint ≤ point ∧ point ≤ style.mostPoint then do
    let body ← positional? digits point
    if style.marksWhole = true ∧ digits.length ≤ point then return body ++ ['.', '0'] else return body
  else scientific? digits point

def Style.write? (style : Style) (magnitude : Nat) : Option (List Char) :=
  let d := shortest style.tie magnitude
  style.layout? d.significant d.point

theorem Style.write_eq_layout (style : Style) (m : Nat) :
    style.write m = style.layout (shortest style.tie m).significant (shortest style.tie m).point := rfl

theorem Style.write?_eq_layout? (style : Style) (m : Nat) :
    style.write? m = style.layout? (shortest style.tie m).significant (shortest style.tie m).point := rfl

theorem positional?_eq (digits : List Char) (point : Int) :
    positional? digits point = some (positional digits point) := by
  unfold positional? positional
  split_ifs with integral behind
  · simp [zeros?, integral]
  · have inside : 0 ≤ point ∧ point ≤ digits.length := by omega
    simp [splitAt?, inside]
  · have low : point ≤ 0 := by omega
    simp [zeros?, low]

theorem scientific?_eq {digits : List Char} (nonempty : digits ≠ []) (point : Int) :
    scientific? digits point = some (scientific digits point) := by
  obtain ⟨first, rest, rfl⟩ := List.exists_cons_of_ne_nil nonempty
  have split : splitAt? (first :: rest) 1 = some ([first], rest) := by simp [splitAt?]
  cases rest <;> simp [scientific?, scientific, split]

theorem layout?_eq (style : Style) {digits : List Char} (nonempty : digits ≠ []) (point : Int) :
    style.layout? digits point = some (style.layout digits point) := by
  unfold Style.layout? Style.layout
  rw [positional?_eq, scientific?_eq nonempty]
  split_ifs <;> rfl

end XmlNames.Decimal
