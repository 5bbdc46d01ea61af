import XmlNames.Decimal.Basic

set_option autoImplicit false

namespace XmlNames.Json

structure Numeral where
  negative : Bool
  whole : List Char
  fraction : Option (List Char)
  exponent : Option Int
  deriving DecidableEq, Repr

inductive Quantity where
  | integer (n : Int)
  | floating (x : Binary64)
  deriving DecidableEq, Repr

namespace Numeral

def someDigits (cs : List Char) : Option (List Char × List Char) :=
  match cs.takeWhile Char.isDigit with
  | [] => none
  | digits => some (digits, cs.dropWhile Char.isDigit)

def signIn : List Char → Bool × List Char
  | '-' :: rest => (true, rest)
  | cs => (false, cs)

def wholeIn (cs : List Char) : Option (List Char × List Char) :=
  match someDigits cs with
  | some ('0' :: _ :: _, _) => none
  | found => found

def fractionIn : List Char → Option (Option (List Char) × List Char)
  | '.' :: rest => (someDigits rest).map fun (digits, rest) => (some digits, rest)
  | cs => some (none, cs)

def valueOf (digits : List Char) : Nat := Nat.ofDigitChars 10 digits 0

def powerIn : List Char → Option (Int × List Char)
  | '-' :: rest => (someDigits rest).map fun (digits, rest) => (-valueOf digits, rest)
  | '+' :: rest => (someDigits rest).map fun (digits, rest) => (valueOf digits, rest)
  | cs => (someDigits cs).map fun (digits, rest) => (valueOf digits, rest)

def exponentIn : List Char → Option (Option Int × List Char)
  | [] => some (none, [])
  | c :: rest =>
    if c = 'e' ∨ c = 'E' then (powerIn rest).map fun (power, rest) => (some power, rest)
    else some (none, c :: rest)

def scan (cs : List Char) : Option (Numeral × List Char) := do
  let (negative, cs) := signIn cs
  let (whole, cs) ← wholeIn cs
  let (fraction, cs) ← fractionIn cs
  let (exponent, cs) ← exponentIn cs
  return (⟨negative, whole, fraction, exponent⟩, cs)

theorem someDigits_shorter {cs digits rest : List Char} (read : someDigits cs = some (digits, rest)) :
    rest.length < cs.length := by
  cases cs with
  | nil => simp [someDigits] at read
  | cons c cs =>
    by_cases digit : c.isDigit
    · have := (List.dropWhile_suffix Char.isDigit (l := cs)).length_le
      simp only [someDigits, List.takeWhile_cons, List.dropWhile_cons, digit] at read
      simp at read
      simp only [← read.2, List.length_cons]
      omega
    · simp [someDigits, digit] at read

theorem wholeIn_shorter {cs digits rest : List Char} (read : wholeIn cs = some (digits, rest)) :
    rest.length < cs.length := by
  unfold wholeIn at read
  split at read
  · simp at read
  · exact someDigits_shorter read

theorem length_signIn (cs : List Char) : (signIn cs).2.length ≤ cs.length := by
  fun_cases signIn cs <;> simp

theorem length_fractionIn {cs rest : List Char} {found : Option (List Char)}
    (read : fractionIn cs = some (found, rest)) : rest.length ≤ cs.length := by
  fun_cases fractionIn cs with
  | case1 after =>
    simp only [fractionIn, Option.map_eq_some_iff] at read
    obtain ⟨⟨digits, last⟩, step, same⟩ := read
    have shorter := someDigits_shorter step
    simp at same
    simp only [List.length_cons, ← same.2]
    omega
  | case2 => simp_all [fractionIn]

theorem powerIn_shorter {cs rest : List Char} {power : Int} (read : powerIn cs = some (power, rest)) :
    rest.length < cs.length := by
  fun_cases powerIn cs with
  | case1 after | case2 after =>
    simp only [powerIn, Option.map_eq_some_iff] at read
    obtain ⟨⟨digits, last⟩, step, same⟩ := read
    have shorter := someDigits_shorter step
    simp at same
    simp only [List.length_cons, ← same.2]
    omega
  | case3 =>
    rw [powerIn] at read
    · obtain ⟨⟨digits, last⟩, step, same⟩ := Option.map_eq_some_iff.1 read
      have shorter := someDigits_shorter step
      simp at same
      simpa only [← same.2] using shorter
    all_goals assumption

theorem length_exponentIn {cs rest : List Char} {found : Option Int}
    (read : exponentIn cs = some (found, rest)) : rest.length ≤ cs.length := by
  fun_cases exponentIn cs with
  | case1 => simp_all [exponentIn]
  | case2 c after isMark =>
    simp only [exponentIn, isMark, if_true, Option.map_eq_some_iff] at read
    obtain ⟨⟨power, last⟩, step, same⟩ := read
    have shorter := powerIn_shorter step
    simp at same
    simp only [List.length_cons, ← same.2]
    omega
  | case3 c after other => simp_all [exponentIn]

theorem scan_shorter {cs rest : List Char} {n : Numeral} (read : scan cs = some (n, rest)) :
    rest.length < cs.length := by
  simp only [scan, Option.bind_eq_bind, Option.bind_eq_some_iff] at read
  obtain ⟨⟨whole, afterWhole⟩, first, ⟨fraction, afterFraction⟩, second, ⟨exponent, last⟩, third, same⟩ := read
  have signed := length_signIn cs
  have shorter := wholeIn_shorter first
  have middle := length_fractionIn second
  have final := length_exponentIn third
  dsimp only at middle final
  simp at same
  rw [← same.2]
  omega

def wordEnd : Nat := 0x10000000000000000

-- Digits are taken up while the number fits 64 bits; also answers how many are left.
def takeUp : Nat → List Char → Nat × Nat
  | n, [] => (n, 0)
  | n, digit :: digits =>
    let next := n * 10 + (digit.toNat - '0'.toNat)
    if next < wordEnd then takeUp next digits else (n, digits.length + 1)

def roundedPower (n : Nat) : Nat := Binary64.nearest (Decimal.tenTo n) 1

-- A magnitude times a power of ten, by a product or a quotient with a rounded power, each rounded. Powers
-- beyond `10 ^ 308` are taken in steps downward, and refused upward.
def scale (magnitude : Nat) (power : Int) : Option Nat :=
  if magnitude = 0 then some 0
  else if 308 < power then none
  else if 0 ≤ power then
    let result := Binary64.product magnitude (roundedPower power.toNat)
    if result = Binary64.infinity then none else some result
  else if -308 ≤ power then some (Binary64.quotient magnitude (roundedPower (-power).toNat))
  else scale (Binary64.quotient magnitude (roundedPower 308)) (power + 308)
termination_by (-power).toNat

-- Not the nearest number in every case: the digits beyond 64 bits do not count, and the power of ten is rounded
-- before it is used.
def floating? (n : Numeral) : Option Binary64 := do
  let (whole, left) := takeUp 0 n.whole
  let fraction := n.fraction.getD []
  let (significand, ignored) := takeUp whole fraction
  let power : Int := left - (fraction.length - ignored) + n.exponent.getD 0
  let magnitude ← scale (Binary64.nearest significand 1) power
  if inside : magnitude < 0x8000000000000000 then return ⟨n.negative, magnitude, inside⟩ else none

def quantity? (n : Numeral) : Option Quantity :=
  let whole := valueOf n.whole
  let written := n.fraction.isNone && n.exponent.isNone
  if written && !n.negative && whole < wordEnd then some (.integer whole)
  else if written && n.negative && 0 < whole && whole ≤ wordEnd / 2 then some (.integer (-whole))
  else n.floating?.map .floating

end Numeral

end XmlNames.Json
