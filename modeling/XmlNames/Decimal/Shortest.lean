import XmlNames.Decimal.Basic

set_option autoImplicit false

namespace XmlNames.Decimal

open Binary64

inductive Tie where
  | upward
  | toEven
  deriving DecidableEq, Repr

-- Enough places behind the decimal point to see a digit of the least positive number.
def finestPlaces : Nat := 324

def leadingPlace (magnitude : Nat) : Int :=
  (digits (units magnitude * tenTo finestPlaces / unitsInOne)).length - finestPlaces

def Tie.prefersLower (tie : Tie) (lower : Nat) : Bool :=
  match tie with
  | .upward => false
  | .toEven => lower % 2 == 0

def neighbours (tie : Tie) (magnitude : Nat) (exponent : Int) : List Decimal :=
  let num := units magnitude * tenTo (-exponent).toNat
  let den := unitsInOne * tenTo exponent.toNat
  let lower := num / den
  let rest := num % den
  let below : Decimal := ⟨lower, exponent⟩
  let above : Decimal := ⟨lower + 1, exponent⟩
  if 2 * rest < den ∨ 2 * rest = den ∧ tie.prefersLower lower = true then [below, above]
  else [above, below]

def ofExponent? (tie : Tie) (magnitude : Nat) (exponent : Int) : Option Decimal :=
  (neighbours tie magnitude exponent).find? fun d => d.magnitude == magnitude

-- All digits of a magnitude: a unit is a whole number of steps in the last of 1074 decimal places.
def exact (magnitude : Nat) : Decimal :=
  ⟨units magnitude * (tenTo 1074 / unitsInOne), -1074⟩

-- Seventeen digits are always enough.
def shortest (tie : Tie) (magnitude : Nat) : Decimal :=
  let place := leadingPlace magnitude
  let found := (List.range' 1 17).findSome? fun (count : Nat) =>
    ofExponent? tie magnitude (place - count)
  found.getD (exact magnitude)

end XmlNames.Decimal
