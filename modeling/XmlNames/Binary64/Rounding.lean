import XmlNames.Binary64.Basic

set_option autoImplicit false

namespace XmlNames.Binary64

def roundEven (num den : Nat) : Nat :=
  let floor := num / den
  let rest := num % den
  if 2 * rest < den then floor
  else if den < 2 * rest then floor + 1
  else floor + floor % 2

-- A carry out of the significant bits is the first magnitude of the next binade.
def nearest (num den : Nat) : Nat :=
  let scaled := num * unitsInOne
  let shift := (scaled / den).log2 - 52
  min (shift * binade + roundEven scaled (den <<< shift)) infinity

theorem nearest_le_infinity (num den : Nat) : nearest num den ≤ infinity :=
  Nat.min_le_right _ _

theorem nearest_lt (num den : Nat) : nearest num den < 0x8000000000000000 :=
  Nat.lt_of_le_of_lt (nearest_le_infinity num den) (by decide)

def product (a b : Nat) : Nat := nearest (units a * units b) (unitsInOne * unitsInOne)

def quotient (a b : Nat) : Nat := nearest (units a) (units b)

def ofRatio (negative : Bool) (num den : Nat) : Binary64 :=
  ⟨negative, nearest num den, nearest_lt num den⟩

def ofInt (n : Int) : Binary64 :=
  ofRatio (n < 0) n.natAbs 1

end XmlNames.Binary64
