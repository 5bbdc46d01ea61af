import XmlNames.Binary64.Rounding

set_option autoImplicit false

namespace XmlNames

structure Decimal where
  coefficient : Nat
  exponent : Int
  deriving DecidableEq, Repr

namespace Decimal

def tenTo (n : Nat) : Nat := Nat.pow 10 n

def numerator (d : Decimal) : Nat := d.coefficient * tenTo d.exponent.toNat

def denominator (d : Decimal) : Nat := tenTo (-d.exponent).toNat

def magnitude (d : Decimal) : Nat :=
  Binary64.nearest d.numerator d.denominator

def digits (n : Nat) : List Char := Nat.toDigits 10 n

def significant (d : Decimal) : List Char :=
  ((digits d.coefficient).reverse.dropWhile (· == '0')).reverse

def point (d : Decimal) : Int :=
  d.exponent + (digits d.coefficient).length

end Decimal

end XmlNames
