import XmlNames.Decimal.Basic

set_option autoImplicit false

namespace XmlNames.Decimal

def zeros (count : Int) : List Char := List.replicate count.toNat '0'

-- Digits and zeros, with a decimal point only where a fraction follows it.
def positional (digits : List Char) (point : Int) : List Char :=
  if digits.length ≤ point then digits ++ zeros (point - digits.length)
  else if 0 < point then digits.take point.toNat ++ '.' :: digits.drop point.toNat
  else '0' :: '.' :: zeros (-point) ++ digits

def signed (exponent : Int) : List Char :=
  (if exponent < 0 then '-' else '+') :: digits exponent.natAbs

def scientific (digits : List Char) (point : Int) : List Char :=
  match digits with
  | [] => []
  | [first] => first :: 'e' :: signed (point - 1)
  | first :: rest => first :: '.' :: rest ++ 'e' :: signed (point - 1)

end XmlNames.Decimal
