import XmlNames.Decimal.Style

set_option autoImplicit false

namespace XmlNames.Binary64

def scriptStyle : Decimal.Style where
  tie := .upward
  leastPoint := -5
  mostPoint := 21
  marksWhole := false

def unsignedText (magnitude : Nat) : List Char :=
  if magnitude = infinity then "Infinity".toList else scriptStyle.write magnitude

def toText (x : Binary64) : String :=
  if x.IsNaN then "NaN"
  else if x.IsZero then "0"
  else if x.negative then String.ofList ('-' :: unsignedText x.magnitude)
  else String.ofList (unsignedText x.magnitude)

end XmlNames.Binary64
