import XmlNames.Decimal.Layout
import XmlNames.Decimal.Shortest

set_option autoImplicit false

namespace XmlNames.Decimal

structure Style where
  tie : Tie
  leastPoint : Int
  mostPoint : Int
  -- Whole numbers in positional notation end in a zero fraction.
  marksWhole : Bool
  deriving DecidableEq, Repr

namespace Style

def layout (style : Style) (digits : List Char) (point : Int) : List Char :=
  if style.leastPoint ≤ point ∧ point ≤ style.mostPoint then
    if style.marksWhole = true ∧ digits.length ≤ point then positional digits point ++ ['.', '0']
    else positional digits point
  else scientific digits point

def write (style : Style) (magnitude : Nat) : List Char :=
  let d := shortest style.tie magnitude
  style.layout d.significant d.point

end Style

end XmlNames.Decimal
