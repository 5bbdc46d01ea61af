import Std.Data.HashSet

set_option autoImplicit false

namespace XmlNames

variable {α : Type} [BEq α] [Hashable α]

def newTo (seen : Std.HashSet α) : List α → List Bool
  | [] => []
  | item :: items => (!seen.contains item) :: newTo (seen.insert item) items

def newcomers (items : List α) : List Bool := newTo ∅ items

end XmlNames
