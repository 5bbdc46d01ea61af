import XmlNames.QName

set_option autoImplicit false

namespace XmlNames

inductive Key where
  | text (content : String)
  | number (n : Int)
  | ns (n : Namespace)
  | name (q : QName)
  deriving DecidableEq, Repr

namespace Key

inductive Kind where
  | text
  | number
  | ns
  | name
  deriving DecidableEq, Repr

def same : Key → Key → Bool
  | text a, text b => a == b
  | number a, number b => a == b
  | ns a, ns b => a == b
  | name a, name b => a == b
  | _, _ => false

instance : BEq Key := ⟨same⟩

instance : EquivBEq Key where
  rfl {a} := by
    match a with
    | text a => exact BEq.refl a
    | number a => exact BEq.refl a
    | ns a => exact BEq.refl a
    | name a => exact BEq.refl a
  symm {a b} h := by
    match a, b, h with
    | text a, text b, h => exact BEq.symm (α := String) h
    | number a, number b, h => exact BEq.symm (α := Int) h
    | ns a, ns b, h => exact BEq.symm (α := Namespace) h
    | name a, name b, h => exact BEq.symm (α := QName) h
  trans {a b c} h k := by
    match a, b, c, h, k with
    | text a, text b, text c, h, k => exact BEq.trans (α := String) h k
    | number a, number b, number c, h, k => exact BEq.trans (α := Int) h k
    | ns a, ns b, ns c, h, k => exact BEq.trans (α := Namespace) h k
    | name a, name b, name c, h, k => exact BEq.trans (α := QName) h k

end Key

end XmlNames
