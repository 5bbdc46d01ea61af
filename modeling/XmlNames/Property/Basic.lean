import XmlNames.Value

set_option autoImplicit false

namespace XmlNames

namespace Property

def names : List String := ["uri", "prefix"]

def nextIndex : Nat → Nat
  | 0 => 1
  | 1 => 2
  | _ => 0

def nameAt? : Nat → Option String
  | 0 => none
  | index + 1 => names[index]?

def has (name : String) : Bool := names.contains name

def isEnumerable (_ : String) : Bool := true

theorem nextIndex_le (index : Nat) : nextIndex index ≤ 2 := by
  fun_cases nextIndex index <;> decide

theorem isSome_nameAt? {index : Nat} : (nameAt? index).isSome = true ↔ index = 1 ∨ index = 2 := by
  match index with
  | 0 | 1 | 2 => decide
  | index + 3 => simp [nameAt?, names]

end Property

namespace Namespace

def property (n : Namespace) : String → Value
  | "uri" => .text n.uri
  | "prefix" => .ofOption (n.nsPrefix.map .text)
  | _ => .undefined

def valueAt (n : Namespace) (index : Nat) : Value :=
  match Property.nameAt? index with
  | some name => n.property name
  | none => .undefined

end Namespace

end XmlNames
