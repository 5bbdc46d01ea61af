import XmlNames.Binary64.Text
import XmlNames.QName

set_option autoImplicit false

namespace XmlNames

inductive Value where
  | undefined
  | null
  | boolean (truth : Bool)
  | number (x : Binary64)
  | text (content : String)
  | ns (n : Namespace)
  | name (named : NameObject)
  | object (rendering : String)
  deriving DecidableEq, Repr

namespace Value

def ofOption : Option Value → Value
  | none => undefined
  | some value => value

def ofInt (n : Int) : Value := number (.ofInt n)

def ofQName (name : QName) : Value := .name name.toObject

def isAbsent : Value → Bool
  | undefined | null => true
  | _ => false

def toText : Value → String
  | undefined => "undefined"
  | null => "null"
  | boolean truth => if truth then "true" else "false"
  | number x => x.toText
  | text content => content
  | ns n => n.uri
  | name named => named.rendering
  | object rendering => rendering

def uriText : Value → String
  | name named => named.name.uriText
  | value => value.toText

end Value

end XmlNames
