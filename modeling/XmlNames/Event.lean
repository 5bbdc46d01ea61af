import XmlNames.Namespace
import XmlNames.Text.Quoted

set_option autoImplicit false

namespace XmlNames

inductive Event where
  | constructed (args : Nat) (result : Namespace)
  | prefixDropped (candidate uri : String)
  | keyedDefaultSet (uri : String)
  | defaultSet (uri : String)
  deriving DecidableEq, Repr

inductive Level where
  | debug
  | trace
  deriving DecidableEq, Repr

inductive Field where
  | count (n : Nat)
  | text (content : String)
  deriving DecidableEq, Repr

def Level.label : Level → String
  | debug => "DEBUG"
  | trace => "TRACE"

namespace Event

def level : Event → Level
  | prefixDropped .. => .debug
  | _ => .trace

def message : Event → String
  | constructed .. => "constructed namespace"
  | prefixDropped .. => "dropping namespace prefix"
  | keyedDefaultSet .. => "swapping keyed default namespace"
  | defaultSet .. => "setting default namespace"

-- An optional prefix in a log field, where absence and the empty prefix have to look different.
def shownPrefix : Option String → String
  | none => "None"
  | some text => "Some(" ++ Text.quoted text ++ ")"

def fields : Event → List (String × Field)
  | constructed args result =>
    [("args", .count args), ("uri", .text result.uri), ("prefix", .text (shownPrefix result.nsPrefix))]
  | prefixDropped candidate uri => [("prefix", .text candidate), ("uri", .text uri)]
  | keyedDefaultSet uri => [("uri", .text uri)]
  | defaultSet uri => [("uri", .text uri)]

end Event

end XmlNames
