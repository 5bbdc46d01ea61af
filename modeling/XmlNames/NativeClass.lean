import XmlNames.Construction

set_option autoImplicit false

namespace XmlNames

structure NativeClass (Instance : Type) where
  name : String
  construct : List Value → Logged (Except IllegalPrefix Instance)
  call : List Value → Logged (Except IllegalPrefix Instance) := construct

def namespaceClass : NativeClass Namespace where
  name := "Namespace"
  construct args := .ok <$> Namespace.construct args

def namespaceClass.constructWithPrefix (candidate uri : Value) : Except IllegalPrefix Namespace :=
  Namespace.fromPrefixAndUri candidate uri

end XmlNames
