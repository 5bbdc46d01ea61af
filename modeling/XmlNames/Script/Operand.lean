import XmlNames.Construction
import XmlNames.Default.Key
import XmlNames.Json.NamespaceForm

set_option autoImplicit false

namespace XmlNames.Script

inductive Fault where
  | illegalPrefix (e : IllegalPrefix)
  | unreadable (e : Json.ReadError)
  | unbound (name : String)
  | noStore (name : String)
  | noCursor
  | wrongKey
  deriving DecidableEq, Repr

abbrev Building := ExceptT Fault Logged

def Building.of {α ε : Type} (fault : ε → Fault) : Except ε α → Building α
  | .ok value => pure value
  | .error e => throw (fault e)

def Building.outcome {α : Type} (b : Building α) : Logged (Except Fault α) := b.run

mutual

inductive ValueExpr where
  | undefined
  | null
  | boolean (truth : Bool)
  | number (x : Binary64)
  | text (content : String)
  | object (rendering : String)
  | ns (n : NamespaceExpr)
  -- With a rendering, the name of a host object.
  | name (q : QNameExpr) (rendering : Option String)

inductive NamespaceExpr where
  | publicNs
  | ofUri (uri : ValueExpr)
  | ofPrefixAndUri (candidate uri : ValueExpr)
  | construct (args : List ValueExpr)
  | json (source : String)
  | bound (name : String)

inductive QNameExpr where
  | inNamespace (n : NamespaceExpr) (localName : String)
  | anyNamespace (localName : String)

end

abbrev Bindings := List (String × Namespace)

mutual

def ValueExpr.build (known : Bindings) : ValueExpr → Building Value
  | .undefined => pure .undefined
  | .null => pure .null
  | .boolean truth => pure (.boolean truth)
  | .number x => pure (.number x)
  | .text content => pure (.text content)
  | .object rendering => pure (.object rendering)
  | .ns n => do return .ns (← n.build known)
  | .name q none => do return .ofQName (← q.build known)
  | .name q (some rendering) => do return .name ⟨← q.build known, rendering⟩

def NamespaceExpr.build (known : Bindings) : NamespaceExpr → Building Namespace
  | .publicNs => pure .publicNs
  | .ofUri uri => do return .fromUri (← uri.build known)
  | .ofPrefixAndUri candidate uri => do
    let candidate ← candidate.build known
    let uri ← uri.build known
    Building.of .illegalPrefix (Namespace.fromPrefixAndUri candidate uri)
  | .construct args => do
    let args ← buildValues known args
    Namespace.construct args
  | .json source => Building.of .unreadable (Namespace.ofJsonText source)
  | .bound name =>
    match known.lookup name with
    | some n => pure n
    | none => throw (.unbound name)

def QNameExpr.build (known : Bindings) : QNameExpr → Building QName
  | .inNamespace n localName => do return .inNamespace (← n.build known) localName
  | .anyNamespace localName => pure (.anyNamespace localName)

def buildValues (known : Bindings) : List ValueExpr → Building (List Value)
  | [] => pure []
  | first :: rest => do
    let value ← first.build known
    return value :: (← buildValues known rest)

end

def buildOptional (known : Bindings) : Option NamespaceExpr → Building (Option Namespace)
  | none => pure none
  | some n => do return some (← n.build known)

-- A key as it is written, with its reading for each kind of key; the store decides which one counts.
structure KeyExpr where
  text : Option String
  number : Option Int
  ns : Option NamespaceExpr
  name : Option QNameExpr

def KeyExpr.build (known : Bindings) (key : KeyExpr) : Key.Kind → Building Key
  | .text => (key.text.map Key.text).getDM (throw .wrongKey)
  | .number => (key.number.map Key.number).getDM (throw .wrongKey)
  | .ns =>
    match key.ns with
    | some n => do return .ns (← n.build known)
    | none => throw .wrongKey
  | .name =>
    match key.name with
    | some q => do return .name (← q.build known)
    | none => throw .wrongKey

end XmlNames.Script
