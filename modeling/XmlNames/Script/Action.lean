import XmlNames.Default.Register
import XmlNames.Default.Store
import XmlNames.Script.Query

set_option autoImplicit false

namespace XmlNames.Script

structure KeyedStore where
  kind : Key.Kind
  slots : Store Key
  deriving Repr

structure Machine where
  register : Register
  bindings : Bindings
  stores : List (String × KeyedStore)
  deriving Repr

namespace Machine

def start : Machine := ⟨.fresh, [], []⟩

def bind (m : Machine) (name : Option String) (n : Namespace) : Machine :=
  match name with
  | some name => { m with bindings := (name, n) :: m.bindings }
  | none => m

def store (m : Machine) (name : String) : Building KeyedStore :=
  match m.stores.lookup name with
  | some s => pure s
  | none => throw (.noStore name)

def keep (m : Machine) (name : String) (s : KeyedStore) : Machine :=
  { m with stores := (name, s) :: m.stores.filter fun entry => entry.1 != name }

end Machine

inductive Source where
  | operand (n : NamespaceExpr)
  | new (args : List ValueExpr)
  | call (args : List ValueExpr)
  | newWithPrefix (candidate uri : ValueExpr)
  | currentDefault
  | swapDefault (next : Option NamespaceExpr)

inductive StoreAction where
  | new (kind : Key.Kind)
  | clone (copy : String)
  | size
  | get (key : KeyExpr)
  | set (key : KeyExpr) (next : Option NamespaceExpr)
  | swap (key : KeyExpr) (next : Option NamespaceExpr)
  | remove (key : KeyExpr)

inductive Action where
  | ask (query : Query)
  | give (source : Source) (bindTo : Option String)
  | setDefault (next : Option NamespaceExpr)
  | keyed (store : String) (action : StoreAction)

def Source.give (m : Machine) : Source → Building (Namespace × Machine)
  | .operand n => do return (← n.build m.bindings, m)
  | .new args => do
    let args ← buildValues m.bindings args
    let made ← namespaceClass.construct args
    return (← Building.of .illegalPrefix made, m)
  | .call args => do
    let args ← buildValues m.bindings args
    let made ← namespaceClass.call args
    return (← Building.of .illegalPrefix made, m)
  | .newWithPrefix candidate uri => do
    let candidate ← candidate.build m.bindings
    let uri ← uri.build m.bindings
    return (← Building.of .illegalPrefix (namespaceClass.constructWithPrefix candidate uri), m)
  | .currentDefault => do
    let (n, register) := m.register.get
    return (n, { m with register })
  | .swapDefault next => do
    let next ← buildOptional m.bindings next
    let (previous, register) ← m.register.swap next
    return (previous, { m with register })

def StoreAction.perform (m : Machine) (name : String) : StoreAction → Building (Answer × Machine)
  | .new kind => return (.done, m.keep name ⟨kind, .empty⟩)
  | .clone copy => do return (.done, m.keep copy (← m.store name))
  | .size => do
    let s ← m.store name
    return (.size s.slots.size s.slots.isEmpty, m)
  | .get key => do
    let s ← m.store name
    let key ← key.build m.bindings s.kind
    let (n, slots) := s.slots.get key
    return (.slot n slots.size, m.keep name { s with slots })
  | .set key next => do
    let s ← m.store name
    let next ← buildOptional m.bindings next
    let key ← key.build m.bindings s.kind
    let slots ← s.slots.set key next
    return (.slot none slots.size, m.keep name { s with slots })
  | .swap key next => do
    let s ← m.store name
    let next ← buildOptional m.bindings next
    let key ← key.build m.bindings s.kind
    let (previous, slots) ← s.slots.swap key next
    return (.slot previous slots.size, m.keep name { s with slots })
  | .remove key => do
    let s ← m.store name
    let key ← key.build m.bindings s.kind
    let (removed, slots) := s.slots.remove key
    return (.slot removed slots.size, m.keep name { s with slots })

def Action.perform (m : Machine) : Action → Building (Answer × Machine)
  | .ask query => do return (← query.answer m.bindings, m)
  | .give source bindTo => do
    let (n, m) ← source.give m
    return (.ns n, m.bind bindTo n)
  | .setDefault next => do
    let next ← buildOptional m.bindings next
    let register ← m.register.set next
    return (.done, { m with register })
  | .keyed store action => action.perform m store

end XmlNames.Script
