import XmlNames.Distinct
import XmlNames.NativeClass
import XmlNames.Property.Cursor
import XmlNames.Script.Operand

set_option autoImplicit false

namespace XmlNames.Script

inductive Query where
  | isValidPrefix (text : String)
  | toText (value : ValueExpr)
  | describe (n : NamespaceExpr)
  | className
  | equals (a b : Option NamespaceExpr)
  | name (q : QNameExpr)
  | nameEquals (a b : QNameExpr)
  | newNamespaces (items : List NamespaceExpr)
  | newNames (items : List QNameExpr)
  | index (n : NamespaceExpr) (place : Nat)
  | property (n : NamespaceExpr) (key : String)
  | properties (n : NamespaceExpr) (moves : List Move)
  | serialize (n : NamespaceExpr)

inductive Answer where
  | ns (n : Namespace)
  | valid (holds : Bool)
  | text (content : String) (absent : Bool)
  | description (uri : String) (nsPrefix : Option String) (isPublic : Bool) (shown : String)
  | className (name : String)
  | equality (nullable : Bool) (direct : Option Bool)
  | name (q : QName) (text shown : String)
  | same (holds : Bool)
  | newcomers (flags : List Bool)
  | index (next : Nat) (name : Option String) (value : Value)
  | property (has enumerable : Bool) (value : Value)
  | moves (answers : List Move.Answer)
  | json (text : String)
  | done
  | size (slots : Nat) (empty : Bool)
  | slot (n : Option Namespace) (slots : Nat)
  deriving DecidableEq, Repr

def Query.answer (known : Bindings) : Query → Building Answer
  | .isValidPrefix text => return .valid (XmlNames.isValidPrefix text)
  | .toText value => do
    let value ← value.build known
    return .text value.toText value.isAbsent
  | .describe n => do
    let n ← n.build known
    return .description n.uri n.nsPrefix n.isPublic (toString n)
  | .className => return .className namespaceClass.name
  | .equals a b => do
    let a ← buildOptional known a
    let b ← buildOptional known b
    return .equality (Namespace.equals a b) (do return (← a) == (← b))
  | .name q => do
    let q ← q.build known
    return .name q q.render (toString q)
  | .nameEquals a b => do
    let a ← a.build known
    let b ← b.build known
    return .same (a == b)
  | .newNamespaces items => do
    let items ← items.mapM (·.build known)
    return .newcomers (XmlNames.newcomers items)
  | .newNames items => do
    let items ← items.mapM (·.build known)
    return .newcomers (XmlNames.newcomers items)
  | .index n place => do
    let n ← n.build known
    return .index (Property.nextIndex place) (Property.nameAt? place) (n.valueAt place)
  | .property n key => do
    let n ← n.build known
    return .property (Property.has key) (Property.isEnumerable key) (n.property key)
  | .properties n moves => do
    let n ← n.build known
    match Move.runAll [n.properties] moves with
    | some answers => return .moves answers
    | none => throw .noCursor
  | .serialize n => do
    let n ← n.build known
    return .json n.toJsonText

end XmlNames.Script
