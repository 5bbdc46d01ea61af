import XmlNames.Namespace

set_option autoImplicit false

namespace XmlNames

structure QName where
  ns : Option Namespace
  localName : String
  deriving DecidableEq, Repr

namespace QName

def inNamespace (ns : Namespace) (localName : String) : QName := ⟨some ns, localName⟩

def anyNamespace (localName : String) : QName := ⟨none, localName⟩

def render (name : QName) : String :=
  match name.ns with
  | none => "*::" ++ name.localName
  | some ns => if ns.isPublic then name.localName else ns.uri ++ "::" ++ name.localName

instance : ToString QName := ⟨render⟩

def uriText (name : QName) : String :=
  match name.ns with
  | none => "*::" ++ name.localName
  | some ns => ns.uri

instance : BEq QName :=
  ⟨fun a b => a.localName == b.localName && Namespace.equals a.ns b.ns⟩

instance : Hashable QName :=
  ⟨fun name => mixHash (hash name.localName) (hash (name.ns.map Namespace.uri))⟩

theorem beq_iff {a b : QName} :
    (a == b) = true ↔ a.localName = b.localName ∧ a.ns.map Namespace.uri = b.ns.map Namespace.uri := by
  obtain ⟨a, s⟩ := a
  obtain ⟨b, t⟩ := b
  change (s == t && Namespace.equals a b) = true ↔ _
  cases a <;> cases b <;> simp [Namespace.equals, Namespace.beq_iff]

instance : EquivBEq QName where
  rfl := beq_iff.2 ⟨rfl, rfl⟩
  symm h := beq_iff.2 ⟨(beq_iff.1 h).1.symm, (beq_iff.1 h).2.symm⟩
  trans h k := beq_iff.2 ⟨(beq_iff.1 h).1.trans (beq_iff.1 k).1, (beq_iff.1 h).2.trans (beq_iff.1 k).2⟩

instance : LawfulHashable QName where
  hash_eq a b same := by
    change mixHash (hash a.localName) (hash (a.ns.map Namespace.uri)) =
      mixHash (hash b.localName) (hash (b.ns.map Namespace.uri))
    rw [(beq_iff.1 same).1, (beq_iff.1 same).2]

end QName

structure NameObject where
  name : QName
  rendering : String
  deriving DecidableEq, Repr

def QName.toObject (name : QName) : NameObject := ⟨name, name.render⟩

end XmlNames
