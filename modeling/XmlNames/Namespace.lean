import XmlNames.Prefix

set_option autoImplicit false

namespace XmlNames

-- An absent prefix and the empty prefix differ.
structure Namespace where
  uri : String
  nsPrefix : Option String
  deriving DecidableEq, Repr

structure IllegalPrefix where
  candidate : String
  deriving DecidableEq, Repr

namespace IllegalPrefix

def code (_ : IllegalPrefix) : String := "IllegalPrefixForPublicNamespace"

def message (e : IllegalPrefix) : String :=
  "illegal prefix '" ++ e.candidate ++ "' for public namespace"

end IllegalPrefix

namespace Namespace

def publicNs : Namespace := ⟨"", some ""⟩

instance : Inhabited Namespace := ⟨publicNs⟩

def isPublic (n : Namespace) : Bool := n.uri == ""

def ofUri (uri : String) : Namespace :=
  ⟨uri, if uri = "" then some "" else none⟩

def ofPrefixAndUri (candidate : Option String) (uri : String) : Except IllegalPrefix Namespace :=
  match candidate with
  | none => .ok ⟨uri, none⟩
  | some text =>
    if text = "" then .ok ⟨uri, some ""⟩
    else if uri = "" then .error ⟨text⟩
    else .ok ⟨uri, if isValidPrefix text then some text else none⟩

structure WellFormed (n : Namespace) : Prop where
  unnamed : n.uri = "" → n.nsPrefix = none ∨ n.nsPrefix = some ""
  lexical : ∀ text, n.nsPrefix = some text → text = "" ∨ isValidPrefix text = true

theorem publicNs_wellFormed : publicNs.WellFormed :=
  ⟨fun _ => .inr rfl, fun text same => .inl (by simpa [publicNs] using same.symm)⟩

theorem ofUri_wellFormed (uri : String) : (ofUri uri).WellFormed := by
  by_cases empty : uri = "" <;> constructor <;> simp [ofUri, empty]

theorem ofPrefixAndUri_wellFormed {candidate : Option String} {uri : String} {n : Namespace}
    (made : ofPrefixAndUri candidate uri = .ok n) : n.WellFormed := by
  revert made
  fun_cases ofPrefixAndUri candidate uri with
  | case1 => rintro ⟨⟩; constructor <;> simp
  | case2 => rintro ⟨⟩; constructor <;> simp
  | case3 => nofun
  | case4 text _ named =>
    rintro ⟨⟩
    constructor
    · exact fun unnamed => absurd unnamed named
    · intro kept same
      by_cases valid : isValidPrefix text <;> simp_all

theorem ofPrefixAndUri_fields {n : Namespace} :
    ofPrefixAndUri n.nsPrefix n.uri = .ok n ↔ n.WellFormed := by
  refine ⟨ofPrefixAndUri_wellFormed, fun good => ?_⟩
  obtain ⟨uri, nsPrefix⟩ := n
  cases nsPrefix with
  | none => rfl
  | some text =>
    by_cases empty : text = ""
    · simp [ofPrefixAndUri, empty]
    · have named : uri ≠ "" := fun unnamed => by simpa [empty] using good.unnamed unnamed
      have valid : isValidPrefix text = true := (good.lexical text rfl).resolve_left empty
      simp [ofPrefixAndUri, empty, named, valid]

instance : BEq Namespace := ⟨fun a b => a.uri == b.uri⟩

instance : Hashable Namespace := ⟨fun n => hash n.uri⟩

theorem beq_iff {a b : Namespace} : (a == b) = true ↔ a.uri = b.uri :=
  beq_iff_eq (α := String)

instance : EquivBEq Namespace where
  rfl := beq_iff.2 rfl
  symm h := beq_iff.2 (beq_iff.1 h).symm
  trans h k := beq_iff.2 ((beq_iff.1 h).trans (beq_iff.1 k))

instance : LawfulHashable Namespace where
  hash_eq _ _ same := congrArg (fun uri : String => hash uri) (beq_iff.1 same)

def equals : Option Namespace → Option Namespace → Bool
  | none, none => true
  | some a, some b => a == b
  | _, _ => false

instance : ToString Namespace := ⟨uri⟩

end Namespace

end XmlNames
