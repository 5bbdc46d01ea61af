import Mathlib.Data.Finset.Card
import Mathlib.Data.List.Perm.Basic
import XmlNames.Distinct
import XmlNames.QName

set_option autoImplicit false

namespace XmlNames

section

variable {α β : Type} [BEq α] [Hashable α]

structure NewByKind [DecidableEq β] (kind : α → β) : Prop where
  length_eq : ∀ items : List α, (newcomers items).length = items.length
  new_iff : ∀ (items : List α) (i : Nat) (item : α), items[i]? = some item →
    ((newcomers items)[i]? = some true ↔ ∀ earlier ∈ items.take i, kind earlier ≠ kind item)
  count_eq : ∀ items : List α, (newcomers items).count true = (items.map kind).toFinset.card
  count_perm : ∀ items others : List α, items.Perm others →
    (newcomers items).count true = (newcomers others).count true
  congr : ∀ items others : List α, items.map kind = others.map kind → newcomers items = newcomers others

def Knows (kind : α → β) (seen : Std.HashSet α) (known : Finset β) : Prop :=
  ∀ item, seen.contains item = true ↔ kind item ∈ known

variable [EquivBEq α] [LawfulHashable α]

-- An item is in the set if it was there from the start or came earlier.
theorem getElem?_newTo (seen : Std.HashSet α) (items : List α) (i : Nat) :
    (newTo seen items)[i]? =
      items[i]?.map fun item => !(seen.contains item || (items.take i).any (· == item)) := by
  induction items generalizing seen i with
  | nil => simp [newTo]
  | cons first items ih =>
    cases i with
    | zero => simp [newTo]
    | succ i =>
      rw [newTo, List.getElem?_cons_succ, List.getElem?_cons_succ, ih]
      simp only [Std.HashSet.contains_insert, List.take_succ_cons, List.any_cons, Bool.or_left_comm, Bool.or_assoc]

variable [DecidableEq β] {kind : α → β} (same : ∀ a b : α, (a == b) = true ↔ kind a = kind b)

include same

theorem newcomers_eq_mapIdx (items : List α) :
    newcomers items = (items.map kind).mapIdx fun i k => decide (k ∉ (items.map kind).take i) := by
  apply List.ext_getElem?
  intro i
  rw [newcomers, getElem?_newTo, List.getElem?_mapIdx, List.getElem?_map, Option.map_map]
  congr 1
  funext item
  rw [Std.HashSet.contains_empty, Bool.false_or, Function.comp_apply, ← List.map_take, Bool.eq_iff_iff]
  simp only [Bool.not_eq_true', List.any_eq_false, same, decide_eq_true_eq, List.mem_map, not_exists, not_and]

theorem Knows.inserted {seen : Std.HashSet α} {known : Finset β} (knows : Knows kind seen known) (first : α) :
    Knows kind (seen.insert first) (insert (kind first) known) := by
  intro item
  rw [Std.HashSet.contains_insert, Bool.or_eq_true, same, knows item, Finset.mem_insert, eq_comm]

theorem Knows.count_newTo {seen : Std.HashSet α} {known : Finset β} (knows : Knows kind seen known)
    (items : List α) : (newTo seen items).count true = ((items.map kind).toFinset \ known).card := by
  induction items generalizing seen known with
  | nil => simp [newTo]
  | cons first items ih =>
    rw [newTo, List.count_cons, ih (knows.inserted same first), List.map_cons, List.toFinset_cons]
    by_cases old : kind first ∈ known
    · have contained : seen.contains first = true := (knows first).2 old
      rw [Finset.insert_sdiff_of_mem _ old, Finset.insert_eq_of_mem old, contained]
      rfl
    · have missing : seen.contains first = false := Bool.eq_false_iff.2 ((knows first).not.2 old)
      have fresh : kind first ∈ insert (kind first) (items.map kind).toFinset \ known :=
        Finset.mem_sdiff.2 ⟨Finset.mem_insert_self _ _, old⟩
      rw [← Finset.insert_sdiff_insert, Finset.sdiff_insert, missing]
      exact Finset.card_erase_add_one fresh

theorem count_newcomers (items : List α) :
    (newcomers items).count true = (items.map kind).toFinset.card := by
  have knows : Knows kind (∅ : Std.HashSet α) ∅ := fun item => by simp
  rw [newcomers, knows.count_newTo same, Finset.sdiff_empty]

theorem newByKind : NewByKind kind where
  length_eq items := by
    simp [newcomers_eq_mapIdx same]
  new_iff items i item place := by
    simp [newcomers_eq_mapIdx same, place, ← List.map_take]
  count_eq := count_newcomers same
  count_perm items others perm := by
    rw [count_newcomers same, count_newcomers same, List.toFinset_eq_of_perm _ _ (perm.map kind)]
  congr items others kinds := by
    rw [newcomers_eq_mapIdx same, newcomers_eq_mapIdx same, kinds]

end

namespace Namespace

theorem equals_iff {a b : Option Namespace} : equals a b = true ↔ a.map uri = b.map uri := by
  cases a <;> cases b <;> simp [equals, beq_iff]

theorem equals_none_iff {b : Option Namespace} : equals none b = true ↔ b = none := by
  cases b <;> simp [equals]

theorem equals_equivalence : Equivalence fun a b => equals a b = true where
  refl _ := equals_iff.2 rfl
  symm same := equals_iff.2 (equals_iff.1 same).symm
  trans same next := equals_iff.2 ((equals_iff.1 same).trans (equals_iff.1 next))

end Namespace

def QName.identity (name : QName) : String × Option String := (name.localName, name.ns.map Namespace.uri)

theorem QName.beq_iff_identity {a b : QName} : (a == b) = true ↔ a.identity = b.identity := by
  rw [beq_iff, identity, identity, Prod.mk.injEq]

inductive HashPart where
  | text (content : String)
  | present (held : Bool)
  deriving DecidableEq, Repr

def Namespace.hashParts (n : Namespace) : List HashPart := [.text n.uri]

def QName.hashParts (name : QName) : List HashPart :=
  (match name.ns with
    | none => [.present false]
    | some ns => .present true :: ns.hashParts) ++ [.text name.localName]

theorem Namespace.hashParts_eq_iff {a b : Namespace} : a.hashParts = b.hashParts ↔ (a == b) = true := by
  simp [hashParts, beq_iff]

theorem QName.hashParts_eq_iff {a b : QName} : a.hashParts = b.hashParts ↔ (a == b) = true := by
  obtain ⟨ns, localName⟩ := a
  obtain ⟨ns', localName'⟩ := b
  rw [beq_iff]
  cases ns <;> cases ns' <;> simp [hashParts, Namespace.hashParts, and_comm]

theorem distinct_by_uri :
    NewByKind Namespace.uri ∧ NewByKind QName.identity ∧
    (∀ a b : Option Namespace, Namespace.equals a b = true ↔ a.map Namespace.uri = b.map Namespace.uri) ∧
    (∀ b : Option Namespace, Namespace.equals none b = true ↔ b = none) ∧
    (Equivalence fun a b : Option Namespace => Namespace.equals a b = true) ∧
    (∀ a b : Namespace, (a == b) = Namespace.equals (some a) (some b) ∧
      (a.hashParts = b.hashParts ↔ (a == b) = true) ∧ (a.hashParts = b.hashParts → hash a = hash b)) ∧
    ∀ a b : QName, ((a == b) = true ↔ a.localName = b.localName ∧ Namespace.equals a.ns b.ns = true) ∧
      (a.hashParts = b.hashParts ↔ (a == b) = true) ∧ (a.hashParts = b.hashParts → hash a = hash b) := by
  refine ⟨newByKind fun a b => Namespace.beq_iff, newByKind fun a b => QName.beq_iff_identity,
    fun a b => Namespace.equals_iff, fun b => Namespace.equals_none_iff, Namespace.equals_equivalence, ?_, ?_⟩
  · intro a b
    exact ⟨rfl, Namespace.hashParts_eq_iff, fun fed => hash_eq (Namespace.hashParts_eq_iff.1 fed)⟩
  · intro a b
    rw [Namespace.equals_iff, ← QName.beq_iff]
    exact ⟨Iff.rfl, QName.hashParts_eq_iff, fun fed => hash_eq (QName.hashParts_eq_iff.1 fed)⟩

theorem distinct_by_uri_among_prefixes :
    let items : List Namespace := [⟨"u", some "p"⟩, ⟨"v", none⟩, ⟨"u", none⟩]
    let names : List QName := [.anyNamespace "x", .inNamespace .publicNs "x", .inNamespace ⟨"", none⟩ "x"]
    (items[2]? = some ⟨"u", none⟩ ∧ names.Perm names.reverse) ∧
    (newcomers items)[2]? ≠ some true ∧ (newcomers items).count true = 2 ∧
    (newcomers names).count true = 2 ∧ (newcomers names.reverse).count true = 2 ∧
    hash (⟨"u", some "p"⟩ : Namespace) = hash (⟨"u", none⟩ : Namespace) := by
  intro items names
  obtain ⟨namespaces, qnames, -, -, -, hashed, -⟩ := distinct_by_uri
  have perm : names.Perm names.reverse := names.reverse_perm.symm
  have count : (newcomers names).count true = 2 := (qnames.count_eq names).trans (by decide)
  refine ⟨⟨rfl, perm⟩, ?_, (namespaces.count_eq items).trans (by decide), count, ?_, (hashed _ _).2.2 rfl⟩
  · rw [Ne, namespaces.new_iff items 2 ⟨"u", none⟩ rfl]
    decide
  · rw [← qnames.count_perm names _ perm, count]

end XmlNames
