import XmlNames.Proofs.Script.Building
import XmlNames.Script.Action

set_option autoImplicit false

namespace XmlNames.Script

inductive Operand where
  | value (v : ValueExpr)
  | ns (n : NamespaceExpr)
  | name (q : QNameExpr)

def optionalOperand (n : Option NamespaceExpr) : List Operand := n.toList.map .ns

def Query.operands : Query → List Operand
  | .isValidPrefix _ | .className => []
  | .toText value => [.value value]
  | .describe n | .index n _ | .property n _ | .properties n _ | .serialize n => [.ns n]
  | .equals a b => optionalOperand a ++ optionalOperand b
  | .name q => [.name q]
  | .nameEquals a b => [.name a, .name b]
  | .newNamespaces items => items.map .ns
  | .newNames items => items.map .name

def Source.operands : Source → List Operand
  | .operand n => [.ns n]
  | .new args | .call args => args.map .value
  -- What is made of the two is an operand of its own, as it can fail where they do not.
  | .newWithPrefix candidate uri => [.ns (.ofPrefixAndUri candidate uri)]
  | .currentDefault => []
  | .swapDefault next => optionalOperand next

theorem Source.give_newWithPrefix (m : Machine) (candidate uri : ValueExpr) :
    (newWithPrefix candidate uri).give m =
      (fun n => (n, m)) <$> (NamespaceExpr.ofPrefixAndUri candidate uri).build m.bindings := by
  simp [give, NamespaceExpr.build, namespaceClass.constructWithPrefix]

-- The kind of keys decides which reading of a key counts.
def KeyExpr.operands (key : KeyExpr) : Key.Kind → List Operand
  | .text | .number => []
  | .ns => key.ns.toList.map .ns
  | .name => key.name.toList.map .name

def StoreAction.operands (kind : Key.Kind) : StoreAction → List Operand
  | .new _ | .clone _ | .size => []
  | .get key | .remove key => key.operands kind
  | .set key next | .swap key next => optionalOperand next ++ key.operands kind

mutual

def ValueExpr.names : ValueExpr → List String
  | .undefined | .null | .boolean _ | .number _ | .text _ | .object _ => []
  | .ns n => n.names
  | .name q _ => q.names

def NamespaceExpr.names : NamespaceExpr → List String
  | .publicNs | .json _ => []
  | .ofUri uri => uri.names
  | .ofPrefixAndUri candidate uri => candidate.names ++ uri.names
  | .construct args => namesOfValues args
  | .bound name => [name]

def QNameExpr.names : QNameExpr → List String
  | .inNamespace n _ => n.names
  | .anyNamespace _ => []

def namesOfValues : List ValueExpr → List String
  | [] => []
  | first :: rest => first.names ++ namesOfValues rest

end

def Operand.names : Operand → List String
  | value v => v.names
  | ns n => n.names
  | name q => q.names

def SameOn (names : List String) (known other : Bindings) : Prop :=
  ∀ name ∈ names, known.lookup name = other.lookup name

theorem sameOn_append {names more : List String} {known other : Bindings} :
    SameOn (names ++ more) known other ↔ SameOn names known other ∧ SameOn more known other :=
  List.forall_mem_append

section

variable {known other : Bindings}

mutual

theorem ValueExpr.build_congr (value : ValueExpr) (same : SameOn value.names known other) :
    value.build known = value.build other := by
  match value with
  | .undefined | .null | .boolean _ | .number _ | .text _ | .object _ => simp only [ValueExpr.build]
  | .ns n => simp only [ValueExpr.build, NamespaceExpr.build_congr n same]
  | .name q none => simp only [ValueExpr.build, QNameExpr.build_congr q same]
  | .name q (some _) => simp only [ValueExpr.build, QNameExpr.build_congr q same]

theorem NamespaceExpr.build_congr (n : NamespaceExpr) (same : SameOn n.names known other) :
    n.build known = n.build other := by
  match n with
  | .publicNs | .json _ => simp only [NamespaceExpr.build]
  | .ofUri uri => simp only [NamespaceExpr.build, ValueExpr.build_congr uri same]
  | .ofPrefixAndUri candidate uri =>
    have both := sameOn_append.1 same
    simp only [NamespaceExpr.build, ValueExpr.build_congr candidate both.1, ValueExpr.build_congr uri both.2]
  | .construct args => simp only [NamespaceExpr.build, buildValues_congr args same]
  | .bound name => simp only [NamespaceExpr.build, same name (List.mem_singleton.2 rfl)]

theorem QNameExpr.build_congr (q : QNameExpr) (same : SameOn q.names known other) :
    q.build known = q.build other := by
  match q with
  | .inNamespace n localName => simp only [QNameExpr.build, NamespaceExpr.build_congr n same]
  | .anyNamespace localName => simp only [QNameExpr.build]

theorem buildValues_congr (args : List ValueExpr) (same : SameOn (namesOfValues args) known other) :
    buildValues known args = buildValues other args := by
  match args with
  | [] => simp only [buildValues]
  | first :: rest =>
    have both := sameOn_append.1 same
    simp only [buildValues, ValueExpr.build_congr first both.1, buildValues_congr rest both.2]

end

def namesOf (operands : List Operand) : List String := operands.flatMap Operand.names

theorem sameOn_of_mem {operands : List Operand} {x : Operand} (same : SameOn (namesOf operands) known other)
    (mem : x ∈ operands) : SameOn x.names known other :=
  fun name held => same name (List.mem_flatMap.2 ⟨x, mem, held⟩)

theorem namesOf_values (args : List ValueExpr) : namesOf (args.map .value) = namesOfValues args := by
  induction args with
  | nil => simp [namesOf, namesOfValues]
  | cons first rest ih =>
    rw [namesOfValues, ← ih]
    simp [namesOf, Operand.names]

theorem buildOptional_congr (n : Option NamespaceExpr)
    (same : SameOn (namesOf (optionalOperand n)) known other) :
    buildOptional known n = buildOptional other n := by
  cases n with
  | none => rfl
  | some n =>
    have inside : SameOn n.names known other := sameOn_of_mem (x := .ns n) same (by simp [optionalOperand])
    simp only [buildOptional, n.build_congr inside]

theorem mapM_congr {α β : Type} {f g : α → Building β} {items : List α} (same : ∀ x ∈ items, f x = g x) :
    items.mapM f = items.mapM g := by
  induction items with
  | nil => rfl
  | cons first rest ih =>
    rw [List.mapM_cons, List.mapM_cons, same first List.mem_cons_self,
      ih fun x mem => same x (List.mem_cons_of_mem first mem)]

theorem Query.answer_congr (query : Query) (same : SameOn (namesOf query.operands) known other) :
    query.answer known = query.answer other := by
  cases query with
  | isValidPrefix | className => rfl
  | toText value =>
    have inside : SameOn value.names known other := sameOn_of_mem same List.mem_cons_self
    simp only [Query.answer, value.build_congr inside]
  | describe n | index n | property n | properties n | serialize n =>
    have inside : SameOn n.names known other := sameOn_of_mem same List.mem_cons_self
    simp only [Query.answer, n.build_congr inside]
  | equals a b =>
    rw [Query.operands, namesOf, List.flatMap_append] at same
    have both := sameOn_append.1 same
    simp only [Query.answer, buildOptional_congr a both.1, buildOptional_congr b both.2]
  | name q =>
    have inside : SameOn q.names known other := sameOn_of_mem same List.mem_cons_self
    simp only [Query.answer, q.build_congr inside]
  | nameEquals a b =>
    have first : SameOn a.names known other :=
      sameOn_of_mem (x := .name a) same (by simp [Query.operands])
    have second : SameOn b.names known other :=
      sameOn_of_mem (x := .name b) same (by simp [Query.operands])
    simp only [Query.answer, a.build_congr first, b.build_congr second]
  | newNamespaces items =>
    have built : items.mapM (·.build known) = items.mapM (·.build other) :=
      mapM_congr fun n mem => n.build_congr (sameOn_of_mem (x := .ns n) same (List.mem_map_of_mem mem))
    simp only [Query.answer, built]
  | newNames items =>
    have built : items.mapM (·.build known) = items.mapM (·.build other) :=
      mapM_congr fun q mem => q.build_congr (sameOn_of_mem (x := .name q) same (List.mem_map_of_mem mem))
    simp only [Query.answer, built]

end

end XmlNames.Script
