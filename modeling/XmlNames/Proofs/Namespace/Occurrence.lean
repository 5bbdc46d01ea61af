import XmlNames.Script.Run

set_option autoImplicit false

namespace XmlNames

def QName.namespaces (q : QName) : List Namespace := q.ns.toList

def Value.namespaces : Value → List Namespace
  | .ns n => [n]
  | .name named => named.name.namespaces
  | _ => []

def Key.namespaces : Key → List Namespace
  | .ns n => [n]
  | .name q => q.namespaces
  | _ => []

def Event.namespaces : Event → List Namespace
  | .constructed _ result => [result]
  | _ => []

def Move.Answer.namespaces : Move.Answer → List Namespace
  | .item pair => pair.toList.flatMap fun pair => pair.2.namespaces
  | .items pairs => pairs.flatMap fun pair => pair.2.namespaces
  | .cursor _ => []

namespace Script

def Answer.namespaces : Answer → List Namespace
  | .ns n => [n]
  | .description uri nsPrefix _ _ => [⟨uri, nsPrefix⟩]
  | .name q _ _ => q.namespaces
  | .index _ _ value => value.namespaces
  | .property _ _ value => value.namespaces
  | .moves answers => answers.flatMap Move.Answer.namespaces
  | .slot n _ => n.toList
  | _ => []

def Item.namespaces : Item → List Namespace
  | .event e => e.namespaces
  | .entry (.answer a) => a.namespaces
  | .entry _ => []

def slotNamespaces (slot : Key × Namespace) : List Namespace := slot.2 :: slot.1.namespaces

def KeyedStore.namespaces (s : KeyedStore) : List Namespace := s.slots.slots.flatMap slotNamespaces

-- An unset register counts as what it reads as.
def Machine.namespaces (m : Machine) : List Namespace :=
  m.register.reading :: (m.bindings.map Prod.snd ++ m.stores.flatMap fun entry => entry.2.namespaces)

end Script

def AllWellFormed (held : List Namespace) : Prop := ∀ n ∈ held, n.WellFormed

namespace AllWellFormed

@[simp] theorem nil : AllWellFormed [] := by
  simp [AllWellFormed]

@[simp] theorem cons {n : Namespace} {held : List Namespace} :
    AllWellFormed (n :: held) ↔ n.WellFormed ∧ AllWellFormed held :=
  List.forall_mem_cons

@[simp] theorem append {held more : List Namespace} :
    AllWellFormed (held ++ more) ↔ AllWellFormed held ∧ AllWellFormed more :=
  List.forall_mem_append

@[simp] theorem map {α : Type} {items : List α} {f : α → Namespace} :
    AllWellFormed (items.map f) ↔ ∀ item ∈ items, (f item).WellFormed :=
  List.forall_mem_map

@[simp] theorem flatMap {α : Type} {items : List α} {f : α → List Namespace} :
    AllWellFormed (items.flatMap f) ↔ ∀ item ∈ items, AllWellFormed (f item) := by
  simp only [AllWellFormed, List.mem_flatMap]
  constructor
  · exact fun all item mem n held => all n ⟨item, mem, held⟩
  · rintro all n ⟨item, mem, held⟩
    exact all item mem n held

@[simp] theorem toList {n : Option Namespace} :
    AllWellFormed n.toList ↔ ∀ x, n = some x → x.WellFormed := by
  cases n <;> simp

end AllWellFormed

namespace Script

theorem Machine.allWellFormed_iff {m : Machine} :
    AllWellFormed m.namespaces ↔ m.register.reading.WellFormed ∧
      (∀ entry ∈ m.bindings, entry.2.WellFormed) ∧
      ∀ entry ∈ m.stores, AllWellFormed entry.2.namespaces := by
  simp only [Machine.namespaces, AllWellFormed.cons, AllWellFormed.append, AllWellFormed.map,
    AllWellFormed.flatMap]

end Script

end XmlNames
