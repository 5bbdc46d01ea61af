import XmlNames.Proofs.Property.Round

set_option autoImplicit false

namespace XmlNames

namespace Property

inductive Walk : Nat → List Nat → Prop
  | ended {index : Nat} (last : nextIndex index = 0) : Walk index []
  | onward {index : Nat} {met : List Nat} (further : nextIndex index ≠ 0) (more : Walk (nextIndex index) met) :
    Walk index (nextIndex index :: met)

theorem Walk.unique {index : Nat} {met other : List Nat} (walk : Walk index met) (walk' : Walk index other) :
    other = met := by
  induction walk generalizing other with
  | ended last =>
    cases walk' with
    | ended _ => rfl
    | onward further _ => exact absurd last further
  | onward further _ ih =>
    cases walk' with
    | ended last => exact absurd last further
    | onward _ more => rw [ih more]

-- As long as a walk goes on, its indices grow, and they stay small.
theorem lt_nextIndex {index : Nat} (further : nextIndex index ≠ 0) : index < nextIndex index := by
  match index with
  | 0 | 1 => decide
  | index + 2 => exact absurd rfl further

theorem exists_walk (index : Nat) : ∃ met, Walk index met := by
  by_cases last : nextIndex index = 0
  · exact ⟨[], .ended last⟩
  · obtain ⟨met, more⟩ := exists_walk (nextIndex index)
    exact ⟨nextIndex index :: met, .onward last more⟩
termination_by 2 - index
decreasing_by
  have low := nextIndex_le index
  have grown := lt_nextIndex last
  omega

theorem exists_nameAt?_nextIndex {index : Nat} (further : nextIndex index ≠ 0) :
    ∃ name, nameAt? (nextIndex index) = some name := by
  have low := nextIndex_le index
  have named : (nameAt? (nextIndex index)).isSome = true := isSome_nameAt?.2 (by omega)
  exact Option.isSome_iff_exists.1 named

theorem Walk.named {index : Nat} {met : List Nat} (walk : Walk index met) :
    ∀ i ∈ met, (nameAt? i).isSome = true := by
  induction walk with
  | ended _ => simp
  | onward further _ ih =>
    obtain ⟨name, found⟩ := exists_nameAt?_nextIndex further
    exact List.forall_mem_cons.2 ⟨Option.isSome_iff_exists.2 ⟨name, found⟩, ih⟩

theorem walk_zero : Walk 0 [1, 2] :=
  .onward (by decide) (.onward (by decide) (.ended rfl))

theorem Walk.mem_iff {met : List Nat} (walk : Walk 0 met) (index : Nat) :
    index ∈ met ↔ (nameAt? index).isSome = true := by
  rw [walk_zero.unique walk, isSome_nameAt?]
  simp

theorem has_iff {name : String} : has name = true ↔ ∃ index, nameAt? index = some name := by
  rw [has, List.contains_iff_mem, List.mem_iff_getElem?]
  constructor
  · rintro ⟨place, found⟩
    exact ⟨place + 1, found⟩
  · rintro ⟨index, found⟩
    match index with
    | index + 1 => exact ⟨index, found⟩

theorem Walk.has_iff {met : List Nat} (walk : Walk 0 met) (name : String) :
    has name = true ↔ ∃ index ∈ met, nameAt? index = some name := by
  rw [Property.has_iff]
  constructor
  · rintro ⟨index, found⟩
    exact ⟨index, (walk.mem_iff index).2 (Option.isSome_iff_exists.2 ⟨name, found⟩), found⟩
  · rintro ⟨index, -, found⟩
    exact ⟨index, found⟩

theorem valueAt_of_named {index : Nat} {name : String} (found : nameAt? index = some name) (n : Namespace) :
    n.valueAt index = n.property name := by
  rw [Namespace.valueAt, found]

theorem valueAt_of_unnamed {index : Nat} (unnamed : nameAt? index = none) (n : Namespace) :
    n.valueAt index = .undefined := by
  rw [Namespace.valueAt, unnamed]

theorem property_of_unknown {name : String} (unknown : has name = false) (n : Namespace) :
    n.property name = .undefined := by
  unfold Namespace.property
  split
  · exact absurd unknown (by decide)
  · exact absurd unknown (by decide)
  · rfl

theorem Walk.round {index : Nat} {met : List Nat} (walk : Walk index met) (n : Namespace) :
    ∃ pairs, Cursor.Round ⟨n, index⟩ pairs ⟨n, 0⟩ ∧
      met.map (fun i => (nameAt? i, n.valueAt i)) = pairs.map (fun pair => (some pair.1, pair.2)) := by
  induction walk with
  | @ended index last =>
    have ending : Cursor.next ⟨n, index⟩ = (none, ⟨n, 0⟩) := by
      rw [Cursor.next, last]
      rfl
    exact ⟨[], .ended ending, rfl⟩
  | @onward index met further _ ih =>
    obtain ⟨name, found⟩ := exists_nameAt?_nextIndex further
    obtain ⟨pairs, round, same⟩ := ih
    have step : Cursor.next ⟨n, index⟩ = (some (name, n.property name), ⟨n, nextIndex index⟩) := by
      rw [Cursor.next, found]
      rfl
    refine ⟨(name, n.property name) :: pairs, .pair step round, ?_⟩
    rw [List.map_cons, List.map_cons, same, found, valueAt_of_named found]

theorem Walk.pairs_eq {met : List Nat} (walk : Walk 0 met) {n : Namespace} {pairs : List (String × Value)}
    {d : Cursor} (round : n.properties.Round pairs d) :
    met.map (fun i => (nameAt? i, n.valueAt i)) = pairs.map (fun pair => (some pair.1, pair.2)) := by
  obtain ⟨others, round', same⟩ := walk.round n
  have equal : (pairs, d) = (others, ⟨n, 0⟩) := round.rest.symm.trans round'.rest
  rw [(Prod.mk.inj equal).1]
  exact same

theorem walk_meets_properties (n : Namespace) :
    (∀ index, ∃ met, Walk index met ∧ (∀ other, Walk index other → other = met) ∧
      ∀ i ∈ met, (nameAt? i).isSome = true) ∧
    (∃ pairs d, n.properties.Round pairs d) ∧
    ∀ met pairs d, Walk 0 met → n.properties.Round pairs d →
      met.map (fun i => (nameAt? i, n.valueAt i)) = pairs.map (fun pair => (some pair.1, pair.2)) ∧
      (pairs.map Prod.fst).Nodup ∧
      (∀ name, has name = true ↔ ∃ i ∈ met, nameAt? i = some name) ∧
      (∀ name, ∀ i ∈ met, nameAt? i = some name → n.property name = n.valueAt i) ∧
      (∀ name, has name = false → n.property name = .undefined) ∧
      ∀ i, (i ∈ met ↔ (nameAt? i).isSome = true) ∧ (nameAt? i = none → n.valueAt i = .undefined) := by
  refine ⟨?_, ⟨_, _, n.properties.round_rest⟩, ?_⟩
  · intro index
    obtain ⟨met, walk⟩ := exists_walk index
    exact ⟨met, walk, fun _ other => walk.unique other, walk.named⟩
  · intro met pairs d walk round
    refine ⟨walk.pairs_eq round, ?_, walk.has_iff, ?_, ?_, ?_⟩
    · rw [Cursor.AtStart.new.pairs_eq round]
      change ["uri", "prefix"].Nodup
      decide
    · intro name i _ found
      exact (valueAt_of_named found n).symm
    · intro name unknown
      exact property_of_unknown unknown n
    · intro i
      exact ⟨walk.mem_iff i, fun unnamed => valueAt_of_unnamed unnamed n⟩

theorem walk_meets_properties_without_a_prefix :
    let n : Namespace := ⟨"u", none⟩
    let pairs := [("uri", Value.text "u"), ("prefix", .undefined)]
    (Walk 0 [1, 2] ∧ n.properties.Round pairs n.properties ∧ nameAt? 2 = some "prefix" ∧
      has "localName" = false ∧ nameAt? 0xffffffff = none) ∧
    [1, 2].map (fun i => (nameAt? i, n.valueAt i)) = pairs.map (fun pair => (some pair.1, pair.2)) ∧
    n.property "prefix" = n.valueAt 2 ∧ n.property "localName" = .undefined ∧
    n.valueAt 0xffffffff = .undefined := by
  intro n pairs
  have round : n.properties.Round pairs n.properties := Cursor.round_properties n
  have known : nameAt? 2 = some "prefix" := rfl
  have unknown : has "localName" = false := by decide
  have unnamed : nameAt? 0xffffffff = none := by decide
  obtain ⟨-, -, views⟩ := walk_meets_properties n
  obtain ⟨same, -, -, values, others, outside⟩ := views _ _ _ walk_zero round
  exact ⟨⟨walk_zero, round, known, unknown, unnamed⟩, same, values "prefix" 2 (by decide) known,
    others "localName" unknown, (outside 0xffffffff).2 unnamed⟩

end Property

end XmlNames
