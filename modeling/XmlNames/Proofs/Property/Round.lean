import XmlNames.Proofs.Construction.Checked
import XmlNames.Proofs.Namespace.Reachable

set_option autoImplicit false

namespace XmlNames

namespace Cursor

inductive Round : Cursor → List (String × Value) → Cursor → Prop
  | ended {c d : Cursor} (last : c.next = (none, d)) : Round c [] d
  | pair {c d e : Cursor} {pair : String × Value} {pairs : List (String × Value)}
    (found : c.next = (some pair, d)) (more : Round d pairs e) : Round c (pair :: pairs) e

inductive AtStart (n : Namespace) : Cursor → Prop
  | new : AtStart n n.properties
  | again {c d : Cursor} {pairs : List (String × Value)} :
    AtStart n c → c.Round pairs d → AtStart n d

theorem round_rest (c : Cursor) : c.Round c.rest.1 c.rest.2 := by
  fun_induction rest c with
  | case1 c d last => exact .ended last
  | case2 c pair d found ih => exact .pair found ih

theorem Round.rest {c d : Cursor} {pairs : List (String × Value)} (round : c.Round pairs d) :
    c.rest = (pairs, d) := by
  induction round with
  | ended last =>
    rw [Cursor.rest]
    split <;> simp_all
  | pair found _ ih =>
    rw [Cursor.rest]
    split <;> simp_all

theorem round_properties (n : Namespace) :
    n.properties.Round [("uri", n.property "uri"), ("prefix", n.property "prefix")] n.properties := by
  have first : n.properties.next = (some ("uri", n.property "uri"), ⟨n, 1⟩) := rfl
  have second : Cursor.next ⟨n, 1⟩ = (some ("prefix", n.property "prefix"), ⟨n, 2⟩) := rfl
  have third : Cursor.next ⟨n, 2⟩ = (none, n.properties) := rfl
  exact .pair first (.pair second (.ended third))

theorem AtStart.eq_properties {n : Namespace} {c : Cursor} (start : AtStart n c) : c = n.properties := by
  induction start with
  | new => rfl
  | again _ round ih =>
    have rest := round.rest
    rw [ih, (round_properties n).rest, Prod.mk.injEq] at rest
    exact rest.2.symm

theorem AtStart.pairs_eq {n : Namespace} {c d : Cursor} {pairs : List (String × Value)} (start : AtStart n c)
    (round : c.Round pairs d) : pairs = [("uri", n.property "uri"), ("prefix", n.property "prefix")] := by
  have rest := round.rest
  rw [start.eq_properties, (round_properties n).rest, Prod.mk.injEq] at rest
  exact rest.1.symm

end Cursor

namespace Namespace

-- The lenient constructor takes an absent prefix for no candidate at all, and the empty uri then has the empty one.
theorem value_construct_properties {n : Namespace} (good : n.WellFormed) :
    (construct [n.property "prefix", n.property "uri"]).value =
      if n = ⟨"", none⟩ then publicNs else n := by
  have made := ofPrefixAndUri_fields.2 good
  obtain ⟨uri, nsPrefix⟩ := n
  cases nsPrefix with
  | none =>
    have absent : (property ⟨uri, none⟩ "prefix").isAbsent = true := rfl
    rw [value_construct_absent absent]
    by_cases empty : uri = ""
    · simp [property, ofSingle, ofUri, Value.uriText, Value.toText, empty, publicNs]
    · simp [property, ofSingle, ofUri, Value.uriText, Value.toText, empty]
  | some text =>
    have present : (property ⟨uri, some text⟩ "prefix").isAbsent = false := rfl
    have candidate : (property ⟨uri, some text⟩ "prefix").toText = text := rfl
    have position : (property ⟨uri, some text⟩ "uri").uriText = uri := rfl
    rw [value_construct_present present, value_ofPair_eq, candidate, position, made]
    simp

theorem properties_make_it_again {n : Namespace} (reachable : Script.Reachable n) :
    fromPrefixAndUri (n.property "prefix") (n.property "uri") = .ok n ∧
    (construct [n.property "prefix", n.property "uri"]).value = (if n = ⟨"", none⟩ then publicNs else n) ∧
    ∀ c : Cursor, c.AtStart n →
      (∃ pairs d, c.Round pairs d) ∧
      ∀ pairs d, c.Round pairs d → pairs.length = 2 ∧
        ∃ candidate uri, pairs.lookup "prefix" = some candidate ∧ pairs.lookup "uri" = some uri ∧
          fromPrefixAndUri candidate uri = .ok n ∧
          (construct [candidate, uri]).value = (if n = ⟨"", none⟩ then publicNs else n) := by
  have good := reachable.wellFormed
  have checked := fromPrefixAndUri_fields good
  have lenient := value_construct_properties good
  refine ⟨checked, lenient, fun c start => ⟨⟨_, _, c.round_rest⟩, fun pairs d round => ?_⟩⟩
  rw [start.pairs_eq round]
  exact ⟨rfl, _, _, rfl, rfl, checked, lenient⟩

theorem properties_make_it_again_without_a_prefix :
    let n : Namespace := ⟨"", none⟩
    (Script.Reachable n ∧ n.properties.AtStart n ∧
      n.properties.Round [("uri", .text ""), ("prefix", .undefined)] n.properties) ∧
    fromPrefixAndUri .undefined (.text "") = .ok n ∧ (construct [.undefined, .text ""]).value = publicNs := by
  intro n
  have reachable : Script.Reachable n := Script.reachable_of_wellFormed ⟨fun _ => .inl rfl, nofun⟩
  have round : n.properties.Round [("uri", .text ""), ("prefix", .undefined)] n.properties :=
    Cursor.round_properties n
  have start : n.properties.AtStart n := .again .new round
  obtain ⟨-, -, rounds⟩ := properties_make_it_again reachable
  obtain ⟨-, candidate, uri, first, second, checked, lenient⟩ := (rounds _ start).2 _ _ round
  cases first
  cases second
  exact ⟨⟨reachable, start, round⟩, checked, lenient⟩

end Namespace

end XmlNames
