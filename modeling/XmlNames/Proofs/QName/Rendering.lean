import Mathlib.Data.List.DropRight
import XmlNames.QName

set_option autoImplicit false

namespace XmlNames

theorem rdropWhile_append_plain {front text : List Char} (ends : ∀ last ∈ front.getLast?, last = ':')
    (plain : ':' ∉ text) : (front ++ text).rdropWhile (· != ':') = front := by
  induction text using List.reverseRecOn with
  | nil =>
    rw [List.append_nil, List.rdropWhile_eq_self_iff]
    intro held
    simp [ends _ (List.getLast_mem_getLast? held)]
  | append_singleton text last ih =>
    obtain ⟨earlier, other⟩ : ':' ∉ text ∧ ':' ≠ last := by simpa using plain
    rw [← List.append_assoc, List.rdropWhile_concat_pos _ _ _ (by simpa using other.symm), ih earlier]

namespace QName

def writtenUri (name : QName) : String := (name.ns.map Namespace.uri).getD "*"

def qualifier (uri : String) : String := if uri = "" then "" else uri ++ "::"

theorem render_eq (name : QName) : name.render = qualifier name.writtenUri ++ name.localName := by
  obtain ⟨ns, localName⟩ := name
  cases ns with
  | none => rfl
  | some ns => by_cases unnamed : ns.uri = "" <;> simp [render, qualifier, writtenUri, Namespace.isPublic, unnamed]

theorem getLast?_qualifier (uri : String) : ∀ last ∈ (qualifier uri).toList.getLast?, last = ':' := by
  by_cases unnamed : uri = "" <;> simp [qualifier, unnamed]

theorem qualifier_injective : Function.Injective qualifier := by
  intro uri other same
  by_cases unnamed : uri = "" <;> by_cases unnamed' : other = "" <;>
    simp_all [qualifier]

theorem rdropWhile_render {name : QName} (plain : ':' ∉ name.localName.toList) :
    name.render.toList.rdropWhile (· != ':') = (qualifier name.writtenUri).toList := by
  rw [render_eq, String.toList_append]
  exact rdropWhile_append_plain (getLast?_qualifier name.writtenUri) plain

variable {a b : QName}

theorem writtenUri_eq_iff : a.writtenUri = b.writtenUri ↔
    a.ns.map Namespace.uri = b.ns.map Namespace.uri ∨
      a.ns = none ∧ b.ns.map Namespace.uri = some "*" ∨ a.ns.map Namespace.uri = some "*" ∧ b.ns = none := by
  obtain ⟨_ | n, _⟩ := a <;> obtain ⟨_ | m, _⟩ := b <;> simp [writtenUri, eq_comm]

theorem render_eq_render_iff (plain : ':' ∉ a.localName.toList) (plain' : ':' ∉ b.localName.toList) :
    a.render = b.render ↔ a.writtenUri = b.writtenUri ∧ a.localName = b.localName := by
  constructor
  · intro same
    have qualifiers : qualifier a.writtenUri = qualifier b.writtenUri := by
      rw [← String.toList_inj, ← rdropWhile_render plain, ← rdropWhile_render plain', same]
    rw [render_eq, render_eq, qualifiers, String.append_right_inj] at same
    exact ⟨qualifier_injective qualifiers, same⟩
  · rintro ⟨uris, locals⟩
    rw [render_eq, render_eq, uris, locals]

theorem render_identifies (a b : QName) :
    ((a == b) = true → a.render = b.render) ∧
    (':' ∉ a.localName.toList → ':' ∉ b.localName.toList →
      (a.render = b.render ↔ (a == b) = true ∨
        (a.ns = none ∧ b.ns.map Namespace.uri = some "*" ∨ a.ns.map Namespace.uri = some "*" ∧ b.ns = none) ∧
          a.localName = b.localName)) := by
  constructor
  · intro same
    obtain ⟨locals, uris⟩ := beq_iff.1 same
    rw [render_eq, render_eq, locals, writtenUri_eq_iff.2 (.inl uris)]
  · intro plain plain'
    rw [render_eq_render_iff plain plain', writtenUri_eq_iff, beq_iff, or_and_right, and_comm (a := a.localName = _)]

theorem render_identifies_beside_the_star :
    let a := inNamespace ⟨"u::", some "p"⟩ "x"
    let b := inNamespace ⟨"u::", none⟩ "x"
    let c := inNamespace ⟨"*", none⟩ "x"
    let d := anyNamespace "x"
    ((a == b) = true ∧ (':' ∉ c.localName.toList ∧ ':' ∉ d.localName.toList) ∧ (c == d) = false) ∧
    a.render = b.render ∧ c.render = d.render ∧ a.render ≠ c.render := by
  intro a b c d
  have same : (a == b) = true := by decide
  have plain : ':' ∉ "x".toList := by decide
  have star := ((render_identifies c d).2 plain plain).2 (.inr ⟨.inr ⟨rfl, rfl⟩, rfl⟩)
  refine ⟨⟨same, ⟨plain, plain⟩, by decide⟩, (render_identifies a b).1 same, star, ?_⟩
  rw [Ne, (render_identifies a c).2 plain plain]
  decide

-- With colons in local names, other names share a rendering.
example : (inNamespace ⟨"u", none⟩ "v::x").render = (inNamespace ⟨"u::v", none⟩ "x").render := by decide

end QName

end XmlNames
