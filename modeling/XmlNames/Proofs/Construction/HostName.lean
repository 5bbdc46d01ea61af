import XmlNames.Construction

set_option autoImplicit false

namespace XmlNames

-- The conventional rendering is taken where the host has none.
class HostName (H : Type) where
  ns : H → Option Namespace
  localName : H → String
  rendering : H → String := fun h => (QName.mk (ns h) (localName h)).render

instance : HostName QName where
  ns := QName.ns
  localName := QName.localName

instance : HostName NameObject where
  ns seen := seen.name.ns
  localName seen := seen.name.localName
  rendering := NameObject.rendering

namespace HostName

variable {H G : Type} [HostName H] [HostName G]

def value (h : H) : Value := .name ⟨⟨ns h, localName h⟩, rendering h⟩

example (name : QName) : value name = .ofQName name := rfl

-- So there are no other names among the values.
example (seen : NameObject) : value seen = .name seen := rfl

structure Agree (p : H) (q : G) : Prop where
  uris : (ns p).map Namespace.uri = (ns q).map Namespace.uri
  locals : localName p = localName q

theorem Agree.uriText {p : H} {q : G} (agree : Agree p q) : (value p).uriText = (value q).uriText := by
  obtain ⟨uris, locals⟩ := agree
  cases held : ns p <;> cases held' : ns q <;>
    simp_all [value, Value.uriText, QName.uriText]

theorem Agree.ofSingle {p : H} {q : G} (agree : Agree p q) :
    Namespace.ofSingle (value p) = Namespace.ofSingle (value q) :=
  congrArg Namespace.ofUri agree.uriText

end HostName

namespace Namespace

open HostName

variable {H G : Type} [HostName H] [HostName G]

theorem construct_agree {p : H} {q : G} (agree : Agree p q) (first : Value) (rest : List Value) :
    construct (first :: value p :: rest) = construct (first :: value q :: rest) :=
  construct_congr (ofArguments_congr rfl (fun _ => agree.ofSingle) fun _ => ofPair_congr rfl agree.uriText) (by simp)

theorem construct_agree_single {p : H} {q : G} (agree : Agree p q) : construct [value p] = construct [value q] :=
  construct_congr (congrArg pure agree.ofSingle) rfl

theorem construct_rendering (p : H) (second : Value) (rest : List Value) :
    construct (value p :: second :: rest) = construct (.text (rendering p) :: second :: rest) :=
  construct_congr (ofArguments_congr rfl nofun fun _ => ofPair_congr rfl rfl) (by simp)

theorem fromUri_text_inj {text other : String} : fromUri (.text text) = fromUri (.text other) ↔ text = other :=
  ⟨congrArg uri, congrArg fun content => fromUri (.text content)⟩

theorem host_name_by_place (p : H) (q : G) :
    (Agree p q → construct [value p] = construct [value q] ∧
      ∀ first rest, construct (first :: value p :: rest) = construct (first :: value q :: rest)) ∧
    (rendering p = rendering q → ∀ second rest,
      construct (value p :: second :: rest) = construct (value q :: second :: rest)) ∧
    (∀ second rest, construct (value p :: second :: rest) = construct (.text (rendering p) :: second :: rest)) ∧
    (fromUri (value p) = fromUri (value q) ↔ rendering p = rendering q) ∧
    fromUri (value p) = fromUri (.text (rendering p)) ∧
    ∀ other, fromPrefixAndUri (value p) other = fromPrefixAndUri (.text (rendering p)) other ∧
      fromPrefixAndUri other (value p) = fromPrefixAndUri other (.text (rendering p)) := by
  refine ⟨fun agree => ⟨construct_agree_single agree, construct_agree agree⟩, ?_, construct_rendering p, ?_,
    fromUri_congr rfl, fun other => ⟨fromPrefixAndUri_congr rfl rfl rfl, fromPrefixAndUri_congr rfl rfl rfl⟩⟩
  · intro same second rest
    rw [construct_rendering p, construct_rendering q, same]
  · exact fromUri_text_inj

theorem host_name_by_place_against_its_rendering :
    let p : NameObject := ⟨.inNamespace ⟨"u", some "x"⟩ "b", "pre"⟩
    let q := QName.inNamespace ⟨"u", none⟩ "b"
    let r := QName.inNamespace .publicNs "pre"
    (Agree p q ∧ rendering p = rendering r) ∧
    construct [.null, value p, .null] = construct [.null, value q, .null] ∧
    construct [.text "a", value p] = construct [.text "a", value q] ∧
    construct [value p, value q] = construct [value r, value q] ∧
    construct [value p, value q] = ⟨⟨"u", some "pre"⟩, [.constructed 2 ⟨"u", some "pre"⟩]⟩ ∧
    fromUri (value p) = fromUri (value r) ∧ fromUri (value p) ≠ fromUri (value q) := by
  intro p q r
  have agree : Agree p q := ⟨rfl, rfl⟩
  have text : rendering p = rendering r := by decide
  obtain ⟨asUri, -, -, apart, -⟩ := host_name_by_place p q
  obtain ⟨-, asPrefix, -, together, -⟩ := host_name_by_place p r
  exact ⟨⟨agree, text⟩, (asUri agree).2 .null [.null], (asUri agree).2 (.text "a") [], asPrefix text (value q) [],
    by decide, together.2 text, fun same => absurd (apart.1 same) (by decide)⟩

end Namespace

end XmlNames
