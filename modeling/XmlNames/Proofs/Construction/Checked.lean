import XmlNames.Proofs.Construction.Coercion

set_option autoImplicit false

namespace XmlNames.Namespace

variable {candidate uri : Value}

theorem fromPrefixAndUri_present (present : candidate.isAbsent = false) (text : String) :
    fromPrefixAndUri candidate (.text text) = ofPrefixAndUri (some candidate.toText) text := by
  simp [fromPrefixAndUri, present, Value.toText]

theorem value_construct_present (present : candidate.isAbsent = false) :
    (construct [candidate, uri]).value = (ofPair candidate uri).value := by
  change (ofArguments [candidate, uri]).value = _
  simp [ofArguments, present]

theorem value_construct_absent (absent : candidate.isAbsent = true) :
    (construct [candidate, uri]).value = ofSingle uri := by
  change (ofArguments [candidate, uri]).value = _
  simp [ofArguments, absent]

theorem ofPrefixAndUri_error_iff {text uri : String} {e : IllegalPrefix} :
    ofPrefixAndUri (some text) uri = .error e ↔ uri = "" ∧ text ≠ "" ∧ e = ⟨text⟩ := by
  by_cases empty : text = ""
  · simp [ofPrefixAndUri, empty]
  · by_cases unnamed : uri = ""
    · simp [ofPrefixAndUri, empty, unnamed, eq_comm]
    · simp [ofPrefixAndUri, empty, unnamed]

-- What is refused for the empty uri is dropped there.
theorem value_ofPair_eq (candidate uri : Value) :
    (ofPair candidate uri).value =
      match ofPrefixAndUri (some candidate.toText) uri.uriText with
      | .ok n => n
      | .error _ => ⟨"", none⟩ := by
  rw [Coercion.value_ofPair, ← Coercion.uriText_eq, ← Coercion.toText_eq, Coercion.keptPrefix]
  by_cases empty : candidate.toText = ""
  · simp [ofPrefixAndUri, empty]
  · by_cases unnamed : uri.uriText = ""
    · simp [ofPrefixAndUri, empty, unnamed]
    · simp [ofPrefixAndUri, empty, unnamed]

theorem fromPrefixAndUri_absent (absent : candidate.isAbsent = true) (uri : Value) :
    fromPrefixAndUri candidate uri = .ok ⟨uri.toText, none⟩ := by
  simp [fromPrefixAndUri, absent, ofPrefixAndUri]

theorem ofSingle_eq_fromUri (no_namespace : ∀ n, uri ≠ .ns n) (no_name : ∀ q, uri ≠ .name q) :
    ofSingle uri = fromUri uri := by
  cases uri with
  | ns n => exact absurd rfl (no_namespace n)
  | name q => exact absurd rfl (no_name q)
  | _ => rfl

theorem lenient_and_checked (candidate uri : Value) :
    (candidate ≠ .undefined → candidate ≠ .null →
      (∀ n, fromPrefixAndUri candidate (.text (Coercion.uriPosition uri)) = .ok n →
        (construct [candidate, uri]).value = n) ∧
      (∀ e, fromPrefixAndUri candidate (.text (Coercion.uriPosition uri)) = .error e ↔
        Coercion.uriPosition uri = "" ∧ candidate.toText ≠ "" ∧ e = ⟨candidate.toText⟩) ∧
      (∀ e, fromPrefixAndUri candidate (.text (Coercion.uriPosition uri)) = .error e →
        (construct [candidate, uri]).value = ⟨"", none⟩)) ∧
    (candidate = .undefined ∨ candidate = .null → (∀ n, uri ≠ .ns n) → (∀ q, uri ≠ .name q) →
      ∃ checked, fromPrefixAndUri candidate uri = .ok checked ∧
        (construct [candidate, uri]).value = fromUri uri ∧
        checked.uri = (fromUri uri).uri ∧
        (checked.uri ≠ "" → checked.nsPrefix = (fromUri uri).nsPrefix) ∧
        (checked.uri = "" → checked.nsPrefix = none ∧ (fromUri uri).nsPrefix = some "")) := by
  rw [← Coercion.uriText_eq]
  constructor
  · intro defined nonnull
    have present : candidate.isAbsent = false := by
      cases candidate with
      | undefined | null => contradiction
      | _ => rfl
    rw [fromPrefixAndUri_present present, value_construct_present present, value_ofPair_eq]
    refine ⟨?_, fun e => ofPrefixAndUri_error_iff, ?_⟩
    · intro n made
      rw [made]
    · intro e refused
      rw [refused]
  · intro missing no_namespace no_name
    have absent : candidate.isAbsent = true := by
      rcases missing with rfl | rfl <;> rfl
    refine ⟨_, fromPrefixAndUri_absent absent uri, ?_, rfl, ?_, ?_⟩
    · rw [value_construct_absent absent, ofSingle_eq_fromUri no_namespace no_name]
    · intro named
      simp [fromUri, ofUri, named]
    · intro unnamed
      have empty : uri.toText = "" := unnamed
      simp [fromUri, ofUri, empty]

theorem lenient_and_checked_on_the_empty_uri :
    fromPrefixAndUri (.text "1ab") (.text "") = .error ⟨"1ab"⟩ ∧
      (construct [.text "1ab", .ofQName (.inNamespace .publicNs "b")]).value = ⟨"", none⟩ ∧
      ∃ checked, fromPrefixAndUri .null (.object "") = .ok checked ∧
        checked.nsPrefix = none ∧ (fromUri (.object "")).nsPrefix = some "" := by
  have named := (lenient_and_checked (.text "1ab") (.ofQName (.inNamespace .publicNs "b"))).1 nofun nofun
  have refused := (named.2.1 ⟨"1ab"⟩).2 ⟨rfl, by decide, rfl⟩
  obtain ⟨checked, made, _, _, _, apart⟩ :=
    (lenient_and_checked .null (.object "")).2 (.inr rfl) nofun nofun
  have empty : checked.uri = "" := by
    cases made
    rfl
  exact ⟨refused, named.2.2 _ refused, checked, made, apart empty⟩

end XmlNames.Namespace
