import XmlNames.Proofs.Json.Acceptance

set_option autoImplicit false

namespace XmlNames

namespace Json

def Key.HasType : Key → Doc → Prop
  | uri, value => ∃ found, value = .text found
  | nsPrefix, value => value = .null ∨ ∃ found, value = .text found

def Doc.IsReadable (value : Doc) : Prop := ∀ found, value = .text found → ∃ content, Decodes found content

def Key.Admits (key : Key) (value : Doc) : Prop := key.HasType value ∧ value.IsReadable

def Comes (key : Key) (members : List (List Piece × Doc)) : Prop :=
  ∃ member ∈ members, Decodes member.1 key.label

instance (key : Key) (members : List (List Piece × Doc)) : Decidable (Comes key members) :=
  inferInstanceAs (Decidable (∃ member ∈ members, _))

inductive Fault (before : List (List Piece × Doc)) : List Piece × Doc → ReadError → Prop
  -- The name came before, with whatever value, and whatever the value is now.
  | repeated {key : Key} {name : List Piece} {value : Doc} : Decodes name key.label → Comes key before →
    Fault before (name, value) (.misfit (.duplicate key))
  | mistyped {key : Key} {name : List Piece} {value : Doc} {found : Found} : Decodes name key.label →
    ¬Comes key before → ¬key.Admits value → value.head.found? = some found →
    Fault before (name, value) (.misfit (.wrongType found .text))
  -- A number that is too large, or a text with half of a surrogate pair.
  | unreadable {key : Key} {name : List Piece} {value : Doc} : Decodes name key.label →
    ¬Comes key before → ¬key.Admits value → value.head.found? = none → Fault before (name, value) .malformed
  -- A name with half of a surrogate pair.
  | nameless {name : List Piece} {value : Doc} : (∀ text, ¬Decodes name text) →
    Fault before (name, value) .malformed

-- What is wrong with a member by its name and its type alone.
def Misused (before : List (List Piece × Doc)) (member : List Piece × Doc) : Prop :=
  ∃ key : Key, Decodes member.1 key.label ∧ (Comes key before ∨ ¬key.HasType member.2)

theorem exists_fault {before : List (List Piece × Doc)} {name : List Piece} {value : Doc} {key : Key}
    (label : Decodes name key.label) (wrong : Comes key before ∨ ¬key.Admits value) :
    ∃ e, Fault before (name, value) e := by
  by_cases comes : Comes key before
  · exact ⟨_, .repeated label comes⟩
  · have refused := wrong.resolve_left comes
    cases starts : value.head.found? with
    | some kind => exact ⟨_, .mistyped label comes refused starts⟩
    | none => exact ⟨_, .unreadable label comes refused starts⟩

theorem exists_fault_iff {before : List (List Piece × Doc)} {member : List Piece × Doc} :
    (∃ e, Fault before member e) ↔
      Misused before member ∨ (¬∃ name, Decodes member.1 name) ∨
        ∃ key : Key, Decodes member.1 key.label ∧ ¬member.2.IsReadable := by
  obtain ⟨found, value⟩ := member
  constructor
  · rintro ⟨e, fault⟩
    cases fault with
    | repeated label comes => exact .inl ⟨_, label, .inl comes⟩
    | mistyped label _ refused _ | unreadable label _ refused _ =>
      by_cases readable : value.IsReadable
      · exact .inl ⟨_, label, .inr fun typed => refused ⟨typed, readable⟩⟩
      · exact .inr (.inr ⟨_, label, readable⟩)
    | nameless nothing => exact .inr (.inl (not_exists.2 nothing))
  · rintro (⟨key, label, wrong⟩ | nothing | ⟨key, label, unreadable⟩)
    · exact exists_fault label (wrong.imp_right fun mistyped admitted => mistyped admitted.1)
    · exact ⟨_, .nameless (not_exists.1 nothing)⟩
    · exact exists_fault label (.inr fun admitted => unreadable admitted.2)

def Faultless (members : List (List Piece × Doc)) : Prop :=
  ∀ before member after, members = before ++ member :: after → ∀ e, ¬Fault before member e

theorem faultless_nil : Faultless [] := by
  intro before member after same
  simp at same

theorem faultless_concat {members : List (List Piece × Doc)} {last : List Piece × Doc} :
    Faultless (members ++ [last]) ↔ Faultless members ∧ ∀ e, ¬Fault members last e := by
  constructor
  · intro sound
    refine ⟨fun before member after same => ?_, sound members last [] rfl⟩
    exact sound before member (after ++ [last]) (by simp [same])
  · rintro ⟨sound, held⟩ before member after same
    rcases List.eq_nil_or_concat after with rfl | ⟨inner, other, rfl⟩
    · obtain ⟨rfl, ⟨⟩⟩ := List.append_inj' same rfl
      exact held
    · rw [List.concat_eq_append, ← List.cons_append, ← List.append_assoc] at same
      obtain ⟨rfl, -⟩ := List.append_inj' same rfl
      exact sound before member inner rfl

theorem faultless_or_first (members : List (List Piece × Doc)) :
    Faultless members ∨ ∃ before member after e, members = before ++ member :: after ∧
      Faultless before ∧ Fault before member e := by
  induction members using List.reverseRecOn with
  | nil => exact .inl faultless_nil
  | append_singleton members last ih =>
    rcases ih with sound | ⟨before, member, after, e, rfl, sound, fault⟩
    · by_cases held : ∀ e, ¬Fault members last e
      · exact .inl (faultless_concat.2 ⟨sound, held⟩)
      · obtain ⟨e, fault⟩ := not_forall_not.1 held
        exact .inr ⟨members, last, [], e, rfl, sound, fault⟩
    · exact .inr ⟨before, member, after ++ [last], e, by simp, sound, fault⟩

theorem decodes_unique {found : List Piece} {a b : String} (left : Decodes found a) (right : Decodes found b) :
    a = b :=
  Option.some.inj ((decodes_iff.1 left).symm.trans (decodes_iff.1 right))

theorem label_injective {key other : Key} (same : key.label = other.label) : key = other := by
  cases key <;> cases other <;> first | rfl | exact absurd same (by decide)

theorem refusal_eq_iff {value : Doc} {e : ReadError} :
    e = refusal .text [value.head] ↔
      (∃ found, value.head.found? = some found ∧ e = .misfit (.wrongType found .text)) ∨
        value.head.found? = none ∧ e = .malformed := by
  cases found : value.head.found? <;> simp [refusal, found]

theorem asText_error_iff {value : Doc} {e : ReadError} :
    value.asText = .error e ↔ ¬Key.uri.Admits value ∧ e = refusal .text [value.head] := by
  cases value with
  | text found =>
    have admits : Key.uri.Admits (.text found) ↔ ∃ content, content? found = some content := by
      simp [Key.Admits, Key.HasType, Doc.IsReadable, decodes_iff]
    rw [admits]
    cases decoded : content? found <;> simp [Doc.asText, refusal, Doc.head, Token.found?, decoded, eq_comm]
  | _ => simp [Key.Admits, Key.HasType, Doc.asText, eq_comm]

theorem asOptionalText_error_iff {value : Doc} {e : ReadError} :
    value.asOptionalText = .error e ↔ ¬Key.nsPrefix.Admits value ∧ e = refusal .text [value.head] := by
  have present (nonnull : value ≠ .null) : Key.nsPrefix.Admits value ↔ Key.uri.Admits value := by
    simp [Key.Admits, Key.HasType, nonnull]
  have mapped : value.asText.map some = .error e ↔ value.asText = .error e := by
    cases value.asText <;> simp [Except.map]
  cases value with
  | null => simp [Doc.asOptionalText, Key.Admits, Key.HasType, Doc.IsReadable]
  | _ => rw [present nofun, ← asText_error_iff, ← mapped, Doc.asOptionalText]; nofun

namespace Draft

variable {draft : Draft}

def holds (draft : Draft) : Key → Bool
  | .uri => draft.uri.isSome
  | .nsPrefix => draft.nsPrefix.isSome

theorem take_error_iff {key : Key} {value : Doc} {e : ReadError} :
    draft.take key.label value = .error e ↔
      draft.holds key = true ∧ e = .misfit (.duplicate key) ∨
        draft.holds key = false ∧ ¬key.Admits value ∧ e = refusal .text [value.head] := by
  have mapped {A : Type} (read : Except ReadError A) (fill : A → Draft) :
      read.map fill = .error e ↔ read = .error e := by
    cases read <;> simp [Except.map]
  cases key with
  | uri =>
    rw [← asText_error_iff, Key.label, take, holds]
    cases draft.uri <;> simp [mapped, eq_comm]
  | nsPrefix =>
    rw [← asOptionalText_error_iff, Key.label, take, holds]
    cases draft.nsPrefix <;> simp [mapped, eq_comm]

theorem take_other {name : String} (other : ∀ key : Key, name ≠ key.label) (value : Doc) :
    draft.take name value = .ok draft := by
  unfold take
  split
  · exact absurd rfl (other .uri)
  · exact absurd rfl (other .nsPrefix)
  · rfl

theorem takeAll_cons {found : List Piece} {name : String} (decodes : Decodes found name) (value : Doc)
    (members : List (List Piece × Doc)) :
    draft.takeAll ((found, value) :: members) = draft.take name value >>= fun next => next.takeAll members := by
  rw [takeAll, decodes_iff.1 decodes]

theorem takeAll_append (front back : List (List Piece × Doc)) :
    draft.takeAll (front ++ back) = draft.takeAll front >>= fun next => next.takeAll back := by
  induction front generalizing draft with
  | nil => rfl
  | cons member front ih =>
    obtain ⟨found, value⟩ := member
    rw [List.cons_append, takeAll, takeAll]
    cases content? found with
    | none => rfl
    | some name => simp only [ih, bind_assoc]

end Draft

theorem filled_isSome {A : Type} {read : Doc → Except ReadError A} {values : List Doc} {last : Option A}
    (filled : Filled read none values last) : last.isSome = true ↔ values ≠ [] := by
  cases filled <;> simp

theorem valuesOf_ne_nil {key : Key} {members : List (List Piece × Doc)} :
    valuesOf key.label members ≠ [] ↔ Comes key members := by
  simp [valuesOf, Comes]

section Run

variable {before : List (List Piece × Doc)} {draft : Draft}

-- Behind what has been taken up, a key is held just when it came.
theorem holds_iff (taken : Draft.takeAll ⟨none, none⟩ before = .ok draft) (key : Key) :
    draft.holds key = true ↔ Comes key before := by
  obtain ⟨-, uris, prefixes⟩ := takeAll_ok_iff.1 taken
  rw [← valuesOf_ne_nil]
  cases key with
  | uri => exact filled_isSome uris
  | nsPrefix => exact filled_isSome prefixes

theorem takeAll_singleton_error_iff (taken : Draft.takeAll ⟨none, none⟩ before = .ok draft)
    {member : List Piece × Doc} {e : ReadError} : draft.takeAll [member] = .error e ↔ Fault before member e := by
  obtain ⟨found, value⟩ := member
  by_cases named : ∃ name, Decodes found name
  · obtain ⟨name, decodes⟩ := named
    have single : draft.takeAll [(found, value)] = draft.take name value := by
      rw [Draft.takeAll_cons decodes]
      cases draft.take name value <;> rfl
    rw [single]
    by_cases other : ∀ key : Key, name ≠ key.label
    · rw [Draft.take_other other]
      refine iff_of_false nofun fun fault => ?_
      cases fault with
      | repeated label | mistyped label | unreadable label => exact other _ (decodes_unique decodes label)
      | nameless nothing => exact nothing name decodes
    · obtain ⟨key, same⟩ := not_forall_not.1 other
      subst same
      rw [Draft.take_error_iff, Bool.eq_false_iff, Ne, holds_iff taken, refusal_eq_iff]
      constructor
      · rintro (⟨comes, rfl⟩ | ⟨new, refused, ⟨kind, starts, rfl⟩ | ⟨starts, rfl⟩⟩)
        · exact .repeated decodes comes
        · exact .mistyped decodes new refused starts
        · exact .unreadable decodes new refused starts
      · intro fault
        cases fault with
        | repeated label comes =>
          obtain rfl := label_injective (decodes_unique label decodes)
          exact .inl ⟨comes, rfl⟩
        | mistyped label new refused starts =>
          obtain rfl := label_injective (decodes_unique label decodes)
          exact .inr ⟨new, refused, .inl ⟨_, starts, rfl⟩⟩
        | unreadable label new refused starts =>
          obtain rfl := label_injective (decodes_unique label decodes)
          exact .inr ⟨new, refused, .inr ⟨starts, rfl⟩⟩
        | nameless nothing => exact absurd decodes (nothing _)
  · have undecoded : content? found = none := by
      rw [Option.eq_none_iff_forall_ne_some]
      exact fun name decoded => named ⟨name, decodes_iff.2 decoded⟩
    rw [Draft.takeAll, undecoded]
    constructor
    · rintro ⟨⟩
      exact .nameless (not_exists.1 named)
    · intro fault
      cases fault with
      | repeated label | mistyped label | unreadable label => exact absurd ⟨_, label⟩ named
      | nameless _ => rfl

theorem takeAll_of_faultless (sound : Faultless before) : ∃ draft, Draft.takeAll ⟨none, none⟩ before = .ok draft := by
  induction before using List.reverseRecOn with
  | nil => exact ⟨_, rfl⟩
  | append_singleton before member ih =>
    obtain ⟨sound_before, held⟩ := faultless_concat.1 sound
    obtain ⟨draft, taken⟩ := ih sound_before
    cases next : draft.takeAll [member] with
    | ok last => exact ⟨last, by rw [Draft.takeAll_append, taken]; exact next⟩
    | error e => exact absurd ((takeAll_singleton_error_iff taken).1 next) (held e)

theorem takeAll_of_fault (sound : Faultless before) {member : List Piece × Doc} {e : ReadError}
    (fault : Fault before member e) (after : List (List Piece × Doc)) :
    Draft.takeAll ⟨none, none⟩ (before ++ member :: after) = .error e := by
  obtain ⟨draft, taken⟩ := takeAll_of_faultless sound
  have refused := (takeAll_singleton_error_iff taken).2 fault
  rw [List.append_cons, Draft.takeAll_append, Draft.takeAll_append, taken]
  change (draft.takeAll [member] >>= fun next => next.takeAll after) = .error e
  rw [refused]
  rfl

theorem faultless_of_takeAll (taken : Draft.takeAll ⟨none, none⟩ before = .ok draft) : Faultless before := by
  rcases faultless_or_first before with sound | ⟨front, member, after, e, rfl, sound, fault⟩
  · exact sound
  · rw [takeAll_of_fault sound fault after] at taken
    contradiction

end Run

-- Its name stands for a text and is none of those that count.
def IsUnknown (member : List Piece × Doc) : Prop :=
  ∃ name, Decodes member.1 name ∧ ∀ key : Key, name ≠ key.label

instance : DecidablePred IsUnknown := fun member =>
  decidable_of_iff ((content? member.1).any (fun name => name != "uri" && name != "prefix") = true) <| by
    have keys {name : String} : (∀ key : Key, name ≠ key.label) ↔ name ≠ "uri" ∧ name ≠ "prefix" := by
      constructor
      · exact fun other => ⟨other .uri, other .nsPrefix⟩
      · rintro ⟨not_uri, not_prefix⟩ (_ | _)
        · exact not_uri
        · exact not_prefix
    simp [IsUnknown, decodes_iff, keys, Option.any_eq_true]

def counting (members : List (List Piece × Doc)) : List (List Piece × Doc) :=
  members.filter fun member => ¬IsUnknown member

theorem takeAll_counting {draft : Draft} (members : List (List Piece × Doc)) :
    draft.takeAll (counting members) = draft.takeAll members := by
  induction members generalizing draft with
  | nil => rfl
  | cons member members ih =>
    obtain ⟨found, value⟩ := member
    by_cases unknown : IsUnknown (found, value)
    · obtain ⟨name, decodes, other⟩ := id unknown
      have dropped : counting ((found, value) :: members) = counting members := by simp [counting, unknown]
      rw [dropped, ih, Draft.takeAll_cons decodes, Draft.take_other other]
      rfl
    · have kept : counting ((found, value) :: members) = (found, value) :: counting members := by
        simp [counting, unknown]
      rw [kept, Draft.takeAll, Draft.takeAll]
      simp only [ih]

theorem fields_congr {members others : List (List Piece × Doc)} (same : counting members = counting others) :
    (Doc.object members).fields = (Doc.object others).fields := by
  rw [Doc.fields, Doc.fields, ← takeAll_counting members, same, takeAll_counting]

section Objects

variable {members : List (List Piece × Doc)}

theorem fields_of_missing (sound : Faultless members) (missing : ¬Comes .uri members) :
    (Doc.object members).fields = .error (.misfit .missingUri) := by
  obtain ⟨draft, taken⟩ := takeAll_of_faultless sound
  have none_held := (holds_iff taken .uri).not.2 missing
  have empty : draft.uri = none := by simpa [Draft.holds] using none_held
  rw [Doc.fields, taken]
  simp only [bind, Except.bind, empty]

theorem describes_of_faultless (sound : Faultless members) (comes : Comes .uri members) :
    ∃ uri nsPrefix, (Doc.object members).Describes uri nsPrefix := by
  obtain ⟨draft, taken⟩ := takeAll_of_faultless sound
  obtain ⟨uri, held⟩ := Option.isSome_iff_exists.1 ((holds_iff taken .uri).2 comes)
  refine ⟨uri, draft.nsPrefix.join, fields_ok_iff.1 ?_⟩
  rw [Doc.fields, taken]
  simp only [bind, Except.bind, held]
  rfl

end Objects

end Json

namespace Namespace

open Json

theorem ofJsonText_first_fault :
    (∀ (before : List (List Piece × Doc)) (member : List Piece × Doc),
      (∃ e, Fault before member e) ↔
        Misused before member ∨ (¬∃ name, Decodes member.1 name) ∨
          ∃ key : Json.Key, Decodes member.1 key.label ∧ ¬member.2.IsReadable) ∧
    (∀ members : List (List Piece × Doc), Faultless members ∨ ∃ before member after e,
      members = before ++ member :: after ∧ Faultless before ∧ Fault before member e) ∧
    (∀ (before : List (List Piece × Doc)) (member : List Piece × Doc) (e : ReadError),
      Faultless before → Fault before member e →
        ∀ (after : List (List Piece × Doc)) (source : String),
          (Doc.object (before ++ member :: after)).IsTextOf source.toList → ofJsonText source = .error e) ∧
    (∀ (members : List (List Piece × Doc)) (source : String), Faultless members →
      (Doc.object members).IsTextOf source.toList →
        (¬Comes .uri members → ofJsonText source = .error (.misfit .missingUri)) ∧
        (Comes .uri members → ∃ uri nsPrefix, (Doc.object members).Describes uri nsPrefix ∧
          ofJsonText source = (fromPrefixAndUri (prefixOperand nsPrefix) (.text uri)).mapError
            fun e => .misfit (.illegalPrefix e))) ∧
    (∀ (members others : List (List Piece × Doc)) (source other : String), counting members = counting others →
      (Doc.object members).IsTextOf source.toList → (Doc.object others).IsTextOf other.toList →
        ofJsonText source = ofJsonText other) := by
  refine ⟨fun _ _ => exists_fault_iff, faultless_or_first, ?_, ?_, ?_⟩
  · intro before member e sound fault after source text
    rw [ofJsonText_of_text text, Doc.fields, takeAll_of_fault sound fault after]
    rfl
  · intro members source sound text
    constructor
    · intro missing
      rw [ofJsonText_of_text text, fields_of_missing sound missing]
      rfl
    · intro comes
      obtain ⟨uri, nsPrefix, describes⟩ := describes_of_faultless sound comes
      refine ⟨uri, nsPrefix, describes, ?_⟩
      rw [fromPrefixAndUri_operand]
      exact ofJsonText_of_describes text describes
  · intro members others source other same text other_text
    rw [ofJsonText_of_text text, ofJsonText_of_text other_text, fields_congr same]

def plainMember (name : List Char) (value : Doc) : List Piece × Doc := (name.map .char, value)

theorem ofJsonText_first_fault_of_several :
    let number : Doc := .number ⟨false, ['7'], none, none⟩
    let before := [plainMember ['x'] (.array []), plainMember ['p', 'r', 'e', 'f', 'i', 'x'] .null]
    let member := plainMember ['p', 'r', 'e', 'f', 'i', 'x'] number
    Faultless before ∧ Fault before member (.misfit (.duplicate .nsPrefix)) ∧
      ofJsonText "\x7b\"x\":[],\"prefix\":null,\"prefix\":7,\"uri\":7\x7d" =
        .error (.misfit (.duplicate .nsPrefix)) ∧
      ofJsonText "\x7b\"x\":[],\"prefix\":null\x7d" = .error (.misfit .missingUri) ∧
      ofJsonText "\x7b\"prefix\":null,\"x\":[],\"x\":[]\x7d" = .error (.misfit .missingUri) := by
  intro number before member
  have taken : Draft.takeAll ⟨none, none⟩ before = .ok ⟨none, some none⟩ := by rfl
  have sound := faultless_of_takeAll taken
  have fault : Fault before member (.misfit (.duplicate .nsPrefix)) :=
    .repeated (by decide) (by decide)
  have missing : ¬Comes .uri before := by decide
  obtain ⟨-, -, refused, complete, unknown⟩ := ofJsonText_first_fault
  have text : (Doc.object before).IsTextOf "\x7b\"x\":[],\"prefix\":null\x7d".toList :=
    Doc.tokens_eq_iff.1 (by cbv)
  have read := (complete before _ sound text).1 missing
  refine ⟨sound, fault, ?_, read, ?_⟩
  · exact refused before _ _ sound fault [plainMember ['u', 'r', 'i'] number] _ (Doc.tokens_eq_iff.1 (by cbv))
  · rw [← read]
    have same : counting [plainMember ['p', 'r', 'e', 'f', 'i', 'x'] .null, plainMember ['x'] (.array []),
        plainMember ['x'] (.array [])] = counting before := by rfl
    exact unknown _ _ _ _ same (Doc.tokens_eq_iff.1 (by cbv)) text

-- Half of a surrogate pair is enough: in a name that does not count, or in a uri before another one.
theorem not_only_misused_refused :
    let unknown : List Piece × Doc := ([.unit 0xd800], .number ⟨false, ['1'], none, none⟩)
    let half := plainMember ['u', 'r', 'i'] (.text [.unit 0xd800])
    let plain := plainMember ['u', 'r', 'i'] (.text [.char 'u'])
    ((Doc.object [unknown, plain]).IsTextOf "\x7b\"\\ud800\":1,\"uri\":\"u\"\x7d".toList ∧
      ¬Misused [] unknown ∧ ¬Misused [unknown] plain ∧
      fromPrefixAndUri .undefined (.text "u") = .ok ⟨"u", none⟩ ∧
      ofJsonText "\x7b\"\\ud800\":1,\"uri\":\"u\"\x7d" = .error .malformed) ∧
    ((Doc.object [half, plain]).IsTextOf "\x7b\"uri\":\"\\ud800\",\"uri\":\"u\"\x7d".toList ∧
      ¬Misused [] half ∧ Fault [half] plain (.misfit (.duplicate .uri)) ∧
      ofJsonText "\x7b\"uri\":\"\\ud800\",\"uri\":\"u\"\x7d" = .error .malformed) := by
  intro unknown half plain
  have unknown_name : ¬Misused [] unknown := by
    rintro ⟨_ | _, label, -⟩ <;> exact absurd label (by decide)
  have uri_text {before : List (List Piece × Doc)} {text : List Piece} (new : ¬Comes .uri before) :
      ¬Misused before (plainMember ['u', 'r', 'i'] (.text text)) := by
    rintro ⟨_ | _, label, wrong⟩
    · exact wrong.elim new fun mistyped => mistyped ⟨text, rfl⟩
    · have other : ¬Decodes (['u', 'r', 'i'].map .char) "prefix" := by decide
      exact other label
  constructor
  · exact ⟨Doc.tokens_eq_iff.1 (by cbv), unknown_name, uri_text (by decide), by cbv, by cbv⟩
  · exact ⟨Doc.tokens_eq_iff.1 (by cbv), uri_text (by decide), .repeated (by decide) (by decide), by cbv⟩

end Namespace

end XmlNames
