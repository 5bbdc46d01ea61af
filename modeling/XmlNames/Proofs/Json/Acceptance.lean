import XmlNames.Construction
import XmlNames.Proofs.Json.Reading

set_option autoImplicit false

namespace XmlNames

namespace Json

def valuesOf (key : String) (members : List (List Piece × Doc)) : List Doc :=
  (members.filter fun member => Decodes member.1 key).map Prod.snd

inductive OptionalText : List Doc → Option String → Prop
  | missing : OptionalText [] none
  | null : OptionalText [.null] none
  | text {found : List Piece} {content : String} :
    Decodes found content → OptionalText [.text found] (some content)

-- An object with one uri and at most one prefix among any other members, or an array of both.
inductive Doc.Describes : Doc → String → Option String → Prop
  | object {members : List (List Piece × Doc)} {found : List Piece} {uri : String} {nsPrefix : Option String} :
    (∀ member ∈ members, ∃ name, Decodes member.1 name) →
    valuesOf "uri" members = [.text found] → Decodes found uri →
    OptionalText (valuesOf "prefix" members) nsPrefix → Describes (.object members) uri nsPrefix
  | array {found : List Piece} {uri : String} {rest : List Doc} {nsPrefix : Option String} :
    Decodes found uri → OptionalText rest nsPrefix → Describes (.array (.text found :: rest)) uri nsPrefix

namespace OptionalText

variable {values others : List Doc} {nsPrefix : Option String}

theorem perm (optional : OptionalText values nsPrefix) (same : values.Perm others) :
    OptionalText others nsPrefix := by
  cases optional with
  | missing => exact List.nil_perm.1 same ▸ .missing
  | null => exact List.singleton_perm.1 same ▸ .null
  | text decodes => exact List.singleton_perm.1 same ▸ .text decodes

end OptionalText

def known (members : List (List Piece × Doc)) : List (List Piece × Doc) :=
  members.filter fun member => Decodes member.1 "uri" ∨ Decodes member.1 "prefix"

theorem valuesOf_known {key : String} (counts : key = "uri" ∨ key = "prefix")
    (members : List (List Piece × Doc)) : valuesOf key (known members) = valuesOf key members := by
  rw [valuesOf, valuesOf, known, List.filter_filter]
  congr 1
  apply List.filter_congr
  intro member _
  rcases counts with rfl | rfl <;> simp <;> tauto

theorem Doc.Describes.reordered {members others : List (List Piece × Doc)} {uri : String}
    {nsPrefix : Option String} (describes : (Doc.object members).Describes uri nsPrefix)
    (named : ∀ member ∈ others, ∃ name, Decodes member.1 name)
    (same : (known members).Perm (known others)) : (Doc.object others).Describes uri nsPrefix := by
  have values {key : String} (counts : key = "uri" ∨ key = "prefix") :
      (valuesOf key members).Perm (valuesOf key others) := by
    rw [← valuesOf_known counts members, ← valuesOf_known counts others]
    exact (same.filter _).map _
  cases describes with
  | object _ single decodes optional =>
    have uris := values (.inl rfl)
    rw [single] at uris
    exact .object named (List.singleton_perm.1 uris).symm decodes (optional.perm (values (.inr rfl)))

inductive Filled {A : Type} (read : Doc → Except ReadError A) : Option A → List Doc → Option A → Prop
  | kept {slot : Option A} : Filled read slot [] slot
  | taken {value : Doc} {content : A} : read value = .ok content → Filled read none [value] (some content)

section

variable {A : Type} {read : Doc → Except ReadError A} {slot last : Option A}

theorem filled_nil : Filled read slot [] last ↔ slot = last := by
  constructor
  · rintro ⟨⟩
    rfl
  · rintro rfl
    exact .kept

theorem filled_cons {value : Doc} {values : List Doc} :
    Filled read slot (value :: values) last ↔
      slot = none ∧ values = [] ∧ ∃ content, read value = .ok content ∧ last = some content := by
  constructor
  · rintro ⟨⟩
    exact ⟨rfl, rfl, _, ‹_›, rfl⟩
  · rintro ⟨rfl, rfl, content, holds, rfl⟩
    exact .taken holds

theorem filled_append {early late : List Doc} :
    Filled read slot (early ++ late) last ↔
      ∃ next, Filled read slot early next ∧ Filled read next late last := by
  cases early with
  | nil => simp [filled_nil]
  | cons value values =>
    rw [List.cons_append, filled_cons]
    simp only [filled_cons, List.append_eq_nil_iff]
    constructor
    · rintro ⟨rfl, ⟨rfl, rfl⟩, content, holds, rfl⟩
      exact ⟨_, ⟨rfl, rfl, content, holds, rfl⟩, .kept⟩
    · rintro ⟨_, ⟨rfl, rfl, content, holds, rfl⟩, after⟩
      cases after
      exact ⟨rfl, ⟨rfl, rfl⟩, content, holds, rfl⟩

end

theorem asText_ok_iff {d : Doc} {content : String} :
    d.asText = .ok content ↔ ∃ found, d = .text found ∧ Decodes found content := by
  cases d with
  | text found =>
    simp only [Doc.asText, Doc.text.injEq, exists_eq_left', decodes_iff]
    cases content? found <;> simp
  | _ => simp [Doc.asText]

theorem asOptionalText_ok_iff {d : Doc} {content : Option String} :
    d.asOptionalText = .ok content ↔ OptionalText [d] content := by
  constructor
  · intro read
    unfold Doc.asOptionalText at read
    split at read
    · cases read
      exact .null
    · obtain ⟨text, inner, rfl⟩ := map_eq_ok_iff.1 read
      obtain ⟨found, rfl, decodes⟩ := asText_ok_iff.1 inner
      exact .text decodes
  · intro optional
    cases optional with
    | null => rfl
    | text decodes => exact map_eq_ok_iff.2 ⟨_, asText_ok_iff.2 ⟨_, rfl, decodes⟩, rfl⟩

variable {draft next : Draft} {members : List (List Piece × Doc)}

theorem take_ok_iff {key : String} {value : Doc} :
    draft.take key value = .ok next ↔
      Filled Doc.asText draft.uri (if key = "uri" then [value] else []) next.uri ∧
        Filled Doc.asOptionalText draft.nsPrefix (if key = "prefix" then [value] else []) next.nsPrefix := by
  obtain ⟨uri, nsPrefix⟩ := draft
  obtain ⟨next_uri, next_prefix⟩ := next
  unfold Draft.take
  split
  · cases uri with
    | none => cases read : value.asText <;> simp [filled_nil, filled_cons, Except.map, read, eq_comm]
    | some earlier => simp [filled_cons]
  · cases nsPrefix with
    | none =>
      cases read : value.asOptionalText <;> simp [filled_nil, filled_cons, Except.map, read, eq_comm]
    | some earlier => simp [filled_cons]
  · next not_uri not_prefix =>
    rw [if_neg not_uri, if_neg not_prefix]
    simp [filled_nil]

theorem valuesOf_cons {found : List Piece} {name : String} (decodes : content? found = some name)
    (key : String) (value : Doc) (members : List (List Piece × Doc)) :
    valuesOf key ((found, value) :: members) =
      (if name = key then [value] else []) ++ valuesOf key members := by
  by_cases same : name = key <;> simp [valuesOf, decodes_iff, decodes, same]

theorem takeAll_ok_iff :
    draft.takeAll members = .ok next ↔
      (∀ member ∈ members, ∃ name, Decodes member.1 name) ∧
        Filled Doc.asText draft.uri (valuesOf "uri" members) next.uri ∧
        Filled Doc.asOptionalText draft.nsPrefix (valuesOf "prefix" members) next.nsPrefix := by
  induction members generalizing draft with
  | nil =>
    obtain ⟨uri, nsPrefix⟩ := draft
    obtain ⟨next_uri, next_prefix⟩ := next
    simp [Draft.takeAll, valuesOf, filled_nil]
  | cons member members ih =>
    obtain ⟨found, value⟩ := member
    rw [Draft.takeAll]
    cases decoded : content? found with
    | none => simp [decodes_iff, decoded]
    | some name =>
      -- A draft halfway is a uri slot and a prefix slot halfway.
      rw [valuesOf_cons decoded, valuesOf_cons decoded, filled_append, filled_append]
      simp only [bind_eq_ok_iff, ih, take_ok_iff, List.forall_mem_cons]
      constructor
      · rintro ⟨middle, ⟨uri_first, prefix_first⟩, named, uri_rest, prefix_rest⟩
        exact ⟨⟨⟨name, decodes_iff.2 decoded⟩, named⟩, ⟨_, uri_first, uri_rest⟩,
          _, prefix_first, prefix_rest⟩
      · rintro ⟨⟨_, named⟩, ⟨uri, uri_first, uri_rest⟩, nsPrefix, prefix_first, prefix_rest⟩
        exact ⟨⟨uri, nsPrefix⟩, ⟨uri_first, prefix_first⟩, named, uri_rest, prefix_rest⟩

theorem filled_text_iff {values : List Doc} {uri : String} :
    Filled Doc.asText none values (some uri) ↔ ∃ found, values = [.text found] ∧ Decodes found uri := by
  constructor
  · rintro ⟨⟩
    obtain ⟨found, rfl, decodes⟩ := asText_ok_iff.1 ‹_›
    exact ⟨found, rfl, decodes⟩
  · rintro ⟨found, rfl, decodes⟩
    exact .taken (asText_ok_iff.2 ⟨found, rfl, decodes⟩)

theorem filled_optionalText_iff {values : List Doc} {nsPrefix : Option String} :
    (∃ slot, Filled Doc.asOptionalText none values slot ∧ slot.join = nsPrefix) ↔
      OptionalText values nsPrefix := by
  constructor
  · rintro ⟨slot, filled, rfl⟩
    cases filled with
    | kept => exact .missing
    | taken read => exact asOptionalText_ok_iff.1 read
  · intro optional
    cases values with
    | nil =>
      cases optional
      exact ⟨none, .kept, rfl⟩
    | cons value values =>
      have single : values = [] := by cases optional <;> rfl
      subst single
      exact ⟨some nsPrefix, .taken (asOptionalText_ok_iff.2 optional), rfl⟩

theorem object_fields_ok_iff {uri : String} {nsPrefix : Option String} :
    (Doc.object members).fields = .ok (uri, nsPrefix) ↔ (Doc.object members).Describes uri nsPrefix := by
  constructor
  · intro read
    obtain ⟨⟨filled_uri, filled_prefix⟩, taken, complete⟩ := bind_eq_ok_iff.1 read
    obtain ⟨named, uris, prefixes⟩ := takeAll_ok_iff.1 taken
    cases filled_uri with
    | none => cases complete
    | some content =>
      cases complete
      obtain ⟨found, single, decodes⟩ := filled_text_iff.1 uris
      exact .object named single decodes (filled_optionalText_iff.1 ⟨_, prefixes, rfl⟩)
  · intro describes
    cases describes with
    | object named single decodes optional =>
      obtain ⟨slot, prefixes, rfl⟩ := filled_optionalText_iff.2 optional
      have uris := filled_text_iff.2 ⟨_, single, decodes⟩
      have taken : Draft.takeAll ⟨none, none⟩ members = .ok ⟨some uri, slot⟩ :=
        takeAll_ok_iff.2 ⟨named, uris, prefixes⟩
      exact bind_eq_ok_iff.2 ⟨_, taken, rfl⟩

theorem array_fields_ok_iff {items : List Doc} {uri : String} {nsPrefix : Option String} :
    (Doc.array items).fields = .ok (uri, nsPrefix) ↔ (Doc.array items).Describes uri nsPrefix := by
  match items with
  | [] => constructor <;> nofun
  | [first] =>
    constructor
    · intro read
      obtain ⟨content, text, same⟩ := map_eq_ok_iff.1 read
      obtain ⟨found, rfl, decodes⟩ := asText_ok_iff.1 text
      cases same
      exact .array decodes .missing
    · intro describes
      cases describes with
      | array decodes optional =>
        cases optional
        exact map_eq_ok_iff.2 ⟨uri, asText_ok_iff.2 ⟨_, rfl, decodes⟩, rfl⟩
  | first :: second :: rest =>
    constructor
    · intro read
      obtain ⟨content, text, more⟩ := bind_eq_ok_iff.1 read
      obtain ⟨found, rfl, decodes⟩ := asText_ok_iff.1 text
      obtain ⟨optional, second_read, complete⟩ := bind_eq_ok_iff.1 more
      cases rest with
      | nil =>
        cases complete
        exact .array decodes (asOptionalText_ok_iff.1 second_read)
      | cons third others => cases complete
    · intro describes
      cases describes with
      | array decodes optional =>
        have last : rest = [] := by cases optional <;> rfl
        subst last
        have text := asText_ok_iff.2 ⟨_, rfl, decodes⟩
        exact bind_eq_ok_iff.2
          ⟨uri, text, bind_eq_ok_iff.2 ⟨nsPrefix, asOptionalText_ok_iff.2 optional, rfl⟩⟩

theorem fields_ok_iff {d : Doc} {uri : String} {nsPrefix : Option String} :
    d.fields = .ok (uri, nsPrefix) ↔ d.Describes uri nsPrefix := by
  cases d with
  | object members => exact object_fields_ok_iff
  | array items => exact array_fields_ok_iff
  | _ =>
    constructor <;> nofun

def ofFields (fields : String × Option String) : Except ReadError Namespace :=
  (Namespace.ofPrefixAndUri fields.2 fields.1).mapError fun e => .misfit (.illegalPrefix e)

theorem toNamespace_complete (uri : String) (nsPrefix : Option String) :
    Form.toNamespace ⟨uri, nsPrefix, []⟩ = ofFields (uri, nsPrefix) := by
  rw [Form.toNamespace, ofFields]
  cases Namespace.ofPrefixAndUri nsPrefix uri <;> rfl

theorem ofJsonText_of_text {source : String} {d : Doc} (text : d.IsTextOf source.toList) :
    Namespace.ofJsonText source = d.fields >>= ofFields := by
  have read := readForm_tokens d []
  rw [List.append_nil, ← Doc.tokens_eq_iff.2 text] at read
  rw [Namespace.ofJsonText, read]
  cases d.fields with
  | error e => rfl
  | ok fields => exact toNamespace_complete fields.1 fields.2

theorem text_of_ofJsonText {source : String} {n : Namespace} (read : Namespace.ofJsonText source = .ok n) :
    ∃ d : Doc, d.IsTextOf source.toList := by
  obtain ⟨form, found, made⟩ := bind_eq_ok_iff.1 read
  obtain ⟨d, cut⟩ := value_of_readForm found
  have complete : form.rest = [] := by
    unfold Form.toNamespace at made
    split at made
    · cases made
    · split at made
      · next complete => exact List.isEmpty_iff.1 complete
      · cases made
  rw [complete, List.append_nil] at cut
  exact ⟨d, Doc.tokens_eq_iff.1 cut⟩

end Json

namespace Namespace

open Json

def prefixOperand : Option String → Value
  | none => .undefined
  | some text => .text text

theorem fromPrefixAndUri_operand (uri : String) (nsPrefix : Option String) :
    fromPrefixAndUri (prefixOperand nsPrefix) (.text uri) = ofPrefixAndUri nsPrefix uri := by
  cases nsPrefix <;> rfl

theorem ofPrefixAndUri_ok_iff {nsPrefix : Option String} {uri : String} :
    (∃ n, ofPrefixAndUri nsPrefix uri = .ok n) ↔
      ¬(uri = "" ∧ ∃ text, nsPrefix = some text ∧ text ≠ "") := by
  cases nsPrefix with
  | none => simp [ofPrefixAndUri]
  | some text =>
    by_cases empty : text = "" <;> by_cases unnamed : uri = "" <;> simp [ofPrefixAndUri, empty, unnamed]

theorem ofJsonText_of_describes {source : String} {doc : Doc} {uri : String} {nsPrefix : Option String}
    (text : doc.IsTextOf source.toList) (describes : doc.Describes uri nsPrefix) :
    ofJsonText source = ofFields (uri, nsPrefix) := by
  rw [ofJsonText_of_text text, fields_ok_iff.2 describes]
  rfl

theorem describes_of_ofJsonText {source : String} {doc : Doc} {n : Namespace}
    (text : doc.IsTextOf source.toList) (read : ofJsonText source = .ok n) :
    ∃ uri nsPrefix, doc.Describes uri nsPrefix ∧ ofFields (uri, nsPrefix) = .ok n := by
  rw [ofJsonText_of_text text] at read
  obtain ⟨⟨uri, nsPrefix⟩, found, made⟩ := bind_eq_ok_iff.1 read
  exact ⟨uri, nsPrefix, fields_ok_iff.1 found, made⟩

theorem ofFields_ok_iff {uri : String} {nsPrefix : Option String} :
    (∃ n, ofFields (uri, nsPrefix) = .ok n) ↔ ¬(uri = "" ∧ ∃ text, nsPrefix = some text ∧ text ≠ "") := by
  rw [← ofPrefixAndUri_ok_iff, ofFields]
  cases ofPrefixAndUri nsPrefix uri <;> simp [Except.mapError]

theorem ofJsonText_accepts (source : String) :
    ((∃ n, ofJsonText source = .ok n) ↔
      ∃ (doc : Doc) (uri : String) (nsPrefix : Option String),
        doc.IsTextOf source.toList ∧ doc.Describes uri nsPrefix ∧
          ¬(uri = "" ∧ ∃ text, nsPrefix = some text ∧ text ≠ "")) ∧
    (∀ (doc : Doc) (uri : String) (nsPrefix : Option String),
      doc.IsTextOf source.toList → doc.Describes uri nsPrefix →
        ofJsonText source = (fromPrefixAndUri (prefixOperand nsPrefix) (.text uri)).mapError
          fun e => .misfit (.illegalPrefix e)) ∧
    (∀ (other : String) (doc doc' : Doc) (uri : String) (nsPrefix : Option String),
      doc.IsTextOf source.toList → doc'.IsTextOf other.toList →
      doc.Describes uri nsPrefix → doc'.Describes uri nsPrefix →
        ofJsonText source = ofJsonText other) ∧
    (∀ (other : String) (members others : List (List Piece × Doc)) (n : Namespace),
      (Doc.object members).IsTextOf source.toList → (Doc.object others).IsTextOf other.toList →
      (∀ member ∈ others, ∃ name, Decodes member.1 name) → (known members).Perm (known others) →
        ofJsonText source = .ok n → ofJsonText other = .ok n) := by
  refine ⟨⟨?_, ?_⟩, ?_, ?_, ?_⟩
  · rintro ⟨n, read⟩
    obtain ⟨doc, text⟩ := text_of_ofJsonText read
    obtain ⟨uri, nsPrefix, describes, made⟩ := describes_of_ofJsonText text read
    exact ⟨doc, uri, nsPrefix, text, describes, ofFields_ok_iff.1 ⟨n, made⟩⟩
  · rintro ⟨doc, uri, nsPrefix, text, describes, allowed⟩
    rw [ofJsonText_of_describes text describes]
    exact ofFields_ok_iff.2 allowed
  · intro doc uri nsPrefix text describes
    rw [fromPrefixAndUri_operand]
    exact ofJsonText_of_describes text describes
  · intro other doc doc' uri nsPrefix text other_text describes also_describes
    rw [ofJsonText_of_describes text describes, ofJsonText_of_describes other_text also_describes]
  · intro other members others n text other_text named same read
    obtain ⟨uri, nsPrefix, describes, made⟩ := describes_of_ofJsonText text read
    rw [ofJsonText_of_describes other_text (describes.reordered named same), made]

-- Blanks, an escaped name, a surrogate pair and a member under another name.
def spacedSource : String :=
  "\t\x7b \"x\":[1e5,\x7b\"uri\":null\x7d], \"\\u0075ri\":\"u\\ud83d\\ude00\" ,\"prefix\":\"p\"\x7d\n"

def uriMember : List Piece × Doc :=
  ([.unit 0x75, .char 'r', .char 'i'], .text [.char 'u', .unit 0xd83d, .unit 0xde00])

def prefixMember : List Piece × Doc :=
  (['p', 'r', 'e', 'f', 'i', 'x'].map .char, .text [.char 'p'])

def spacedMembers : List (List Piece × Doc) :=
  [([.char 'x'], .array [.number ⟨false, ['1'], none, some 5⟩, .object [(['u', 'r', 'i'].map .char, .null)]]),
    uriMember, prefixMember]

theorem spacedMembers_text : (Doc.object spacedMembers).IsTextOf spacedSource.toList :=
  Doc.tokens_eq_iff.1 (by cbv)

theorem spacedMembers_describes : (Doc.object spacedMembers).Describes "u😀" (some "p") := by
  have named : ∀ member ∈ spacedMembers, ∃ name, Decodes member.1 name := by
    simp only [spacedMembers, List.forall_mem_cons]
    exact ⟨⟨"x", by decide⟩, ⟨"uri", by decide⟩, ⟨"prefix", by decide⟩, List.forall_mem_nil _⟩
  have uris : valuesOf "uri" spacedMembers = [uriMember.2] := by rfl
  have prefixes : valuesOf "prefix" spacedMembers = [prefixMember.2] := by rfl
  exact .object named uris (by decide) (prefixes ▸ .text (by decide))

theorem ofJsonText_accepts_spaced :
    ofJsonText spacedSource = .ok ⟨"u😀", some "p"⟩ ∧
      ofJsonText spacedSource = ofJsonText "[\"u😀\",\"p\"]" ∧
      ofJsonText "\x7b\"prefix\":\"p\",\"\\u0075ri\":\"u\\ud83d\\ude00\"\x7d" = .ok ⟨"u😀", some "p"⟩ := by
  obtain ⟨_, made, alike, reordered⟩ := ofJsonText_accepts spacedSource
  have read : ofJsonText spacedSource = .ok ⟨"u😀", some "p"⟩ :=
    made _ _ _ spacedMembers_text spacedMembers_describes
  refine ⟨read, ?_, ?_⟩
  · have text : (Doc.array [.text [.char 'u', .char '😀'], .text [.char 'p']]).IsTextOf
        "[\"u😀\",\"p\"]".toList := Doc.tokens_eq_iff.1 (by cbv)
    exact alike _ _ _ _ _ spacedMembers_text text spacedMembers_describes
      (.array (by decide) (.text (by decide)))
  · apply reordered _ spacedMembers [prefixMember, uriMember] _ spacedMembers_text _ _ _ read
    · exact Doc.tokens_eq_iff.1 (by cbv)
    · simp only [List.forall_mem_cons]
      exact ⟨⟨"prefix", by decide⟩, ⟨"uri", by decide⟩, List.forall_mem_nil _⟩
    · exact List.Perm.swap prefixMember uriMember []

def Paired (doc : Doc) : Prop :=
  ∀ found, Token.text found ∈ doc.tokens → ∃ content, Decodes found content

-- A string that is passed over may hold half of a surrogate pair.
theorem not_only_paired_accepted :
    ¬((∃ n, ofJsonText "\x7b\"uri\":\"u\",\"x\":\"\\ud800\"\x7d" = .ok n) ↔
      ∃ (doc : Doc) (uri : String) (nsPrefix : Option String),
        doc.IsTextOf "\x7b\"uri\":\"u\",\"x\":\"\\ud800\"\x7d".toList ∧ Paired doc ∧
          doc.Describes uri nsPrefix ∧ ¬(uri = "" ∧ ∃ text, nsPrefix = some text ∧ text ≠ "")) := by
  intro same
  have read : ofJsonText "\x7b\"uri\":\"u\",\"x\":\"\\ud800\"\x7d" = .ok ⟨"u", none⟩ := by cbv
  obtain ⟨doc, uri, nsPrefix, text, paired, _⟩ := same.1 ⟨_, read⟩
  have cut : Json.tokens "\x7b\"uri\":\"u\",\"x\":\"\\ud800\"\x7d".toList =
      [.openObject, .text (['u', 'r', 'i'].map .char), .colon, .text [.char 'u'], .comma,
        .text [.char 'x'], .colon, .text [.unit 0xd800], .closeObject] := by cbv
  have lone : Token.text [.unit 0xd800] ∈ doc.tokens := by
    rw [← Doc.tokens_eq_iff.2 text, cut]
    simp
  obtain ⟨content, decodes⟩ := paired _ lone
  simp [decodes_iff, content?, join, isHighSurrogate] at decodes

end Namespace

end XmlNames
