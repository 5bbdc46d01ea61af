import XmlNames.Proofs.Binary64.Layout
import XmlNames.Proofs.Construction.Checked
import XmlNames.Proofs.Construction.Report

set_option autoImplicit false

namespace XmlNames

theorem not_isValidPrefix_of_mem {text : String} {c : Char} (held : c ∈ text.toList)
    (foreign : isPrefixPart c = false) : isValidPrefix text = false := by
  rw [← Bool.not_eq_true]
  intro valid
  have part := isPrefixPart_of_isValidPrefix valid c held
  rw [foreign] at part
  contradiction

theorem not_isValidPrefix_of_head {text : String} {c : Char} {more : List Char} (head : text.toList = c :: more)
    (foreign : isPrefixStart c = false) : isValidPrefix text = false := by
  rw [isValidPrefix, head]
  simp [foreign]

theorem not_isPrefixStart_of_isDigit {c : Char} (digit : c.isDigit = true) : isPrefixStart c = false := by
  rw [← Bool.not_eq_true]
  intro start
  simp only [isPrefixStart, Bool.or_eq_true, beq_iff_eq] at start
  rcases start with letter | rfl
  · simp only [Char.isAlpha, Char.isUpper, Char.isLower, Char.isDigit, Bool.or_eq_true, Bool.and_eq_true,
      decide_eq_true_eq, ge_iff_le, UInt32.le_iff_toNat_le] at letter digit
    change (65 ≤ c.toNat ∧ c.toNat ≤ 90) ∨ 97 ≤ c.toNat ∧ c.toNat ≤ 122 at letter
    change 48 ≤ c.toNat ∧ c.toNat ≤ 57 at digit
    omega
  · exact absurd digit (by decide)

namespace Binary64

theorem exists_head_toText {x : Binary64} (finite : x.IsFinite) :
    ∃ c more, x.toText.toList = c :: more ∧ isPrefixStart c = false := by
  obtain ⟨n, written, same, -⟩ := spell_toText finite
  obtain ⟨c, more, spelled, head⟩ := Json.numeral_head (Json.Numeral.spelled_spell written)
  refine ⟨c, more, same.symm.trans spelled, ?_⟩
  rcases head with rfl | digit
  · decide
  · exact not_isPrefixStart_of_isDigit digit

theorem toText_ne_empty (x : Binary64) : x.toText ≠ "" := by
  rcases x.trichotomy with nan | infinite | finite
  · rw [toText_nan nan]
    decide
  · rw [toText_infinite infinite]
    cases x.negative <;> decide
  · obtain ⟨c, more, text, -⟩ := exists_head_toText finite
    intro empty
    simp [empty] at text

theorem isValidPrefix_toText_iff (x : Binary64) :
    isValidPrefix x.toText = true ↔ x.IsNaN ∨ x.IsInfinite ∧ x.negative = false := by
  rcases x.trichotomy with nan | infinite | finite
  · rw [toText_nan nan]
    simp only [nan, true_or, iff_true]
    decide
  · have number : ¬x.IsNaN := infinite.not_gt
    rw [toText_infinite infinite]
    simp only [number, infinite, false_or, true_and]
    cases x.negative <;> decide
  · have number : ¬x.IsNaN := lt_asymm finite
    have bounded : ¬x.IsInfinite := finite.ne
    obtain ⟨c, more, text, foreign⟩ := exists_head_toText finite
    simp [number, bounded, not_isValidPrefix_of_head text foreign]

end Binary64

namespace QName

def InPublic (name : QName) : Prop := ∃ ns, name.ns = some ns ∧ ns.uri = ""

theorem render_of_inPublic {name : QName} (inPublic : name.InPublic) : name.render = name.localName := by
  obtain ⟨ns, resolved, unnamed⟩ := inPublic
  simp [render, resolved, Namespace.isPublic, unnamed]

theorem colon_mem_render {name : QName} (elsewhere : ¬name.InPublic) : ':' ∈ name.render.toList := by
  obtain ⟨ns, localName⟩ := name
  cases ns with
  | none => simp [render]
  | some ns =>
    have named : ns.uri ≠ "" := fun unnamed => elsewhere ⟨ns, rfl, unnamed⟩
    simp [render, Namespace.isPublic, named]

theorem not_isValidPrefix_render {name : QName} (elsewhere : ¬name.InPublic) : isValidPrefix name.render = false :=
  not_isValidPrefix_of_mem (colon_mem_render elsewhere) (by decide)

theorem render_ne_empty {name : QName} (elsewhere : ¬name.InPublic) : name.render ≠ "" := by
  intro empty
  have colon := colon_mem_render elsewhere
  simp [empty] at colon

end QName

namespace Namespace

open Coercion

theorem value_construct_candidate {candidate : Value} (present : candidate.isAbsent = false) (uri : Value) :
    (construct [candidate, uri]).value = ⟨uriPosition uri, keptPrefix (uriPosition uri) candidate.toText⟩ := by
  rw [value_construct_present present, value_ofPair, toText_eq]

theorem ofPrefixAndUri_named {uri : String} (named : uri ≠ "") (text : String) :
    ofPrefixAndUri (some text) uri = .ok ⟨uri, keptPrefix uri text⟩ := by
  by_cases empty : text = ""
  · simp [ofPrefixAndUri, keptPrefix, named, empty]
  · simp [ofPrefixAndUri, keptPrefix, named, empty]

theorem keptPrefix_toText {uri : String} (named : uri ≠ "") (x : Binary64) :
    keptPrefix uri x.toText = if x.IsNaN then some "NaN"
      else if x.IsInfinite ∧ x.negative = false then some "Infinity" else none := by
  rw [keptPrefix, if_neg named]
  simp only [x.toText_ne_empty, x.isValidPrefix_toText_iff, false_or]
  by_cases nan : x.IsNaN
  · simp [nan, Binary64.toText_nan]
  · by_cases infinite : x.IsInfinite ∧ x.negative = false
    · simp [nan, infinite, Binary64.toText_infinite]
    · simp [nan, infinite]

theorem number_as_candidate (x : Binary64) (uri : Value) :
    let text := uriPosition uri
    let made := (construct [.number x, uri]).value
    (text ≠ "" →
      made = ⟨text, if x.IsNaN then some "NaN"
        else if x.IsInfinite ∧ x.negative = false then some "Infinity" else none⟩ ∧
      fromPrefixAndUri (.number x) (.text text) = .ok made) ∧
    (text = "" → made = ⟨"", none⟩ ∧ fromPrefixAndUri (.number x) (.text text) = .error ⟨x.toText⟩) := by
  intro text made
  have lenient : made = ⟨text, keptPrefix text x.toText⟩ := value_construct_candidate rfl uri
  have checked : fromPrefixAndUri (.number x) (.text text) = ofPrefixAndUri (some x.toText) text :=
    fromPrefixAndUri_present rfl text
  constructor
  · intro named
    rw [checked, lenient, ofPrefixAndUri_named named, keptPrefix_toText named]
    exact ⟨rfl, rfl⟩
  · intro unnamed
    constructor
    · rw [lenient, unnamed]
      simp [keptPrefix, x.toText_ne_empty]
    · rw [checked]
      exact ofPrefixAndUri_error_iff.2 ⟨unnamed, x.toText_ne_empty, rfl⟩

theorem number_as_candidate_without_value :
    let x := Binary64.ofBits 0xFFF8000000000001
    let zero := Binary64.ofBits 0x8000000000000000
    let uri := Value.ofQName (.anyNamespace "b")
    (uriPosition uri ≠ "" ∧ uriPosition .undefined ≠ "" ∧ uriPosition (.object "") = "") ∧
    (construct [.number x, uri]).value = ⟨"*::b", some "NaN"⟩ ∧
    (construct [.number zero, .undefined]).value = ⟨"undefined", none⟩ ∧
    (construct [.number zero, .object ""]).value = ⟨"", none⟩ ∧
    fromPrefixAndUri (.number zero) (.text "") = .error ⟨"0"⟩ := by
  intro x zero uri
  have named : uriPosition uri ≠ "" := by decide
  have named' : uriPosition .undefined ≠ "" := by decide
  have kept := ((number_as_candidate x uri).1 named).1
  have dropped := ((number_as_candidate zero .undefined).1 named').1
  have lost := (number_as_candidate zero (.object "")).2 rfl
  exact ⟨⟨named, named', rfl⟩, kept, dropped, lost⟩

-- The colons between the parts of a name are no part of any prefix.
theorem keptPrefix_render {uri : String} (named : uri ≠ "") {name : QName} (elsewhere : ¬name.InPublic) :
    keptPrefix uri name.render = none := by
  simp [keptPrefix, named, QName.render_ne_empty elsewhere, QName.not_isValidPrefix_render elsewhere]

theorem name_as_candidate (name : QName) (uri : Value) :
    let made := (construct [.ofQName name, uri]).value
    made.uri = uriPosition uri ∧
    (uriPosition uri ≠ "" →
      (∀ text, text ≠ "" → (made.nsPrefix = some text ↔
        name.InPublic ∧ isValidPrefix name.localName = true ∧ text = name.localName)) ∧
      (made.nsPrefix = some "" ↔ name.InPublic ∧ name.localName = "") ∧
      (made.nsPrefix = none ↔
        ¬(name.InPublic ∧ (isValidPrefix name.localName = true ∨ name.localName = "")))) := by
  intro made
  have lenient : made = ⟨uriPosition uri, keptPrefix (uriPosition uri) name.render⟩ :=
    value_construct_candidate rfl uri
  rw [lenient]
  refine ⟨rfl, ?_⟩
  intro named
  by_cases inPublic : name.InPublic
  · rw [QName.render_of_inPublic inPublic, keptPrefix, if_neg named]
    by_cases empty : name.localName = ""
    · simp [inPublic, empty, eq_comm]
    · by_cases valid : isValidPrefix name.localName = true
      · simp [inPublic, empty, valid, eq_comm]
      · simp [inPublic, empty, valid]
  · rw [keptPrefix_render named inPublic]
    simp [inPublic]

theorem name_as_candidate_in_public :
    let name := QName.inNamespace ⟨"", none⟩ "pre"
    let other := QName.inNamespace ⟨"pre", some "pre"⟩ ""
    let uri := Value.ns ⟨"u", some "p"⟩
    (uriPosition uri ≠ "" ∧ name.InPublic ∧ ¬other.InPublic) ∧
    (construct [.ofQName name, uri]).value.uri = "u" ∧
    (construct [.ofQName name, uri]).value.nsPrefix = some "pre" ∧
    (construct [.ofQName other, uri]).value.nsPrefix = none := by
  intro name other uri
  have named : uriPosition uri ≠ "" := by decide
  have inPublic : name.InPublic := ⟨_, rfl, rfl⟩
  have elsewhere : ¬other.InPublic := by
    rintro ⟨ns, ⟨⟩, unnamed⟩
    exact absurd unnamed (by decide)
  obtain ⟨place, kept⟩ := name_as_candidate name uri
  obtain ⟨-, -, lost⟩ := (name_as_candidate other uri).2 named
  have pre := ((kept named).1 "pre" (by decide)).2 ⟨inPublic, by decide, rfl⟩
  exact ⟨⟨named, inPublic, elsewhere⟩, place, pre, lost.2 fun held => elsewhere held.1⟩

end Namespace

end XmlNames
