import Mathlib.Data.List.Basic
import XmlNames.Proofs.Namespace.Reachable
import XmlNames.Text.Quoted

set_option autoImplicit false

namespace XmlNames

namespace Text

theorem unprintableRanges_outside : ∀ run ∈ unprintableRanges, run.2 < 0x20 ∨ 0x7f ≤ run.1 := by
  decide +kernel

theorem isUnprintable_visible {c : Char} (low : 0x20 ≤ c.toNat) (high : c.toNat < 0x7f) :
    isUnprintable c = false := by
  rw [isUnprintable, List.any_eq_false]
  intro run found
  have outside := unprintableRanges_outside run found
  simp only [Bool.and_eq_true, decide_eq_true_eq]
  omega

theorem visible_of_isPrefixPart {c : Char} (part : isPrefixPart c = true) : 0x20 ≤ c.toNat ∧ c.toNat < 0x7f := by
  simp only [isPrefixPart, Bool.or_eq_true, beq_iff_eq] at part
  rcases part with ((alphanumeric | rfl) | rfl) | rfl
  · have ranges : (decide (c.val ≥ 'A'.val ∧ c.val ≤ 'Z'.val) || (c.val ≥ 'a'.val && c.val ≤ 'z'.val) ||
        (c.val ≥ '0'.val && c.val ≤ '9'.val)) = true := alphanumeric
    simp only [Bool.or_eq_true, Bool.and_eq_true, decide_eq_true_eq, ge_iff_le, UInt32.le_iff_toNat_le] at ranges
    change ((65 ≤ c.toNat ∧ c.toNat ≤ 90) ∨ 97 ≤ c.toNat ∧ c.toNat ≤ 122) ∨ 48 ≤ c.toNat ∧ c.toNat ≤ 57 at ranges
    omega
  all_goals decide

theorem shown_of_isPrefixPart {c : Char} (part : isPrefixPart c = true) : shown c = [c] := by
  have other {special : Char} (excluded : isPrefixPart special = false) : c ≠ special := by
    rintro rfl
    rw [part] at excluded
    contradiction
  obtain ⟨low, high⟩ := visible_of_isPrefixPart part
  simp [shown, other, isPrefixPart, isUnprintable_visible low high]

theorem quoted_eq {text : String} (plain : ∀ c ∈ text.toList, isPrefixPart c = true) :
    quoted text = "\"" ++ text ++ "\"" := by
  have same : text.toList.flatMap shown = text.toList := by
    rw [List.flatMap_congr fun c found => shown_of_isPrefixPart (plain c found)]
    simp
  apply String.toList_injective
  simp [quoted, same]

end Text

theorem isPrefixPart_of_isValidPrefix {text : String} (valid : isValidPrefix text = true) :
    ∀ c ∈ text.toList, isPrefixPart c = true := by
  unfold isValidPrefix at valid
  cases chars : text.toList with
  | nil => simp
  | cons first rest =>
    rw [chars, Bool.and_eq_true, List.all_eq_true] at valid
    have start : isPrefixPart first = true := by
      have letter := valid.1
      simp only [isPrefixStart, Bool.or_eq_true] at letter
      rcases letter with alphabetic | underscore
      · simp [isPrefixPart, Char.isAlphanum, alphabetic]
      · simp [isPrefixPart, underscore]
    exact List.forall_mem_cons.2 ⟨start, valid.2⟩

theorem Namespace.WellFormed.shownPrefix_eq {n : Namespace} (good : n.WellFormed) :
    Event.shownPrefix n.nsPrefix = match n.nsPrefix with
      | none => "None"
      | some text => "Some(\"" ++ text ++ "\")" := by
  cases kept : n.nsPrefix with
  | none => rfl
  | some text =>
    have plain : ∀ c ∈ text.toList, isPrefixPart c = true := by
      rcases good.lexical text kept with rfl | valid
      · simp
      · exact isPrefixPart_of_isValidPrefix valid
    apply String.toList_injective
    simp [Event.shownPrefix, Text.quoted_eq plain]

structure Record where
  level : String
  message : String
  fields : List (String × Field)
  deriving DecidableEq, Repr

def Event.record (e : Event) : Record := ⟨e.level.label, e.message, e.fields⟩

namespace Namespace

def constructedRecord (count : Nat) (made : Namespace) : Record :=
  ⟨"TRACE", "constructed namespace",
    [("args", .count count), ("uri", .text made.uri), ("prefix", .text (Event.shownPrefix made.nsPrefix))]⟩

def droppedRecord (candidate : String) (made : Namespace) : Record :=
  ⟨"DEBUG", "dropping namespace prefix", [("prefix", .text candidate), ("uri", .text made.uri)]⟩

def LosesPrefix (args : List Value) (made : Namespace) (candidate : String) : Prop :=
  ∃ first second rest, args = first :: second :: rest ∧ first ≠ .undefined ∧ first ≠ .null ∧
    made.nsPrefix = none ∧ candidate = first.toText

theorem isAbsent_iff {value : Value} : value.isAbsent = true ↔ value = .undefined ∨ value = .null := by
  cases value <;> simp [Value.isAbsent]

-- A candidate is reported just when it is not kept, and the empty one is kept.
theorem events_ofPair (candidate uri : Value) :
    (∃ text, (ofPair candidate uri).value.nsPrefix = some text) ∧ (ofPair candidate uri).events = [] ∨
    (ofPair candidate uri).value.nsPrefix = none ∧ candidate.toText ≠ "" ∧
      (ofPair candidate uri).events = [.prefixDropped candidate.toText (ofPair candidate uri).value.uri] := by
  fun_cases ofPair candidate uri with
  | case1 text empty => exact .inl ⟨⟨"", rfl⟩, rfl⟩
  | case2 text nonempty kept => exact .inl ⟨⟨text, rfl⟩, rfl⟩
  | case3 text nonempty dropped => exact .inr ⟨rfl, nonempty, rfl⟩

theorem events_ofArguments (args : List Value) :
    (∀ candidate, LosesPrefix args (ofArguments args).value candidate → candidate ≠ "" ∧
      (ofArguments args).events = [.prefixDropped candidate (ofArguments args).value.uri]) ∧
    ((∀ candidate, ¬LosesPrefix args (ofArguments args).value candidate) → (ofArguments args).events = []) := by
  match args with
  | [] | [_] =>
    refine ⟨?_, fun _ => rfl⟩
    rintro candidate ⟨first, second, rest, two, -⟩
    simp at two
  | first :: second :: rest =>
    rw [ofArguments]
    by_cases absent : first.isAbsent = true
    · rw [if_pos absent]
      refine ⟨?_, fun _ => rfl⟩
      rintro candidate ⟨_, _, _, ⟨⟩, given, given', -⟩
      exact absurd (isAbsent_iff.1 absent) (not_or.2 ⟨given, given'⟩)
    · rw [if_neg absent]
      rcases events_ofPair first second with ⟨⟨text, kept⟩, silent⟩ | ⟨lost, nonempty, reported⟩
      · refine ⟨?_, fun _ => silent⟩
        rintro candidate ⟨_, _, _, -, -, -, lost, -⟩
        rw [kept] at lost
        contradiction
      · constructor
        · rintro candidate ⟨_, _, _, ⟨⟩, -, -, -, rfl⟩
          exact ⟨nonempty, reported⟩
        · intro keeps
          obtain ⟨given, given'⟩ := not_or.1 (isAbsent_iff.not.1 absent)
          exact absurd ⟨first, second, rest, rfl, given, given', lost, rfl⟩ (keeps first.toText)

theorem construct_reports (args : List Value) :
    let made := (construct args).value
    let records := (construct args).events.map Event.record
    (∀ candidate, LosesPrefix args made candidate →
      candidate ≠ "" ∧ records = [droppedRecord candidate made, constructedRecord args.length made]) ∧
    ((∀ candidate, ¬LosesPrefix args made candidate) → records = [constructedRecord args.length made]) ∧
    ((∀ value ∈ args, ∀ n ∈ value.namespaces, Script.Reachable n) →
      Event.shownPrefix made.nsPrefix = match made.nsPrefix with
        | none => "None"
        | some text => "Some(\"" ++ text ++ "\")") := by
  intro made records
  have split : records = (ofArguments args).events.map Event.record ++ [constructedRecord args.length made] :=
    List.map_append
  obtain ⟨reported, silent⟩ := events_ofArguments args
  refine ⟨?_, ?_, ?_⟩
  · intro candidate lost
    obtain ⟨nonempty, dropped⟩ := reported candidate lost
    rw [split, dropped]
    exact ⟨nonempty, rfl⟩
  · intro keeps
    rw [split, silent keeps]
    rfl
  · intro reachable
    have sound : ∀ value ∈ args, AllWellFormed value.namespaces :=
      fun value given n held => (reachable value given n held).wellFormed
    exact (construct_wellFormed sound).shownPrefix_eq

theorem construct_reports_a_dropped_name :
    let args : List Value := [.ofQName (.inNamespace ⟨"v", some "p"⟩ "x"), .ns ⟨"u", some "p"⟩, .null]
    (∀ value ∈ args, ∀ n ∈ value.namespaces, Script.Reachable n) ∧
      LosesPrefix args (construct args).value "v::x" ∧
      (construct args).events.map Event.record =
        [⟨"DEBUG", "dropping namespace prefix", [("prefix", .text "v::x"), ("uri", .text "u")]⟩,
          ⟨"TRACE", "constructed namespace", [("args", .count 3), ("uri", .text "u"), ("prefix", .text "None")]⟩] ∧
      Event.shownPrefix (construct args).value.nsPrefix = "None" := by
  intro args
  have reachable (uri : String) (named : uri ≠ "") : Script.Reachable ⟨uri, some "p"⟩ := by
    have made : ofPrefixAndUri (some "p") uri = .ok ⟨uri, some "p"⟩ := by simp [ofPrefixAndUri, named]; decide
    exact Script.reachable_of_wellFormed (ofPrefixAndUri_wellFormed made)
  have held : ∀ value ∈ args, ∀ n ∈ value.namespaces, Script.Reachable n := by
    simp [args, Value.namespaces, Value.ofQName, QName.toObject, QName.namespaces, QName.inNamespace,
      reachable "u" (by decide), reachable "v" (by decide)]
  have lost : LosesPrefix args (construct args).value "v::x" :=
    ⟨_, _, _, rfl, by decide, by decide, by decide, by decide⟩
  obtain ⟨reported, -, shown⟩ := construct_reports args
  exact ⟨held, lost, (reported _ lost).2, shown held⟩

end Namespace

end XmlNames
