import XmlNames.Proofs.Namespace.Occurrence
import XmlNames.Proofs.Script.Building
import XmlNames.Script.Query

set_option autoImplicit false

namespace XmlNames

namespace Namespace

theorem ofSingle_wellFormed {value : Value} (sound : AllWellFormed value.namespaces) :
    (ofSingle value).WellFormed := by
  cases value with
  | ns n => simpa [ofSingle, Value.namespaces] using sound
  | _ => exact ofUri_wellFormed _

theorem ofPair_wellFormed (candidate uri : Value) : (ofPair candidate uri).value.WellFormed := by
  fun_cases ofPair candidate uri with
  | case1 => constructor <;> simp
  | case2 text nonempty kept =>
    constructor
    · exact fun unnamed => absurd unnamed kept.1
    · intro shown same
      cases same
      exact .inr kept.2
  | case3 => constructor <;> simp

theorem namespaces_ofPair (candidate uri : Value) :
    ∀ e ∈ (ofPair candidate uri).events, e.namespaces = [] := by
  fun_cases ofPair candidate uri <;> simp [Event.namespaces]

theorem ofArguments_wellFormed {args : List Value}
    (sound : ∀ value ∈ args, AllWellFormed value.namespaces) :
    (ofArguments args).value.WellFormed := by
  match args with
  | [] => exact publicNs_wellFormed
  | [value] => exact ofSingle_wellFormed (sound value (by simp))
  | candidate :: uri :: _ =>
    by_cases absent : candidate.isAbsent = true
    · simpa [ofArguments, absent] using ofSingle_wellFormed (sound uri (by simp))
    · simpa [ofArguments, absent] using ofPair_wellFormed candidate uri

theorem namespaces_ofArguments (args : List Value) :
    ∀ e ∈ (ofArguments args).events, e.namespaces = [] := by
  match args with
  | [] | [_] => simp [ofArguments]
  | candidate :: uri :: _ =>
    by_cases absent : candidate.isAbsent = true
    · simp [ofArguments, absent]
    · simpa [ofArguments, absent] using namespaces_ofPair candidate uri

theorem construct_wellFormed {args : List Value}
    (sound : ∀ value ∈ args, AllWellFormed value.namespaces) : (construct args).value.WellFormed :=
  ofArguments_wellFormed sound

theorem sound_events_construct {args : List Value}
    (sound : ∀ value ∈ args, AllWellFormed value.namespaces) :
    ∀ e ∈ (construct args).events, AllWellFormed e.namespaces := by
  intro e mem
  simp only [construct, Logged.events_bind, Logged.events_report, Logged.events_pure,
    List.append_nil, List.mem_append, List.mem_singleton] at mem
  rcases mem with dropped | rfl
  · simp [namespaces_ofArguments args e dropped]
  · simpa [Event.namespaces] using ofArguments_wellFormed sound

theorem ofJsonText_wellFormed {source : String} {n : Namespace} (read : ofJsonText source = .ok n) :
    n.WellFormed := by
  -- Whatever the text says, its fields pass the checked constructor.
  unfold ofJsonText at read
  cases found : Json.readForm (Json.tokens source.toList) with
  | error e => simp [found, bind, Except.bind] at read
  | ok form =>
    simp only [found, bind, Except.bind, Json.Form.toNamespace] at read
    cases made : ofPrefixAndUri form.nsPrefix form.uri with
    | error e => simp [made] at read
    | ok made' =>
      simp only [made] at read
      split at read
      · cases read
        exact ofPrefixAndUri_wellFormed made
      · cases read

end Namespace

theorem exists_mem_of_lookup {α β : Type} [BEq α] {entries : List (α × β)} {key : α} {x : β}
    (found : entries.lookup key = some x) : ∃ k, (k, x) ∈ entries := by
  rw [List.lookup_eq_findSome?] at found
  obtain ⟨⟨k, y⟩, mem, same⟩ := List.exists_of_findSome?_eq_some found
  by_cases hit : (key == k) = true <;> simp [hit] at same
  exact ⟨k, same ▸ mem⟩

namespace Script

variable {known : Bindings}

abbrev Building.Sound {α : Type} (held : α → List Namespace) (b : Building α) : Prop :=
  b.Ensures (fun e => AllWellFormed e.namespaces) (fun x => AllWellFormed (held x))

open Building

theorem sound_construct {args : List Value} (sound : ∀ value ∈ args, AllWellFormed value.namespaces) :
    Building.Sound (fun n : Namespace => [n]) (liftM (Namespace.construct args)) := by
  apply ensures_lift
  · simpa using Namespace.construct_wellFormed sound
  · exact Namespace.sound_events_construct sound

-- Along the nesting of the operands, all kinds at once.
mutual

theorem ValueExpr.sound_build (sound : ∀ entry ∈ known, entry.2.WellFormed) (value : ValueExpr) :
    Building.Sound Value.namespaces (value.build known) := by
  match value with
  | .undefined | .null | .boolean _ | .number _ | .text _ | .object _ =>
    exact ensures_pure (by simp [Value.namespaces])
  | .ns n =>
    refine (NamespaceExpr.sound_build sound n).bind fun built good => ?_
    exact ensures_pure (by simpa [Value.namespaces] using good)
  | .name q none =>
    refine (QNameExpr.sound_build sound q).bind fun built good => ?_
    exact ensures_pure good
  | .name q (some _) =>
    refine (QNameExpr.sound_build sound q).bind fun built good => ?_
    exact ensures_pure good

theorem NamespaceExpr.sound_build (sound : ∀ entry ∈ known, entry.2.WellFormed) (n : NamespaceExpr) :
    Building.Sound (fun n => [n]) (n.build known) := by
  match n with
  | .publicNs => exact ensures_pure (by simpa using Namespace.publicNs_wellFormed)
  | .ofUri uri =>
    refine (ValueExpr.sound_build sound uri).bind fun built _ => ?_
    have made : (Namespace.fromUri built).WellFormed := Namespace.ofUri_wellFormed _
    exact ensures_pure (by simpa using made)
  | .ofPrefixAndUri candidate uri =>
    refine (ValueExpr.sound_build sound candidate).bind fun first _ => ?_
    refine (ValueExpr.sound_build sound uri).bind fun second _ => ?_
    refine ensures_of fun made read => ?_
    simpa using Namespace.ofPrefixAndUri_wellFormed read
  | .construct args =>
    refine (sound_buildValues sound args).bind fun built good => ?_
    exact sound_construct (by simpa using good)
  | .json source =>
    refine ensures_of fun made read => ?_
    simpa using Namespace.ofJsonText_wellFormed read
  | .bound name =>
    rw [NamespaceExpr.build]
    split
    · next n found =>
      -- Only a name makes use of the bindings.
      obtain ⟨entry, mem⟩ := exists_mem_of_lookup found
      exact ensures_pure (by simpa using sound _ mem)
    · exact ensures_throw _

theorem QNameExpr.sound_build (sound : ∀ entry ∈ known, entry.2.WellFormed) (q : QNameExpr) :
    Building.Sound QName.namespaces (q.build known) := by
  match q with
  | .inNamespace n localName =>
    refine (NamespaceExpr.sound_build sound n).bind fun built good => ?_
    exact ensures_pure (by simpa [QName.namespaces, QName.inNamespace] using good)
  | .anyNamespace localName => exact ensures_pure (by simp [QName.namespaces, QName.anyNamespace])

theorem sound_buildValues (sound : ∀ entry ∈ known, entry.2.WellFormed) (args : List ValueExpr) :
    Building.Sound (List.flatMap Value.namespaces) (buildValues known args) := by
  match args with
  | [] => exact ensures_pure (by simp)
  | first :: rest =>
    refine (ValueExpr.sound_build sound first).bind fun value good => ?_
    refine (sound_buildValues sound rest).bind fun values others => ?_
    exact ensures_pure (by simpa using ⟨good, by simpa using others⟩)

end

theorem sound_buildOptional (sound : ∀ entry ∈ known, entry.2.WellFormed) (n : Option NamespaceExpr) :
    Building.Sound Option.toList (buildOptional known n) := by
  cases n with
  | none => exact ensures_pure (by simp)
  | some n =>
    refine (n.sound_build sound).bind fun built good => ?_
    exact ensures_pure (by simpa using good)

theorem KeyExpr.sound_build (sound : ∀ entry ∈ known, entry.2.WellFormed) (key : KeyExpr) (kind : Key.Kind) :
    Building.Sound Key.namespaces (key.build known kind) := by
  cases kind with
  | text => cases found : key.text <;> simp only [build, found] <;>
      first | exact ensures_throw _ | exact ensures_pure (by simp [Key.namespaces])
  | number => cases found : key.number <;> simp only [build, found] <;>
      first | exact ensures_throw _ | exact ensures_pure (by simp [Key.namespaces])
  | ns =>
    cases found : key.ns with
    | none => simpa only [build, found] using ensures_throw _
    | some n =>
      simp only [build, found]
      refine (n.sound_build sound).bind fun built good => ?_
      exact ensures_pure (by simpa [Key.namespaces] using good)
  | name =>
    cases found : key.name with
    | none => simpa only [build, found] using ensures_throw _
    | some q =>
      simp only [build, found]
      refine (q.sound_build sound).bind fun built good => ?_
      exact ensures_pure good

end Script

namespace Namespace

theorem namespaces_property (n : Namespace) (name : String) : (n.property name).namespaces = [] := by
  fun_cases property n name with
  | case1 | case3 => rfl
  | case2 => cases n.nsPrefix <;> rfl

theorem namespaces_valueAt (n : Namespace) (index : Nat) : (n.valueAt index).namespaces = [] := by
  unfold valueAt
  split
  · exact namespaces_property n _
  · rfl

end Namespace

namespace Cursor

theorem namespaces_next {c : Cursor} {pair : String × Value} (found : c.next.1 = some pair) :
    pair.2.namespaces = [] := by
  simp only [next, Option.map_eq_some_iff] at found
  obtain ⟨name, -, rfl⟩ := found
  exact c.source.namespaces_property name

theorem namespaces_rest (c : Cursor) : ∀ pair ∈ c.rest.1, pair.2.namespaces = [] := by
  fun_induction rest c with
  | case1 => simp
  | case2 c pair d found ih =>
    intro shown mem
    rcases List.mem_cons.1 mem with rfl | later
    · exact namespaces_next (congrArg Prod.fst found)
    · exact ih shown later

end Cursor

namespace Move

theorem namespaces_run {family later : List Cursor} {move : Move} {answer : Answer}
    (moved : move.run family = some (answer, later)) : answer.namespaces = [] := by
  cases move with
  | next i =>
    obtain ⟨c, -, same⟩ := Option.map_eq_some_iff.1 moved
    cases same
    cases found : c.next.1 with
    | none => rfl
    | some pair => simpa [Answer.namespaces] using Cursor.namespaces_next found
  | rest i =>
    obtain ⟨c, -, same⟩ := Option.map_eq_some_iff.1 moved
    cases same
    simpa [Answer.namespaces] using fun name value => c.namespaces_rest (name, value)
  | clone i =>
    obtain ⟨c, -, same⟩ := Option.map_eq_some_iff.1 moved
    cases same
    rfl

theorem namespaces_runAll {family : List Cursor} {moves : List Move} {answers : List Answer}
    (ran : runAll family moves = some answers) : ∀ answer ∈ answers, answer.namespaces = [] := by
  induction moves generalizing family answers with
  | nil =>
    cases ran
    simp
  | cons move moves ih =>
    simp only [runAll, Option.bind_eq_bind, Option.bind_eq_some_iff] at ran
    obtain ⟨⟨first, later⟩, moved, others, rest, same⟩ := ran
    cases same
    intro answer mem
    rcases List.mem_cons.1 mem with rfl | mem
    · exact namespaces_run moved
    · exact ih rest answer mem

end Move

namespace Script

variable {known : Bindings}

open Building

theorem Query.sound_answer (sound : ∀ entry ∈ known, entry.2.WellFormed) (query : Query) :
    Building.Sound Answer.namespaces (query.answer known) := by
  cases query with
  | isValidPrefix | className => exact ensures_pure (by simp [Answer.namespaces])
  | toText value =>
    refine (value.sound_build sound).bind fun built _ => ?_
    exact ensures_pure (by simp [Answer.namespaces])
  | describe n =>
    refine (n.sound_build sound).bind fun built good => ?_
    exact ensures_pure good
  | equals a b =>
    refine (sound_buildOptional sound a).bind fun first _ => ?_
    refine (sound_buildOptional sound b).bind fun second _ => ?_
    exact ensures_pure (by simp [Answer.namespaces])
  | name q =>
    refine (q.sound_build sound).bind fun built good => ?_
    exact ensures_pure good
  | nameEquals a b =>
    refine (a.sound_build sound).bind fun first _ => ?_
    refine (b.sound_build sound).bind fun second _ => ?_
    exact ensures_pure (by simp [Answer.namespaces])
  | newNamespaces items =>
    refine (ensures_mapM fun n _ => n.sound_build sound).bind fun built _ => ?_
    exact ensures_pure (by simp [Answer.namespaces])
  | newNames items =>
    refine (ensures_mapM fun q _ => q.sound_build sound).bind fun built _ => ?_
    exact ensures_pure (by simp [Answer.namespaces])
  | index n place =>
    refine (n.sound_build sound).bind fun built _ => ?_
    exact ensures_pure (by simp [Answer.namespaces, Namespace.namespaces_valueAt])
  | property n key =>
    refine (n.sound_build sound).bind fun built _ => ?_
    exact ensures_pure (by simp [Answer.namespaces, Namespace.namespaces_property])
  | properties n moves =>
    refine (n.sound_build sound).bind fun built _ => ?_
    split
    · next answers ran =>
      refine ensures_pure ?_
      simp only [Answer.namespaces, AllWellFormed.flatMap]
      intro answer mem
      simp [Move.namespaces_runAll ran answer mem]
    · exact ensures_throw _
  | serialize n =>
    refine (n.sound_build sound).bind fun built _ => ?_
    exact ensures_pure (by simp [Answer.namespaces])

end Script

end XmlNames
