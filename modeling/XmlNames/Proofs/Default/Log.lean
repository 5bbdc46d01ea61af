import XmlNames.Proofs.Script.Failure
import XmlNames.Proofs.Script.Visit

set_option autoImplicit false

namespace XmlNames

def Event.newDefault : Event → Option String
  | .defaultSet uri => some uri
  | _ => none

theorem Event.newDefault_eq_some_iff {e : Event} {uri : String} :
    e.newDefault = some uri ↔ e.message = "setting default namespace" ∧ ("uri", .text uri) ∈ e.fields := by
  cases e <;> simp [newDefault, message, fields, eq_comm]

theorem Event.newDefault_of_setsDefault {e : Event} (quiet : e.setsDefault = false) : e.newDefault = none := by
  cases e <;> simp_all [newDefault, setsDefault]

namespace Script

-- The running thread first.
abbrev Logs := List (List String)

def newDefaults (events : List Event) : List String := events.filterMap Event.newDefault

@[simp] theorem newDefaults_append (early late : List Event) :
    newDefaults (early ++ late) = newDefaults early ++ newDefaults late :=
  List.filterMap_append

@[simp] theorem newDefaults_defaultSet (uri : String) : newDefaults [.defaultSet uri] = [uri] := rfl

@[simp] theorem newDefaults_swap (register : Register) (n : Option Namespace) :
    newDefaults (register.swap n).events = [(n.getD .publicNs).uri] := rfl

@[simp] def Logs.follow (logs : Logs) : Item → Logs
  | .event e => logs.modifyHead (· ++ newDefaults [e])
  | .entry (.mark .threadStart) => [] :: logs
  | .entry (.mark (.threadEnd _)) => logs.tail
  | .entry _ => logs

def Trace.logs (trace : Trace) (start : Logs) : Logs := trace.foldl Logs.follow start

@[simp] theorem logs_nil (start : Logs) : Trace.logs [] start = start := rfl

@[simp] theorem logs_cons (item : Item) (trace : Trace) (start : Logs) :
    Trace.logs (item :: trace) start = trace.logs (start.follow item) := rfl

@[simp] theorem logs_append (first second : Trace) (start : Logs) :
    Trace.logs (first ++ second) start = second.logs (first.logs start) :=
  List.foldl_append

@[simp] theorem logs_marked (mark : Mark) (start : Logs) :
    (marked mark).logs start = start.follow (.entry (.mark mark)) := rfl

@[simp] theorem logs_reported (events : List Event) (own : List String) (others : Logs) :
    (reported events).logs (own :: others) = (own ++ newDefaults events) :: others := by
  induction events generalizing own with
  | nil => simp [reported, newDefaults]
  | cons e events ih =>
    have split : newDefaults (e :: events) = newDefaults [e] ++ newDefaults events :=
      newDefaults_append [e] events
    change (reported events).logs ((own ++ newDefaults [e]) :: others) = _
    rw [ih, split, List.append_assoc]

namespace Building

variable {α : Type}

abbrev Unset (b : Building α) : Prop := b.Ensures (fun e => e.newDefault = none) fun _ => True

theorem Quiet.unset {b : Building α} (quiet : b.Quiet) : b.Unset :=
  ⟨quiet.result, fun e mem => Event.newDefault_of_setsDefault (quiet.events e mem)⟩

theorem newDefaults_of_unset {b : Building α} (unset : b.Unset) : newDefaults b.outcome.events = [] :=
  List.filterMap_eq_nil_iff.2 unset.events

end Building

open Building

section

variable {m : Machine} (known : Bindings)

-- Keyed stores have an event of their own.
theorem StoreAction.unset_perform (name : String) (action : StoreAction) : (action.perform m name).Unset := by
  have store := (m.quiet_store name).unset
  cases action with
  | new kind => exact ensures_pure trivial
  | clone copy | size => exact store.bind fun _ _ => ensures_pure trivial
  | get key | remove key =>
    refine store.bind fun s _ => ?_
    exact (key.quiet_build _ s.kind).unset.bind fun _ _ => ensures_pure trivial
  | set key next | swap key next =>
    refine store.bind fun s _ => ?_
    refine (quiet_buildOptional _ next).unset.bind fun _ _ => ?_
    refine (key.quiet_build _ s.kind).unset.bind fun _ _ => ?_
    refine (ensures_lift (P := fun _ => True) trivial ?_).bind fun _ _ => ensures_pure trivial
    simp [Store.set, Store.swap, Event.newDefault]

theorem Source.unset_give (source : Source) (fixed : ∀ next, source ≠ .swapDefault next) :
    (source.give m).Unset := by
  cases source with
  | operand n => exact (n.quiet_build _).unset.bind fun _ _ => ensures_pure trivial
  | new args | call args =>
    refine (quiet_buildValues _ args).unset.bind fun values _ => ?_
    have constructed := (quiet_construct values).unset.events
    refine (ensures_lift (P := fun _ => True) trivial ?_).bind fun made _ => ?_
    · simpa [namespaceClass] using constructed
    · exact (ensures_of fun _ _ => trivial).bind fun _ _ => ensures_pure trivial
  | newWithPrefix candidate uri =>
    rw [give_newWithPrefix, map_eq_pure_bind]
    exact ((NamespaceExpr.ofPrefixAndUri candidate uri).quiet_build _).unset.bind fun _ _ => ensures_pure trivial
  | currentDefault => exact ensures_pure trivial
  | swapDefault next => exact absurd rfl (fixed next)

@[simp] theorem newDefaults_operand (next : Option NamespaceExpr) :
    newDefaults (buildOptional known next).outcome.events = [] :=
  newDefaults_of_unset (quiet_buildOptional known next).unset

theorem newDefaults_set (next : Option NamespaceExpr) {α : Type} (f : Option Namespace → Building α)
    (sets : ∀ n, newDefaults (f n).outcome.events = [(n.getD .publicNs).uri]) :
    newDefaults (buildOptional m.bindings next >>= f).outcome.events =
      ((Action.setDefault next).written m).toList.map Namespace.uri := by
  cases opened : (buildOptional m.bindings next).outcome.value with
  | error fault => simp [outcome_bind_of_fault opened, Action.written, opened]
  | ok n => simp [outcome_bind_of_ok opened, Action.written, opened, sets]

theorem Action.newDefaults_perform (action : Action) :
    newDefaults (action.perform m).outcome.events = (action.written m).toList.map Namespace.uri := by
  cases action with
  | ask query =>
    exact newDefaults_of_unset ((query.quiet_answer m.bindings).unset.bind fun _ _ => ensures_pure trivial)
  | keyed store action => exact newDefaults_of_unset (action.unset_perform store)
  | setDefault next => exact newDefaults_set next _ fun n => rfl
  | give source bindTo =>
    by_cases swaps : ∃ next, source = .swapDefault next
    · obtain ⟨next, rfl⟩ := swaps
      rw [perform, Source.give, bind_assoc]
      exact newDefaults_set next _ fun n => rfl
    · have fixed : ∀ next, source ≠ .swapDefault next := fun next same => swaps ⟨next, same⟩
      have unwritten : (give source bindTo).written m = none := by
        cases source with
        | swapDefault next => exact absurd rfl (fixed next)
        | _ => rfl
      rw [unwritten]
      exact newDefaults_of_unset ((source.unset_give fixed).bind fun _ _ => ensures_pure trivial)

end

section

variable {m : Machine}

theorem logs_run (script : Script) (own : List String) (others : Logs) :
    (run m script).trace.logs (own :: others) = (own ++ (writes m script).map Namespace.uri) :: others := by
  induction m, script using run_induction generalizing own others with
  | done m => simp [run, writes]
  | panic m rest => simp [run, writes]
  | @answered m action rest answer next performs ih =>
    rw [run_step performs]
    simp [writes, performs, action.newDefaults_perform, ih]
  | @failed m action rest fault fails ih =>
    rw [run_step_fault fails]
    simp [writes, fails, action.newDefaults_perform, ih]
  | @unopened m next body rest fault fails ih =>
    rw [run_within_fault fails]
    simp [writes, fails, ih]
  | @left m next n body rest opened ended inner outer =>
    rw [run_within_completed opened ended]
    simp [writes, opened, ended, withinTrace, inner, outer]
  | @unwound m next n body rest opened ended inner =>
    rw [run_within_panicked opened ended]
    simp [writes, opened, ended, withinTrace, inner]
  | @guarded m body rest inner outer => simp [run, writes, inner, outer]
  | @thread m body rest inner outer => simp [run, writes, inner, outer]

def lastUri (uris : List String) : String := uris.getLastD ""

theorem lastUri_run {own : List String} (told : lastUri own = m.register.reading.uri) (script : Script) :
    lastUri (own ++ (writes m script).map Namespace.uri) = (run m script).machine.register.reading.uri := by
  unfold lastUri at told ⊢
  rw [getLastD_append, told, reading_run, List.getLastD_map]

theorem logs_visit {place : Place} {v : Visit} (visits : place.visit m = some v) :
    ∀ (own : List String) (others : Logs), lastUri own = m.register.reading.uri →
      ∃ live, v.shown.logs (own :: others) = live ++ others ∧
        live.map lastUri = v.registers.map fun register => register.reading.uri := by
  refine Place.visit_induction ?here ?passed ?entered ?guarded ?started visits
  case here =>
    intro m own others told
    exact ⟨[own], rfl, by simp [Visit.registers, told]⟩
  case passed =>
    intro m place first rest v split ended ih own others told
    obtain ⟨live, same, tells⟩ := ih _ others (lastUri_run told first)
    exact ⟨live, by simpa [Visit.behind, logs_run] using same, tells⟩
  case entered =>
    intro m next n body rest v opened ih own others told
    have told : lastUri (own ++ [(n.getD .publicNs).uri]) = (m.enter n).register.reading.uri := by
      simp [lastUri]
    obtain ⟨live, same, tells⟩ := ih _ others told
    exact ⟨live, by simpa [Visit.behind, openingTrace] using same, tells⟩
  case guarded =>
    intro m body rest v ih own others told
    obtain ⟨live, same, tells⟩ := ih own others told
    exact ⟨live, by simpa [Visit.behind] using same, tells⟩
  case started =>
    intro m body rest v ih own others told
    -- The thread that waits keeps its own log behind that of the new thread.
    obtain ⟨live, same, tells⟩ := ih [] (own :: others) rfl
    refine ⟨live ++ [own], by simpa [Visit.behind, Visit.awaitedBy] using same, ?_⟩
    simp only [Visit.registers, List.map_cons] at tells
    simp [Visit.registers, Visit.behind, Visit.awaitedBy, tells, told]

theorem trace_within_opened {next : Option NamespaceExpr} {n : Option Namespace}
    (opened : (buildOptional m.bindings next).outcome.value = .ok n) (body rest : Script) :
    ∃ operands : List Event, newDefaults operands = [] ∧
      (run m (.within next body rest)).trace =
        reported (operands ++ [.defaultSet (n.getD .publicNs).uri]) ++ marked .withEnter ++
          (run (m.enter n) body).trace ++ .event (.defaultSet m.register.reading.uri) ::
            match (run (m.enter n) body).exit with
            | .completed => marked .withExit ++
              (run ((run (m.enter n) body).machine.restore m.register.reading) rest).trace
            | .panicked => [] := by
  refine ⟨_, newDefaults_operand m.bindings next, ?_⟩
  cases ended : (run (m.enter n) body).exit with
  | completed =>
    rw [run_within_completed opened ended]
    simp [withinTrace, Register.swap, reported]
  | panicked =>
    rw [run_within_panicked opened ended]
    simp [withinTrace, Register.swap, reported]

end

def Visit.Told (v : Visit) : Prop :=
  (v.shown.logs [[]]).map lastUri = v.registers.map fun register => register.reading.uri

theorem log_tells_registers :
    (∀ (e : Event) (uri : String), e.newDefault = some uri ↔
      e.message = "setting default namespace" ∧ ("uri", .text uri) ∈ e.fields) ∧
    (∀ (place : Place) (m : Machine), place.arrive .start = some m →
      ∃ v, place.visit .start = some v ∧ v.machine = m ∧ v.Told ∧ ∃ onwards, ∀ part,
        run .start (place.fill part) = ((run m part).onward onwards).after v.shown) ∧
    (∀ (m : Machine) (script : Script) (own : List String) (others : Logs),
      lastUri own = m.register.reading.uri →
      ∃ uris : List String, uris = (writes m script).map Namespace.uri ∧
        (run m script).trace.logs (own :: others) = (own ++ uris) :: others ∧
        lastUri (own ++ uris) = (run m script).machine.register.reading.uri) ∧
    (∀ (m : Machine) (action : Action),
      newDefaults (action.perform m).outcome.events = (action.written m).toList.map Namespace.uri) ∧
    ∀ (m : Machine) (next : Option NamespaceExpr) (n : Option Namespace) (body rest : Script),
      (buildOptional m.bindings next).outcome.value = .ok n →
      ∃ operands : List Event, newDefaults operands = [] ∧
        (run m (.within next body rest)).trace =
          reported (operands ++ [.defaultSet (n.getD .publicNs).uri]) ++ marked .withEnter ++
            (run (m.enter n) body).trace ++ .event (.defaultSet m.register.reading.uri) ::
              match (run (m.enter n) body).exit with
              | .completed => marked .withExit ++
                (run ((run (m.enter n) body).machine.restore m.register.reading) rest).trace
              | .panicked => [] := by
  refine ⟨fun _ _ => Event.newDefault_eq_some_iff, ?_, fun m script own others told =>
    ⟨_, rfl, logs_run script own others, lastUri_run told script⟩, fun m action => action.newDefaults_perform,
    fun m next n body rest opened => trace_within_opened opened body rest⟩
  intro place m arrives
  obtain ⟨v, visits, same⟩ := Option.map_eq_some_iff.1 ((machine_visit place .start).trans arrives)
  obtain ⟨live, told, tells⟩ := logs_visit visits [] [] rfl
  obtain ⟨onwards, whole⟩ := run_visit visits
  refine ⟨v, visits, same, ?_, onwards, same ▸ whole⟩
  rw [Visit.Told, told, List.append_nil, tells]

theorem log_tells_registers_behind_a_panic :
    let override (uri : String) : Option NamespaceExpr := some (.ofUri (.text uri))
    let block : Script := .within (override "i") (.panic .done) .done
    let place : Place := .within (override "o") (.thread (.afterGuarded block .here) .done) .done
    let m : Machine := ⟨⟨some .publicNs⟩, [], []⟩
    (place.arrive .start = some m ∧ lastUri [] = Machine.start.register.reading.uri ∧
      (buildOptional Machine.start.bindings (override "i")).outcome.value = .ok (some ⟨"i", none⟩)) ∧
    (∃ v, place.visit .start = some v ∧ v.shown.logs [[]] = [["i", ""], ["o"]] ∧
      v.registers.map (fun register => register.reading.uri) = ["", "o"]) ∧
    (run .start block).trace.logs [[]] = [["i", ""]] ∧ (run .start block).machine.register.reading.uri = "" ∧
    ∃ operands : List Event, newDefaults operands = [] ∧ (run .start block).trace =
      reported (operands ++ [.defaultSet "i"]) ++ marked .withEnter ++ marked .panic ++
        [.event (.defaultSet "")] := by
  intro override block place m
  have arrives : place.arrive .start = some m := rfl
  have empty : lastUri [] = Machine.start.register.reading.uri := rfl
  have opened : (buildOptional Machine.start.bindings (override "i")).outcome.value = .ok (some ⟨"i", none⟩) := rfl
  obtain ⟨-, places, runs, -, blocks⟩ := log_tells_registers
  obtain ⟨v, visits, -, told, -⟩ := places place m arrives
  obtain ⟨_, rfl, logs, last⟩ := runs .start block [] [] empty
  have shown : (place.visit .start).map (fun v => v.shown.logs [[]]) = some [["i", ""], ["o"]] := rfl
  rw [visits, Option.map_some, Option.some.injEq] at shown
  refine ⟨⟨arrives, empty, opened⟩, ⟨v, visits, shown, ?_⟩, logs, last.symm,
    blocks .start (override "i") _ (.panic .done) .done opened⟩
  rw [← told, shown]
  rfl

end Script

end XmlNames
