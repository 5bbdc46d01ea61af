import XmlNames.Proofs.Default.Scope
import XmlNames.Proofs.Script.Place

set_option autoImplicit false

namespace XmlNames.Script

structure Visit where
  machine : Machine
  -- The latest first.
  waiting : List Register
  shown : Trace

namespace Visit

def behind (v : Visit) (earlier : Trace) : Visit := { v with shown := earlier ++ v.shown }

def awaitedBy (v : Visit) (register : Register) : Visit := { v with waiting := v.waiting ++ [register] }

def registers (v : Visit) : List Register := v.machine.register :: v.waiting

end Visit

def Run.visit (first : Run) (rest : Machine → Option Visit) : Option Visit :=
  match first.exit with
  | .completed => (rest first.machine).map (·.behind first.trace)
  | .panicked => none

theorem Run.visit_eq_some_iff {first : Run} {rest : Machine → Option Visit} {v : Visit} :
    first.visit rest = some v ↔
      first.exit = .completed ∧ ∃ w, rest first.machine = some w ∧ w.behind first.trace = v := by
  cases ended : first.exit <;> simp [Run.visit, ended, Option.map_eq_some_iff]

def openingTrace (m : Machine) (next : Option NamespaceExpr) (n : Option Namespace) : Trace :=
  reported ((buildOptional m.bindings next).outcome.events ++ (m.register.swap n).events) ++ marked .withEnter

def Place.visit (m : Machine) : Place → Option Visit
  | here => some ⟨m, [], []⟩
  | step action rest => (run m (.step action .done)).visit fun after => rest.visit after
  | panic _ => none
  | within next body _ =>
    match (buildOptional m.bindings next).outcome.value with
    | .ok n => (body.visit (m.enter n)).map (·.behind (openingTrace m next n))
    | .error _ => none
  | afterWithin next body rest => (run m (.within next body .done)).visit fun after => rest.visit after
  | guarded body _ => (body.visit m).map (·.behind (marked .catchEnter))
  | afterGuarded body rest => (run m (.guarded body .done)).visit fun after => rest.visit after
  | thread body _ =>
    (body.visit { m with register := .fresh }).map fun v =>
      (v.behind (marked .threadStart)).awaitedBy m.register
  | afterThread body rest => (run m (.thread body .done)).visit fun after => rest.visit after

section

variable {m : Machine}

theorem run_step_andThen (action : Action) (rest : Script) :
    run m (.step action rest) = (run m (.step action .done)).andThen (run · rest) := by
  cases performs : (action.perform m).outcome.value with
  | ok found =>
    rw [run_step performs, run_step performs]
    simp [Run.andThen, Run.after, run]
  | error fault =>
    rw [run_step_fault performs, run_step_fault performs]
    simp [Run.andThen, Run.after, run]

theorem run_guarded_andThen (body rest : Script) :
    run m (.guarded body rest) = (run m (.guarded body .done)).andThen (run · rest) := by
  simp [run, Run.andThen, Run.after]

theorem run_thread_andThen (body rest : Script) :
    run m (.thread body rest) = (run m (.thread body .done)).andThen (run · rest) := by
  simp [run, Run.andThen, Run.after]

theorem andThen_completed {first : Run} (ended : first.exit = .completed) (rest : Machine → Run) :
    first.andThen rest = (rest first.machine).after first.trace := by
  simp [Run.andThen, ended]

end

-- Either the place is here, or the run passes a first part, or it goes into a block.
@[elab_as_elim]
theorem Place.visit_induction {motive : Machine → Place → Visit → Prop}
    (here : ∀ m, motive m .here ⟨m, [], []⟩)
    (passed : ∀ {m place} {first : Script} {rest v},
      (∀ part, run m (place.fill part) = (run m first).andThen (run · (rest.fill part))) →
      (run m first).exit = .completed → motive (run m first).machine rest v →
      motive m place (v.behind (run m first).trace))
    (entered : ∀ {m next n body rest v},
      (buildOptional m.bindings next).outcome.value = .ok n → motive (m.enter n) body v →
      motive m (.within next body rest) (v.behind (openingTrace m next n)))
    (guarded : ∀ {m body rest v}, motive m body v →
      motive m (.guarded body rest) (v.behind (marked .catchEnter)))
    (started : ∀ {m body rest v}, motive { m with register := .fresh } body v →
      motive m (.thread body rest) ((v.behind (marked .threadStart)).awaitedBy m.register))
    {m : Machine} {place : Place} {v : Visit} (visits : place.visit m = some v) : motive m place v := by
  induction place generalizing m v with
  | here =>
    cases visits
    exact here m
  | panic rest ih => cases visits
  | step action rest ih =>
    obtain ⟨ended, w, there, rfl⟩ := Run.visit_eq_some_iff.1 visits
    exact passed (fun part => run_step_andThen action (rest.fill part)) ended (ih there)
  | within next body rest ih =>
    cases opened : (buildOptional m.bindings next).outcome.value with
    | error fault => simp [Place.visit, opened] at visits
    | ok n =>
      simp only [Place.visit, opened, Option.map_eq_some_iff] at visits
      obtain ⟨w, there, rfl⟩ := visits
      exact entered opened (ih there)
  | afterWithin next body rest ih =>
    obtain ⟨ended, w, there, rfl⟩ := Run.visit_eq_some_iff.1 visits
    exact passed (fun part => run_within m next body (rest.fill part)) ended (ih there)
  | guarded body rest ih =>
    obtain ⟨w, there, rfl⟩ := Option.map_eq_some_iff.1 visits
    exact guarded (ih there)
  | afterGuarded body rest ih =>
    obtain ⟨ended, w, there, rfl⟩ := Run.visit_eq_some_iff.1 visits
    exact passed (fun part => run_guarded_andThen body (rest.fill part)) ended (ih there)
  | thread body rest ih =>
    obtain ⟨w, there, rfl⟩ := Option.map_eq_some_iff.1 visits
    exact started (ih there)
  | afterThread body rest ih =>
    obtain ⟨ended, w, there, rfl⟩ := Run.visit_eq_some_iff.1 visits
    exact passed (fun part => run_thread_andThen body (rest.fill part)) ended (ih there)

theorem run_visit {place : Place} {m : Machine} {v : Visit} (visits : place.visit m = some v) :
    ∃ onwards : Exit → Machine → Run,
      ∀ part, run m (place.fill part) = ((run v.machine part).onward onwards).after v.shown := by
  refine Place.visit_induction ?here ?passed ?entered ?guarded ?started visits
  case here =>
    exact fun m => ⟨fun exit machine => ⟨exit, machine, []⟩, fun part => by
      simp [Place.fill, Run.onward, Run.after]⟩
  case passed =>
    rintro m place first rest v split ended ⟨onwards, whole⟩
    exact ⟨onwards, fun part => by
      rw [split, andThen_completed ended, whole, after_after]
      rfl⟩
  case entered =>
    rintro m next n body rest v opened ⟨onwards, whole⟩
    exact ⟨fun exit machine => (onwards exit machine).leaveWithin m.register.reading rest, fun part => by
      rw [Place.fill, run_within_opened opened, whole, (ahead_leaveWithin _ rest).onward, after_after]
      rfl⟩
  case guarded =>
    rintro m body rest v ⟨onwards, whole⟩
    exact ⟨fun exit machine => (onwards exit machine).leaveGuarded rest, fun part => by
      rw [Place.fill, run_guarded, whole, (ahead_leaveGuarded rest).onward, after_after]
      rfl⟩
  case started =>
    rintro m body rest v ⟨onwards, whole⟩
    exact ⟨fun exit machine => (onwards exit machine).leaveThread m.register rest, fun part => by
      rw [Place.fill, run_thread, whole, (ahead_leaveThread _ rest).onward, after_after]
      rfl⟩

theorem machine_visit (place : Place) (m : Machine) :
    (place.visit m).map Visit.machine = place.arrive m := by
  induction place generalizing m with
  | here => rfl
  | panic rest ih => rfl
  | step action rest ih =>
    cases performs : (action.perform m).outcome.value with
    | ok found =>
      simp only [Place.visit, Place.arrive, run_step performs, performs, ← ih]
      simp [Run.visit, run, Visit.behind, Function.comp_def]
    | error fault =>
      simp only [Place.visit, Place.arrive, run_step_fault performs, performs, ← ih]
      simp [Run.visit, run, Visit.behind, Function.comp_def]
  | within next body rest ih =>
    cases opened : (buildOptional m.bindings next).outcome.value with
    | error fault => simp [Place.visit, Place.arrive, opened]
    | ok n => simp [Place.visit, Place.arrive, opened, ← ih, Visit.behind, Function.comp_def]
  | afterWithin next body rest ih =>
    cases opened : (buildOptional m.bindings next).outcome.value with
    | error fault =>
      simp only [Place.visit, Place.arrive, run_within_fault opened, opened, ← ih]
      simp [Run.visit, run, Visit.behind, Function.comp_def]
    | ok n =>
      cases ended : (run (m.enter n) body).exit with
      | completed =>
        simp only [Place.visit, Place.arrive, run_within_completed opened ended, opened, ended, ← ih]
        simp [Run.visit, run, Visit.behind, Function.comp_def]
      | panicked =>
        simp only [Place.visit, Place.arrive, run_within_panicked opened ended, opened, ended]
        rfl
  | guarded body rest ih => simp [Place.visit, Place.arrive, ← ih, Visit.behind, Function.comp_def]
  | afterGuarded body rest ih => simp [Place.visit, Place.arrive, ← ih, Run.visit, run, Visit.behind, Function.comp_def]
  | thread body rest ih =>
    simp [Place.visit, Place.arrive, ← ih, Visit.behind, Visit.awaitedBy, Function.comp_def]
  | afterThread body rest ih =>
    simp [Place.visit, Place.arrive, ← ih, Run.visit, run, Visit.behind, Function.comp_def]

end XmlNames.Script
