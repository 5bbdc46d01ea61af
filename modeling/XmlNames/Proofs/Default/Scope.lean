import XmlNames.Proofs.Script.Building
import XmlNames.Proofs.Script.Control

set_option autoImplicit false

namespace XmlNames.Script

def Action.written (m : Machine) : Action → Option Namespace
  | .setDefault next | .give (.swapDefault next) _ =>
    match (buildOptional m.bindings next).outcome.value with
    | .ok n => some (n.getD .publicNs)
    | .error _ => none
  | _ => none

section

variable {m : Machine}

open Building

theorem StoreAction.register_perform (name : String) (action : StoreAction) :
    (action.perform m name).Ensures (fun _ => True) fun found => found.2.register = m.register := by
  cases action with
  | new kind => exact ensures_pure rfl
  | clone copy => exact (ensures_self _).bind fun _ _ => ensures_pure rfl
  | size => exact (ensures_self _).bind fun _ _ => ensures_pure rfl
  | get key | remove key =>
    refine (ensures_self _).bind fun _ _ => ?_
    exact (ensures_self _).bind fun _ _ => ensures_pure rfl
  | set key next | swap key next =>
    refine (ensures_self _).bind fun _ _ => ?_
    refine (ensures_self _).bind fun _ _ => ?_
    refine (ensures_self _).bind fun _ _ => ?_
    exact (ensures_self _).bind fun _ _ => ensures_pure rfl

theorem Action.reading_perform (action : Action) :
    (action.perform m).Ensures (fun _ => True) fun found =>
      found.2.register.reading = (action.written m).getD m.register.reading := by
  cases action with
  | ask query => exact (ensures_self _).bind fun _ _ => ensures_pure rfl
  | keyed store action => exact (action.register_perform store).mono fun _ => congrArg Register.reading
  | setDefault next =>
    refine (ensures_self _).bind fun n opened => ?_
    refine (ensures_lift (P := fun register => register.reading = n.getD .publicNs) rfl
      fun _ _ => trivial).bind fun register wrote => ?_
    exact ensures_pure (by simp [written, opened, wrote])
  | give source bindTo =>
    refine Ensures.bind (P := fun given =>
      given.2.register.reading = ((give source bindTo).written m).getD m.register.reading) ?_ ?_
    · cases source with
      | operand n => exact (ensures_self _).bind fun _ _ => ensures_pure rfl
      | new args | call args | newWithPrefix candidate uri =>
        refine (ensures_self _).bind fun _ _ => ?_
        refine (ensures_self _).bind fun _ _ => ?_
        exact (ensures_self _).bind fun _ _ => ensures_pure rfl
      | currentDefault => exact ensures_pure rfl
      | swapDefault next =>
        refine (ensures_self _).bind fun n opened => ?_
        refine (ensures_lift (P := fun swapped => swapped.2.reading = n.getD .publicNs) rfl
          fun _ _ => trivial).bind fun swapped wrote => ?_
        exact ensures_pure (by simp [written, opened, wrote])
    · rintro ⟨n, next⟩ kept
      cases bindTo <;> exact ensures_pure kept

theorem Action.written_of_fault {action : Action} {fault : Fault}
    (fails : (action.perform m).outcome.value = .error fault) : action.written m = none := by
  cases action with
  | setDefault next =>
    cases opened : (buildOptional m.bindings next).outcome.value with
    | error _ => simp [written, opened]
    | ok n =>
      simp only [perform, outcome_bind, Logged.value_bind, opened] at fails
      cases fails
  | give source bindTo =>
    cases source with
    | swapDefault next =>
      cases opened : (buildOptional m.bindings next).outcome.value with
      | error _ => simp [written, opened]
      | ok n =>
        simp only [perform, Source.give, outcome_bind, Logged.value_bind, opened] at fails
        cases fails
    | _ => rfl
  | _ => rfl

end

-- What a thread that the run starts writes to its own register is not among them.
def writes (m : Machine) : Script → List Namespace
  | .done => []
  | .step action rest =>
    (action.written m).toList ++
      match (action.perform m).outcome.value with
      | .ok (_, next) => writes next rest
      | .error _ => writes m rest
  | .panic _ => []
  | .within next body rest =>
    match (buildOptional m.bindings next).outcome.value with
    | .error _ => writes m rest
    | .ok n =>
      let inner := run (m.enter n) body
      n.getD .publicNs :: writes (m.enter n) body ++ m.register.reading ::
        match inner.exit with
        | .completed => writes (inner.machine.restore m.register.reading) rest
        | .panicked => []
  | .guarded body rest => writes m body ++ writes (run m body).machine rest
  | .thread body rest =>
    writes { (run { m with register := .fresh } body).machine with register := m.register } rest

-- Outermost first. A guarded body and a thread keep their own panics to themselves.
def crossed (m : Machine) : Script → List Machine
  | .done => []
  | .step action rest =>
    match (action.perform m).outcome.value with
    | .ok (_, next) => crossed next rest
    | .error _ => crossed m rest
  | .panic _ => []
  | .within next body rest =>
    match (buildOptional m.bindings next).outcome.value with
    | .error _ => crossed m rest
    | .ok n =>
      let inner := run (m.enter n) body
      match inner.exit with
      | .completed => crossed (inner.machine.restore m.register.reading) rest
      | .panicked => m :: crossed (m.enter n) body
  | .guarded body rest => crossed (run m body).machine rest
  | .thread body rest =>
    crossed { (run { m with register := .fresh } body).machine with register := m.register } rest

theorem getLastD_append {α : Type} (early late : List α) (initial : α) :
    (early ++ late).getLastD initial = late.getLastD (early.getLastD initial) := by
  induction early generalizing initial with
  | nil => rfl
  | cons x early ih => simp only [List.cons_append, List.getLastD_cons, ih]

theorem reading_run (m : Machine) (script : Script) :
    (run m script).machine.register.reading = (writes m script).getLastD m.register.reading := by
  induction m, script using run_induction with
  | done m | panic m rest => rfl
  | @answered m action rest answer next performs ih =>
    have kept := action.reading_perform.result _ performs
    rw [run_step performs]
    simp only [machine_after, writes, performs, ih, kept, getLastD_append]
    cases action.written m <;> rfl
  | @failed m action rest fault fails ih =>
    rw [run_step_fault fails]
    simp only [machine_after, writes, fails, ih, Action.written_of_fault fails, Option.toList,
      List.nil_append]
  | @unopened m next body rest fault fails ih =>
    rw [run_within_fault fails]
    simp only [machine_after, writes, fails, ih]
  | @left m next n body rest opened ended inner outer =>
    -- The restoring write hides whatever the body wrote.
    rw [run_within_completed opened ended]
    simp only [machine_after, writes, opened, ended, outer, getLastD_append, List.getLastD_cons,
      Machine.reading_restore]
  | @unwound m next n body rest opened ended inner =>
    rw [run_within_panicked opened ended]
    simp only [writes, opened, ended, getLastD_append, List.getLastD_cons, List.getLastD_nil,
      Machine.reading_restore]
  | @guarded m body rest inner outer =>
    simp only [run, machine_after, writes, getLastD_append, inner, outer]
  | @thread m body rest inner outer => simp only [run, machine_after, writes, outer]

theorem reading_unwound {m : Machine} {script : Script} {outer : Machine} {others : List Machine}
    (path : crossed m script = outer :: others) :
    (run m script).machine.register.reading = outer.register.reading := by
  induction m, script using run_induction with
  | done m => simp [crossed] at path
  | panic m rest => simp [crossed] at path
  | @answered m action rest answer next performs ih =>
    rw [run_step performs]
    simp only [crossed, performs] at path
    exact ih path
  | @failed m action rest fault fails ih =>
    rw [run_step_fault fails]
    simp only [crossed, fails] at path
    exact ih path
  | @unopened m next body rest fault fails ih =>
    rw [run_within_fault fails]
    simp only [crossed, fails] at path
    exact ih path
  | @left m next n body rest opened ended _ ih =>
    rw [run_within_completed opened ended]
    simp only [crossed, opened, ended] at path
    exact ih path
  | @unwound m next n body rest opened ended _ =>
    rw [run_within_panicked opened ended]
    -- This block is the outermost one, and its restoring write is the last of all.
    simp only [crossed, opened, ended, List.cons.injEq] at path
    simp [path.1]
  | @guarded m body rest _ ih => exact ih path
  | @thread m body rest _ ih => exact ih path

def Run.andThen (first : Run) (rest : Machine → Run) : Run :=
  match first.exit with
  | .completed => (rest first.machine).after first.trace
  | .panicked => first

theorem run_within (m : Machine) (next : Option NamespaceExpr) (body rest : Script) :
    run m (.within next body rest) = (run m (.within next body .done)).andThen (run · rest) := by
  cases opened : (buildOptional m.bindings next).outcome.value with
  | error fault =>
    rw [run_within_fault opened, run_within_fault opened]
    simp [Run.andThen, Run.after, run]
  | ok n =>
    cases ended : (run (m.enter n) body).exit with
    | completed =>
      rw [run_within_completed opened ended, run_within_completed opened ended]
      simp [Run.andThen, Run.after, run]
    | panicked =>
      rw [run_within_panicked opened ended, run_within_panicked opened ended]
      rfl

theorem reading_within (m : Machine) (next : Option NamespaceExpr) (body : Script) :
    (run m (.within next body .done)).machine.register.reading = m.register.reading := by
  cases opened : (buildOptional m.bindings next).outcome.value with
  | error fault =>
    rw [run_within_fault opened]
    rfl
  | ok n =>
    cases ended : (run (m.enter n) body).exit with
    | completed =>
      rw [run_within_completed opened ended]
      rfl
    | panicked =>
      rw [run_within_panicked opened ended]
      rfl

theorem reading_after_block_and_catch (m : Machine) (next : Option NamespaceExpr) (body rest : Script) :
    (run m (.within next body .done)).machine.register.reading = m.register.reading ∧
    run m (.within next body rest) = (run m (.within next body .done)).andThen (run · rest) ∧
    (run m body).machine.register.reading = (match crossed m body with
      | outer :: _ => outer.register.reading
      | [] => (writes m body).getLastD m.register.reading) ∧
    run m (.guarded body rest) = (run (run m body).machine rest).after
      (marked .catchEnter ++ (run m body).trace ++ marked (.catchLeave (run m body).exit)) := by
  refine ⟨reading_within m next body, run_within m next body rest, ?_, rfl⟩
  cases path : crossed m body with
  | nil => exact reading_run m body
  | cons outer others => exact reading_unwound path

end XmlNames.Script
