import XmlNames.Script.Run

set_option autoImplicit false

namespace XmlNames.Script

def Machine.enter (m : Machine) (next : Option Namespace) : Machine :=
  { m with register := (m.register.swap next).value.2 }

def Machine.restore (m : Machine) (previous : Namespace) : Machine :=
  { m with register := (m.register.set (some previous)).value }

@[simp] theorem Machine.reading_enter (m : Machine) (next : Option Namespace) :
    (m.enter next).register.reading = next.getD .publicNs := rfl

@[simp] theorem Machine.reading_restore (m : Machine) (previous : Namespace) :
    (m.restore previous).register.reading = previous := rfl

@[simp] theorem exit_after (r : Run) (earlier : Trace) : (r.after earlier).exit = r.exit := rfl

@[simp] theorem machine_after (r : Run) (earlier : Trace) : (r.after earlier).machine = r.machine := rfl

@[simp] theorem trace_after (r : Run) (earlier : Trace) : (r.after earlier).trace = earlier ++ r.trace := rfl

theorem after_after (r : Run) (late early : Trace) : (r.after late).after early = r.after (early ++ late) := by
  simp [Run.after]

section Equations

variable {m : Machine} {rest body : Script} {fault : Fault}

theorem run_step {action : Action} {answer : Answer} {next : Machine}
    (performed : (action.perform m).outcome.value = .ok (answer, next)) :
    run m (.step action rest) = (run next rest).after
      (reported (action.perform m).outcome.events ++ [.entry (.answer answer)]) := by
  simp only [run, performed]

theorem run_step_fault {action : Action}
    (failed : (action.perform m).outcome.value = .error fault) :
    run m (.step action rest) = (run m rest).after
      (reported (action.perform m).outcome.events ++ [.entry (.fault fault)]) := by
  simp only [run, failed]

theorem run_within_fault {next : Option NamespaceExpr}
    (failed : (buildOptional m.bindings next).outcome.value = .error fault) :
    run m (.within next body rest) = (run m rest).after
      (reported (buildOptional m.bindings next).outcome.events ++ [.entry (.fault fault)]) := by
  simp only [run, failed]

def withinTrace (m : Machine) (next : Option NamespaceExpr) (n : Option Namespace) (body : Script) : Trace :=
  let inner := run (m.enter n) body
  reported ((buildOptional m.bindings next).outcome.events ++ (m.register.swap n).events) ++
    marked .withEnter ++ inner.trace ++
    reported (inner.machine.register.set (some m.register.reading)).events

theorem run_within_completed {next : Option NamespaceExpr} {n : Option Namespace}
    (opened : (buildOptional m.bindings next).outcome.value = .ok n)
    (ended : (run (m.enter n) body).exit = .completed) :
    run m (.within next body rest) =
      (run ((run (m.enter n) body).machine.restore m.register.reading) rest).after
        (withinTrace m next n body ++ marked .withExit) := by
  have inner : (run { m with register := (m.register.swap n).value.2 } body).exit = .completed := ended
  simp only [run, opened, inner]
  rfl

theorem run_within_panicked {next : Option NamespaceExpr} {n : Option Namespace}
    (opened : (buildOptional m.bindings next).outcome.value = .ok n)
    (ended : (run (m.enter n) body).exit = .panicked) :
    run m (.within next body rest) =
      ⟨.panicked, (run (m.enter n) body).machine.restore m.register.reading, withinTrace m next n body⟩ := by
  have inner : (run { m with register := (m.register.swap n).value.2 } body).exit = .panicked := ended
  simp only [run, opened, inner]
  rfl

end Equations

-- Induction along a run: each part of a script in the state in which the run comes to it.
@[elab_as_elim]
theorem run_induction {motive : Machine → Script → Prop}
    (done : ∀ m, motive m .done)
    (answered : ∀ {m action rest answer next},
      (action.perform m).outcome.value = .ok (answer, next) →
      motive next rest → motive m (.step action rest))
    (failed : ∀ {m action rest fault},
      (action.perform m).outcome.value = .error fault →
      motive m rest → motive m (.step action rest))
    (panic : ∀ m rest, motive m (.panic rest))
    (unopened : ∀ {m next body rest fault},
      (buildOptional m.bindings next).outcome.value = .error fault →
      motive m rest → motive m (.within next body rest))
    (left : ∀ {m next n body rest},
      (buildOptional m.bindings next).outcome.value = .ok n →
      (run (m.enter n) body).exit = .completed → motive (m.enter n) body →
      motive ((run (m.enter n) body).machine.restore m.register.reading) rest →
      motive m (.within next body rest))
    (unwound : ∀ {m next n body rest},
      (buildOptional m.bindings next).outcome.value = .ok n →
      (run (m.enter n) body).exit = .panicked → motive (m.enter n) body →
      motive m (.within next body rest))
    (guarded : ∀ {m body rest}, motive m body → motive (run m body).machine rest →
      motive m (.guarded body rest))
    (thread : ∀ {m body rest}, motive { m with register := .fresh } body →
      motive { (run { m with register := .fresh } body).machine with register := m.register } rest →
      motive m (.thread body rest))
    (m : Machine) (script : Script) : motive m script := by
  induction script generalizing m with
  | done => exact done m
  | step action rest ih =>
    cases performed : (action.perform m).outcome.value with
    | ok found => exact answered performed (ih found.2)
    | error fault => exact failed performed (ih m)
  | panic rest => exact panic m rest
  | within next body rest inner outer =>
    cases opened : (buildOptional m.bindings next).outcome.value with
    | error fault => exact unopened opened (outer m)
    | ok n =>
      cases ended : (run (m.enter n) body).exit with
      | completed => exact left opened ended (inner _) (outer _)
      | panicked => exact unwound opened ended (inner _)
  | guarded body rest inner outer => exact guarded (inner m) (outer _)
  | thread body rest inner outer => exact thread (inner _) (outer _)

inductive Reaches (start : Machine) (whole : Script) : Machine → Script → Prop
  | whole : Reaches start whole start whole
  | answered {m next : Machine} {action : Action} {rest : Script} {answer : Answer} :
    Reaches start whole m (.step action rest) →
    (action.perform m).outcome.value = .ok (answer, next) → Reaches start whole next rest
  | failed {m : Machine} {action : Action} {rest : Script} {fault : Fault} :
    Reaches start whole m (.step action rest) →
    (action.perform m).outcome.value = .error fault → Reaches start whole m rest
  | unopened {m : Machine} {next : Option NamespaceExpr} {body rest : Script} {fault : Fault} :
    Reaches start whole m (.within next body rest) →
    (buildOptional m.bindings next).outcome.value = .error fault → Reaches start whole m rest
  | entered {m : Machine} {next : Option NamespaceExpr} {n : Option Namespace} {body rest : Script} :
    Reaches start whole m (.within next body rest) →
    (buildOptional m.bindings next).outcome.value = .ok n → Reaches start whole (m.enter n) body
  | left {m : Machine} {next : Option NamespaceExpr} {n : Option Namespace} {body rest : Script} :
    Reaches start whole m (.within next body rest) →
    (buildOptional m.bindings next).outcome.value = .ok n →
    (run (m.enter n) body).exit = .completed →
    Reaches start whole ((run (m.enter n) body).machine.restore m.register.reading) rest
  | guarded {m : Machine} {body rest : Script} :
    Reaches start whole m (.guarded body rest) → Reaches start whole m body
  | caught {m : Machine} {body rest : Script} :
    Reaches start whole m (.guarded body rest) → Reaches start whole (run m body).machine rest
  | started {m : Machine} {body rest : Script} :
    Reaches start whole m (.thread body rest) → Reaches start whole { m with register := .fresh } body
  | joined {m : Machine} {body rest : Script} :
    Reaches start whole m (.thread body rest) →
    Reaches start whole
      { (run { m with register := .fresh } body).machine with register := m.register } rest

end XmlNames.Script
