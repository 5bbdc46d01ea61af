import XmlNames.Script.Action

set_option autoImplicit false

namespace XmlNames

inductive Script where
  | done
  | step (action : Script.Action) (rest : Script)
  -- The rest is not reached.
  | panic (rest : Script)
  | within (next : Option Script.NamespaceExpr) (body rest : Script)
  | guarded (body rest : Script)
  | thread (body rest : Script)

namespace Script

inductive Exit where
  | completed
  | panicked
  deriving DecidableEq, Repr

inductive Mark where
  | withEnter
  | withExit
  | panic
  | catchEnter
  | catchLeave (exit : Exit)
  | threadStart
  | threadEnd (exit : Exit)
  | uncaught
  deriving DecidableEq, Repr

inductive Entry where
  | answer (a : Answer)
  | fault (f : Fault)
  | mark (m : Mark)
  deriving DecidableEq, Repr

inductive Item where
  | event (e : Event)
  | entry (x : Entry)
  deriving DecidableEq, Repr

abbrev Trace := List Item

def reported (events : List Event) : Trace := events.map .event

def marked (m : Mark) : Trace := [.entry (.mark m)]

structure Run where
  exit : Exit
  machine : Machine
  trace : Trace
  deriving Repr

def Run.after (earlier : Trace) (r : Run) : Run := { r with trace := earlier ++ r.trace }

def run (m : Machine) : Script → Run
  | .done => ⟨.completed, m, []⟩
  | .step action rest =>
    let outcome := (action.perform m).outcome
    match outcome.value with
    | .ok (answer, next) =>
      (run next rest).after (reported outcome.events ++ [.entry (.answer answer)])
    | .error fault => (run m rest).after (reported outcome.events ++ [.entry (.fault fault)])
  | .panic _ => ⟨.panicked, m, marked .panic⟩
  | .within next body rest =>
    let operand := (buildOptional m.bindings next).outcome
    match operand.value with
    | .error fault => (run m rest).after (reported operand.events ++ [.entry (.fault fault)])
    | .ok next =>
      let entered := m.register.swap next
      let inner := run { m with register := entered.value.2 } body
      let restored := inner.machine.register.set (some entered.value.1)
      let left := { inner.machine with register := restored.value }
      let trace := reported (operand.events ++ entered.events) ++ marked .withEnter ++ inner.trace ++
        reported restored.events
      match inner.exit with
      | .completed => (run left rest).after (trace ++ marked .withExit)
      | .panicked => ⟨.panicked, left, trace⟩
  | .guarded body rest =>
    let inner := run m body
    (run inner.machine rest).after
      (marked .catchEnter ++ inner.trace ++ marked (.catchLeave inner.exit))
  | .thread body rest =>
    let inner := run { m with register := .fresh } body
    (run { inner.machine with register := m.register } rest).after
      (marked .threadStart ++ inner.trace ++ marked (.threadEnd inner.exit))

def execute (script : Script) : Trace :=
  let whole := script.run .start
  match whole.exit with
  | .completed => whole.trace
  | .panicked => whole.trace ++ marked .uncaught

end Script

end XmlNames
