import XmlNames.Proofs.Script.Control

set_option autoImplicit false

namespace XmlNames.Script

-- What follows a part inside its block is taken to belong to the part.
inductive Place where
  | here
  | step (action : Action) (rest : Place)
  | panic (rest : Place)
  | within (next : Option NamespaceExpr) (body : Place) (rest : Script)
  | afterWithin (next : Option NamespaceExpr) (body : Script) (rest : Place)
  | guarded (body : Place) (rest : Script)
  | afterGuarded (body : Script) (rest : Place)
  | thread (body : Place) (rest : Script)
  | afterThread (body : Script) (rest : Place)

namespace Place

def fill (part : Script) : Place → Script
  | here => part
  | step action rest => .step action (rest.fill part)
  | panic rest => .panic (rest.fill part)
  | within next body rest => .within next (body.fill part) rest
  | afterWithin next body rest => .within next body (rest.fill part)
  | guarded body rest => .guarded (body.fill part) rest
  | afterGuarded body rest => .guarded body (rest.fill part)
  | thread body rest => .thread (body.fill part) rest
  | afterThread body rest => .thread body (rest.fill part)

def arrive (m : Machine) : Place → Option Machine
  | here => some m
  | step action rest =>
    match (action.perform m).outcome.value with
    | .ok (_, next) => rest.arrive next
    | .error _ => rest.arrive m
  | panic _ => none
  | within next body _ =>
    match (buildOptional m.bindings next).outcome.value with
    | .ok n => body.arrive (m.enter n)
    | .error _ => none
  | afterWithin next body rest =>
    match (buildOptional m.bindings next).outcome.value with
    | .error _ => rest.arrive m
    | .ok n =>
      match (run (m.enter n) body).exit with
      | .completed => rest.arrive ((run (m.enter n) body).machine.restore m.register.reading)
      | .panicked => none
  | guarded body _ => body.arrive m
  | afterGuarded body rest => rest.arrive (run m body).machine
  | thread body _ => body.arrive { m with register := .fresh }
  | afterThread body rest =>
    rest.arrive { (run { m with register := .fresh } body).machine with register := m.register }

-- From the place back to the start.
@[elab_as_elim]
theorem arrive_induction {m : Machine} {motive : Machine → Place → Prop}
    (here : motive m .here)
    (answered : ∀ {start action rest answer next},
      (action.perform start).outcome.value = .ok (answer, next) →
      motive next rest → motive start (.step action rest))
    (failed : ∀ {start action rest fault},
      (action.perform start).outcome.value = .error fault →
      motive start rest → motive start (.step action rest))
    (entered : ∀ {start next n body rest},
      (buildOptional start.bindings next).outcome.value = .ok n →
      motive (start.enter n) body → motive start (.within next body rest))
    (unopened : ∀ {start next body rest fault},
      (buildOptional start.bindings next).outcome.value = .error fault →
      motive start rest → motive start (.afterWithin next body rest))
    (left : ∀ {start next n body rest},
      (buildOptional start.bindings next).outcome.value = .ok n →
      (run (start.enter n) body).exit = .completed →
      motive ((run (start.enter n) body).machine.restore start.register.reading) rest →
      motive start (.afterWithin next body rest))
    (guarded : ∀ {start body rest}, motive start body → motive start (.guarded body rest))
    (caught : ∀ {start body rest}, motive (run start body).machine rest →
      motive start (.afterGuarded body rest))
    (started : ∀ {start body rest}, motive { start with register := .fresh } body →
      motive start (.thread body rest))
    (joined : ∀ {start body rest},
      motive { (run { start with register := .fresh } body).machine with register := start.register } rest →
      motive start (.afterThread body rest))
    {start : Machine} {place : Place} (arrives : place.arrive start = some m) : motive start place := by
  induction place generalizing start with
  | here =>
    cases arrives
    exact here
  | step action rest ih =>
    cases performs : (action.perform start).outcome.value with
    | ok found =>
      simp only [arrive, performs] at arrives
      exact answered performs (ih arrives)
    | error fault =>
      simp only [arrive, performs] at arrives
      exact failed performs (ih arrives)
  | panic rest ih => simp [arrive] at arrives
  | within next body rest ih =>
    cases opened : (buildOptional start.bindings next).outcome.value with
    | error fault => simp [arrive, opened] at arrives
    | ok n =>
      simp only [arrive, opened] at arrives
      exact entered opened (ih arrives)
  | afterWithin next body rest ih =>
    cases opened : (buildOptional start.bindings next).outcome.value with
    | error fault =>
      simp only [arrive, opened] at arrives
      exact unopened opened (ih arrives)
    | ok n =>
      cases ended : (run (start.enter n) body).exit with
      | completed =>
        simp only [arrive, opened, ended] at arrives
        exact left opened ended (ih arrives)
      | panicked => simp [arrive, opened, ended] at arrives
  | guarded body rest ih => exact guarded (ih arrives)
  | afterGuarded body rest ih => exact caught (ih arrives)
  | thread body rest ih => exact started (ih arrives)
  | afterThread body rest ih => exact joined (ih arrives)

end Place

def Run.leaveWithin (previous : Namespace) (rest : Script) (inner : Run) : Run :=
  let left := inner.machine.restore previous
  let shown := inner.trace ++ reported (inner.machine.register.set (some previous)).events
  match inner.exit with
  | .completed => (run left rest).after (shown ++ marked .withExit)
  | .panicked => ⟨.panicked, left, shown⟩

def Run.leaveGuarded (rest : Script) (inner : Run) : Run :=
  (run inner.machine rest).after (inner.trace ++ marked (.catchLeave inner.exit))

def Run.leaveThread (register : Register) (rest : Script) (inner : Run) : Run :=
  (run { inner.machine with register } rest).after (inner.trace ++ marked (.threadEnd inner.exit))

section

variable {m : Machine} {body rest : Script}

theorem run_within_opened {next : Option NamespaceExpr} {n : Option Namespace}
    (opened : (buildOptional m.bindings next).outcome.value = .ok n) :
    run m (.within next body rest) = ((run (m.enter n) body).leaveWithin m.register.reading rest).after
      (reported ((buildOptional m.bindings next).outcome.events ++ (m.register.swap n).events) ++
        marked .withEnter) := by
  cases ended : (run (m.enter n) body).exit with
  | completed =>
    rw [run_within_completed opened ended]
    simp [Run.leaveWithin, ended, withinTrace, after_after]
  | panicked =>
    rw [run_within_panicked opened ended]
    simp [Run.leaveWithin, ended, withinTrace, Run.after]

theorem run_guarded :
    run m (.guarded body rest) = ((run m body).leaveGuarded rest).after (marked .catchEnter) := by
  simp [run, Run.leaveGuarded, after_after]

theorem run_thread :
    run m (.thread body rest) =
      ((run { m with register := .fresh } body).leaveThread m.register rest).after (marked .threadStart) := by
  simp [run, Run.leaveThread, after_after]

end

-- What was shown earlier in a block stays in front however the block is left.
def Ahead (leave : Run → Run) : Prop := ∀ r earlier, leave (r.after earlier) = (leave r).after earlier

theorem ahead_leaveWithin (previous : Namespace) (rest : Script) : Ahead (Run.leaveWithin previous rest) := by
  intro r earlier
  cases ended : r.exit <;> simp [Run.leaveWithin, ended, Run.after]

theorem ahead_leaveGuarded (rest : Script) : Ahead (Run.leaveGuarded rest) := by
  intro r earlier
  simp [Run.leaveGuarded, Run.after]

theorem ahead_leaveThread (register : Register) (rest : Script) : Ahead (Run.leaveThread register rest) := by
  intro r earlier
  simp [Run.leaveThread, Run.after]

def Run.onward (part : Run) (rest : Exit → Machine → Run) : Run :=
  (rest part.exit part.machine).after part.trace

theorem Ahead.onward {leave : Run → Run} (ahead : Ahead leave) (part : Run) (rest : Exit → Machine → Run)
    (earlier : Trace) : leave ((part.onward rest).after earlier) =
      (part.onward fun exit machine => leave (rest exit machine)).after earlier := by
  simp only [Run.onward, ahead _ _]

theorem run_fill {place : Place} {start m : Machine} (arrives : place.arrive start = some m) :
    ∃ (before : Trace) (rest : Exit → Machine → Run),
      ∀ part, run start (place.fill part) = ((run m part).onward rest).after before := by
  refine Place.arrive_induction ?here ?answered ?failed ?entered ?unopened ?left ?guarded ?caught ?started
    ?joined arrives
  case here =>
    exact ⟨[], fun exit machine => ⟨exit, machine, []⟩, fun part => by
      simp [Place.fill, Run.onward, Run.after]⟩
  case answered =>
    rintro start action rest answer next performs ⟨before, onwards, whole⟩
    exact ⟨_, onwards, fun part => by rw [Place.fill, run_step performs, whole, after_after]⟩
  case failed =>
    rintro start action rest fault fails ⟨before, onwards, whole⟩
    exact ⟨_, onwards, fun part => by rw [Place.fill, run_step_fault fails, whole, after_after]⟩
  case entered =>
    rintro start next n body rest opened ⟨before, onwards, whole⟩
    exact ⟨_, fun exit machine => (onwards exit machine).leaveWithin start.register.reading rest,
      fun part => by
        rw [Place.fill, run_within_opened opened, whole, (ahead_leaveWithin _ rest).onward, after_after]⟩
  case unopened =>
    rintro start next body rest fault fails ⟨before, onwards, whole⟩
    exact ⟨_, onwards, fun part => by rw [Place.fill, run_within_fault fails, whole, after_after]⟩
  case left =>
    rintro start next n body rest opened ended ⟨before, onwards, whole⟩
    exact ⟨_, onwards, fun part => by
      rw [Place.fill, run_within_completed opened ended, whole, after_after]⟩
  case guarded =>
    rintro start body rest ⟨before, onwards, whole⟩
    exact ⟨_, fun exit machine => (onwards exit machine).leaveGuarded rest, fun part => by
      rw [Place.fill, run_guarded, whole, (ahead_leaveGuarded rest).onward, after_after]⟩
  case caught =>
    rintro start body rest ⟨before, onwards, whole⟩
    exact ⟨_, onwards, fun part => by
      rw [Place.fill, run_guarded, Run.leaveGuarded, whole, after_after, after_after]⟩
  case started =>
    rintro start body rest ⟨before, onwards, whole⟩
    exact ⟨_, fun exit machine => (onwards exit machine).leaveThread start.register rest, fun part => by
      rw [Place.fill, run_thread, whole, (ahead_leaveThread _ rest).onward, after_after]⟩
  case joined =>
    rintro start body rest ⟨before, onwards, whole⟩
    exact ⟨_, onwards, fun part => by
      rw [Place.fill, run_thread, Run.leaveThread, whole, after_after, after_after]⟩

end XmlNames.Script
