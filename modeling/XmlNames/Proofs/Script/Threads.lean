import XmlNames.Proofs.Default.Scope
import XmlNames.Proofs.Script.Operands
import XmlNames.Proofs.Script.Place

set_option autoImplicit false

namespace XmlNames.Script

def Action.standalone : Action → Bool
  | .ask query => (namesOf query.operands).isEmpty
  | .give source _ => (namesOf source.operands).isEmpty
  | .setDefault next => (namesOf (optionalOperand next)).isEmpty
  | .keyed _ _ => false

def standalone : Script → Bool
  | .done => true
  | .step action rest => action.standalone && rest.standalone
  | .panic rest => rest.standalone
  | .within next body rest =>
    (namesOf (optionalOperand next)).isEmpty && body.standalone && rest.standalone
  | .guarded body rest | .thread body rest => body.standalone && rest.standalone

theorem sameOn_of_isEmpty {operands : List Operand} (closed : (namesOf operands).isEmpty = true)
    (known other : Bindings) : SameOn (namesOf operands) known other := by
  simp [List.isEmpty_iff.1 closed, SameOn]

@[simp] theorem Machine.register_bind (m : Machine) (name : Option String) (n : Namespace) :
    (m.bind name n).register = m.register := by
  cases name <;> rfl

section

variable {m other : Machine}

theorem Source.give_congr (source : Source) (closed : (namesOf source.operands).isEmpty = true)
    (same : m.register = other.register) :
    (fun given => (given.1, given.2.register)) <$> source.give m =
      (fun given => (given.1, given.2.register)) <$> source.give other := by
  have known := sameOn_of_isEmpty closed m.bindings other.bindings
  cases source with
  | operand n =>
    have built := n.build_congr (sameOn_of_mem known List.mem_cons_self)
    simp [Source.give, built, same]
  | new args | call args =>
    have built := buildValues_congr args (namesOf_values args ▸ known)
    simp [Source.give, built, same]
  | newWithPrefix candidate uri =>
    have built := (NamespaceExpr.ofPrefixAndUri candidate uri).build_congr
      (sameOn_of_mem known List.mem_cons_self)
    simp [Source.give_newWithPrefix, built, same]
  | currentDefault => simp [Source.give, same]
  | swapDefault next =>
    have built := buildOptional_congr next known
    simp [Source.give, built, same]

-- Bindings and stores may differ in the end, but the answer and the register do not.
theorem Action.perform_congr (action : Action) (alone : action.standalone = true)
    (same : m.register = other.register) :
    (fun found => (found.1, found.2.register)) <$> action.perform m =
      (fun found => (found.1, found.2.register)) <$> action.perform other := by
  cases action with
  | ask query =>
    have built := query.answer_congr (sameOn_of_isEmpty alone m.bindings other.bindings)
    simp [Action.perform, built, same]
  | give source bindTo =>
    have given := congrArg (fun b => (fun found => (Answer.ns found.1, found.2)) <$> b)
      (source.give_congr alone same)
    simpa [Action.perform] using given
  | setDefault next =>
    have built := buildOptional_congr next (sameOn_of_isEmpty alone m.bindings other.bindings)
    simp [Action.perform, built, same]
  | keyed store action => simp [standalone] at alone

end

theorem Building.outcome_map {α β : Type} (f : α → β) (b : Building α) :
    (f <$> b).outcome = Except.map f <$> b.outcome :=
  ExceptT.run_map f b

structure Alike (r s : Run) : Prop where
  exit : r.exit = s.exit
  register : r.machine.register = s.machine.register
  trace : r.trace = s.trace

theorem Alike.after {r s : Run} (alike : Alike r s) {earlier late : Trace} (same : earlier = late) :
    Alike (r.after earlier) (s.after late) :=
  ⟨alike.exit, alike.register, by rw [trace_after, trace_after, alike.trace, same]⟩

theorem alike_run {script : Script} (alone : script.standalone = true) {m other : Machine}
    (same : m.register = other.register) : Alike (run m script) (run other script) := by
  induction script generalizing m other with
  | done => exact ⟨rfl, same, rfl⟩
  | panic rest ih => exact ⟨rfl, same, rfl⟩
  | step action rest ih =>
    have both := Bool.and_eq_true_iff.1 alone
    have performed := congrArg Building.outcome (action.perform_congr both.1 same)
    simp only [Building.outcome_map] at performed
    have events := congrArg Logged.events performed
    have value := congrArg Logged.value performed
    simp only [Logged.events_map, Logged.value_map] at events value
    cases first : (action.perform m).outcome.value with
    | ok found =>
      cases second : (action.perform other).outcome.value with
      | ok found' =>
        simp only [first, second, Except.map, Except.ok.injEq, Prod.mk.injEq] at value
        rw [run_step first, run_step second]
        exact (ih both.2 value.2).after (by rw [events, value.1])
      | error fault => simp [first, second, Except.map] at value
    | error fault =>
      cases second : (action.perform other).outcome.value with
      | ok found' => simp [first, second, Except.map] at value
      | error fault' =>
        simp only [first, second, Except.map, Except.error.injEq] at value
        rw [run_step_fault first, run_step_fault second]
        exact (ih both.2 same).after (by rw [events, value])
  | within next body rest inner outer =>
    obtain ⟨⟨closed, body_alone⟩, rest_alone⟩ : ((namesOf (optionalOperand next)).isEmpty = true ∧
        body.standalone = true) ∧ rest.standalone = true := by
      simpa [standalone] using alone
    have built := buildOptional_congr next (sameOn_of_isEmpty closed m.bindings other.bindings)
    cases opened : (buildOptional m.bindings next).outcome.value with
    | error fault =>
      rw [run_within_fault opened, run_within_fault (built ▸ opened), built]
      exact (outer rest_alone same).after rfl
    | ok n =>
      have inside : Alike (run (m.enter n) body) (run (other.enter n) body) := inner body_alone rfl
      rw [run_within_opened opened, run_within_opened (built ▸ opened), built, same]
      refine Alike.after ?_ rfl
      unfold Run.leaveWithin
      rw [inside.exit]
      cases (run (other.enter n) body).exit with
      | completed =>
        show Alike ((run _ rest).after _) ((run _ rest).after _)
        refine (outer rest_alone ?_).after ?_
        · rfl
        · rw [inside.trace]
          rfl
      | panicked => exact ⟨rfl, rfl, by rw [inside.trace]; rfl⟩
  | guarded body rest inner outer =>
    have both := Bool.and_eq_true_iff.1 alone
    have inside := inner both.1 same
    rw [run_guarded, run_guarded]
    refine Alike.after (Alike.after (outer both.2 inside.register) ?_) rfl
    rw [inside.trace, inside.exit]
  | thread body rest inner outer =>
    have both := Bool.and_eq_true_iff.1 alone
    have inside : Alike (run { m with register := .fresh } body) (run { other with register := .fresh } body) :=
      inner both.1 rfl
    rw [run_thread, run_thread]
    refine Alike.after ((outer both.2 ?_).after ?_) rfl
    · exact same
    · rw [inside.trace, inside.exit]

-- A thread that starts counts as a writing of the public namespace.
def Place.writes (m : Machine) : Place → List Namespace
  | here | panic _ => []
  | step action rest =>
    (action.written m).toList ++
      match (action.perform m).outcome.value with
      | .ok (_, next) => rest.writes next
      | .error _ => rest.writes m
  | within next body _ =>
    match (buildOptional m.bindings next).outcome.value with
    | .ok n => n.getD .publicNs :: body.writes (m.enter n)
    | .error _ => []
  | afterWithin next body rest =>
    match (buildOptional m.bindings next).outcome.value with
    | .error _ => rest.writes m
    | .ok n =>
      m.register.reading :: rest.writes ((run (m.enter n) body).machine.restore m.register.reading)
  | guarded body _ => body.writes m
  | afterGuarded body rest => Script.writes m body ++ rest.writes (run m body).machine
  | thread body _ => .publicNs :: body.writes { m with register := .fresh }
  | afterThread body rest =>
    rest.writes { (run { m with register := .fresh } body).machine with register := m.register }

theorem reading_arrive {place : Place} {start m : Machine} (arrives : place.arrive start = some m) :
    m.register.reading = (place.writes start).getLastD start.register.reading := by
  refine Place.arrive_induction ?here ?answered ?failed ?entered ?unopened ?left ?guarded ?caught ?started
    ?joined arrives
  case here => rfl
  case answered =>
    intro start action rest answer next performs ih
    have kept := action.reading_perform.result _ performs
    simp only [Place.writes, performs, ih, kept, getLastD_append]
    cases action.written start <;> rfl
  case failed =>
    intro start action rest fault fails ih
    simp only [Place.writes, fails, ih, Action.written_of_fault fails, Option.toList, List.nil_append]
  case entered =>
    intro start next n body rest opened ih
    simp only [Place.writes, opened, ih, List.getLastD_cons, Machine.reading_enter]
  case unopened =>
    intro start next body rest fault fails ih
    simp only [Place.writes, fails, ih]
  case left =>
    intro start next n body rest opened ended ih
    simp only [Place.writes, opened, ih, List.getLastD_cons, Machine.reading_restore]
  case guarded => exact fun ih => ih
  case caught =>
    intro start body rest ih
    simp only [Place.writes, getLastD_append, ih, reading_run]
  case started =>
    intro start body rest ih
    simp only [Place.writes, List.getLastD_cons]
    exact ih
  case joined => exact fun ih => ih

def Run.asThread (inner : Run) : Trace := marked .threadStart ++ inner.trace ++ marked (.threadEnd inner.exit)

theorem Alike.asThread {r s : Run} (alike : Alike r s) : r.asThread = s.asThread := by
  simp only [Run.asThread, alike.exit, alike.trace]

theorem thread_keeps_to_itself {place : Place} {start m : Machine} (arrives : place.arrive start = some m) :
    ∃ before : Trace, ∀ body rest : Script,
      let inner := run { m with register := .fresh } body
      (∃ late, (run start (place.fill (.thread body rest))).trace = before ++ inner.asThread ++ late) ∧
      (body.standalone = true → Alike inner (run .start body)) ∧
      (∀ (inside : Place) (reached : Machine), inside.arrive { m with register := .fresh } = some reached →
        reached.register.reading = (inside.writes { m with register := .fresh }).getLastD .publicNs) ∧
      (∃ back : Machine, back.register = m.register ∧
        run m (.thread body rest) = (run back rest).after inner.asThread) ∧
      (rest.standalone = true → Alike (run m (.thread body rest)) ((run m rest).after inner.asThread)) := by
  obtain ⟨before, onwards, filled⟩ := run_fill arrives
  refine ⟨before, fun body rest => ?_⟩
  intro inner
  let back : Machine := { inner.machine with register := m.register }
  have whole : run m (.thread body rest) = (run back rest).after inner.asThread := by
    rw [run_thread, Run.leaveThread, after_after]
    simp only [inner, back, Run.asThread, List.append_assoc]
  have shown : (run start (place.fill (.thread body rest))).trace = before ++ inner.asThread ++
      ((run back rest).trace ++ (onwards (run back rest).exit (run back rest).machine).trace) := by
    rw [filled, whole]
    simp [Run.onward]
  refine ⟨⟨_, shown⟩, fun alone => alike_run alone rfl, fun inside reached there => reading_arrive there,
    ⟨back, rfl, whole⟩, fun alone => ?_⟩
  have behind : Alike (run back rest) (run m rest) := alike_run alone rfl
  rw [whole]
  exact behind.after rfl

theorem thread_keeps_to_itself_in_a_block :
    let override (uri : String) : Option NamespaceExpr := some (.ofUri (.text uri))
    let place : Place := .within (override "o") (.guarded .here .done) .done
    let m : Machine := ⟨⟨some ⟨"o", none⟩⟩, [], []⟩
    let read : Action := .give .currentDefault none
    let body : Script := .step read (.within (override "i") (.step read (.panic .done)) .done)
    let rest : Script := .step read .done
    let reached : Machine := ⟨⟨some .publicNs⟩, [], []⟩
    (place.arrive .start = some m ∧ body.standalone = true ∧ rest.standalone = true ∧
      (Place.step read .here).arrive { m with register := .fresh } = some reached) ∧
    (∃ before late, (run .start (place.fill (.thread body rest))).trace =
      before ++ (run .start body).asThread ++ late) ∧
    reached.register.reading = .publicNs ∧
    (run m (.thread body rest)).machine.register = (run m rest).machine.register := by
  intro override place m read body rest reached
  have arrives : place.arrive .start = some m := rfl
  have alone : body.standalone = true ∧ rest.standalone = true := by decide
  obtain ⟨before, apart⟩ := thread_keeps_to_itself arrives
  obtain ⟨⟨late, shown⟩, alike, reading, -, behind⟩ := apart body rest
  have there : (Place.step read .here).arrive { m with register := .fresh } = some reached := rfl
  have unwritten : (Place.step read .here).writes { m with register := .fresh } = [] := rfl
  refine ⟨⟨arrives, alone.1, alone.2, there⟩, ⟨before, late, (alike alone.1).asThread ▸ shown⟩, ?_,
    (behind alone.2).register⟩
  rw [reading _ _ there, unwritten]
  rfl

end XmlNames.Script
