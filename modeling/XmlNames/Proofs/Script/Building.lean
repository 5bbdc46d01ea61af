import XmlNames.Script.Operand

set_option autoImplicit false

namespace XmlNames.Script.Building

variable {α β : Type}

structure Ensures (b : Building α) (E : Event → Prop) (P : α → Prop) : Prop where
  result : ∀ x, b.outcome.value = .ok x → P x
  events : ∀ e ∈ b.outcome.events, E e

@[simp] theorem outcome_pure (x : α) : (pure x : Building α).outcome = pure (.ok x) := rfl

@[simp] theorem outcome_throw (fault : Fault) :
    (throw fault : Building α).outcome = pure (.error fault) := rfl

@[simp] theorem outcome_lift (x : Logged α) : (liftM x : Building α).outcome = Except.ok <$> x := rfl

theorem outcome_bind (b : Building α) (f : α → Building β) :
    (b >>= f).outcome = b.outcome >>= fun
      | .ok x => (f x).outcome
      | .error fault => pure (.error fault) := by
  change b.outcome >>= ExceptT.bindCont f = _
  congr 1
  funext found
  cases found <;> rfl

variable {E : Event → Prop} {P : α → Prop}

theorem ensures_pure {x : α} (holds : P x) : (pure x : Building α).Ensures E P := by
  constructor
  · intro y same
    cases same
    exact holds
  · simp

theorem ensures_throw (fault : Fault) : (throw fault : Building α).Ensures E P := by
  constructor <;> simp

theorem ensures_lift {x : Logged α} (value : P x.value) (events : ∀ e ∈ x.events, E e) :
    (liftM x : Building α).Ensures E P := by
  constructor
  · intro y same
    cases same
    exact value
  · simpa using events

theorem ensures_of {ε : Type} {fault : ε → Fault} {found : Except ε α}
    (holds : ∀ x, found = .ok x → P x) : (Building.of fault found).Ensures E P := by
  cases found with
  | ok x => exact ensures_pure (holds x rfl)
  | error e => exact ensures_throw _

theorem Ensures.bind {Q : β → Prop} {b : Building α} {f : α → Building β}
    (first : b.Ensures E P) (next : ∀ x, P x → (f x).Ensures E Q) :
    (b >>= f).Ensures E Q := by
  have result := first.result
  constructor
  all_goals
    rw [outcome_bind]
    simp only [Logged.value_bind, Logged.events_bind, List.mem_append]
    cases found : b.outcome.value with
    | ok x => _
    | error fault => _
  · exact (next x (result x found)).result
  · simp
  · rintro e (early | late)
    · exact first.events e early
    · exact (next x (result x found)).events e late
  · rintro e (early | late)
    · exact first.events e early
    · simp at late

theorem Ensures.mono {Q : α → Prop} {b : Building α} (strong : b.Ensures E P)
    (weaken : ∀ x, P x → Q x) : b.Ensures E Q :=
  ⟨fun x found => weaken x (strong.result x found), strong.events⟩

theorem ensures_self (b : Building α) :
    b.Ensures (fun _ => True) (fun x => b.outcome.value = .ok x) :=
  ⟨fun _ found => found, fun _ _ => trivial⟩

theorem ensures_mapM {items : List α} {f : α → Building β} {P : β → Prop}
    (built : ∀ item ∈ items, (f item).Ensures E P) :
    (items.mapM f).Ensures E fun results => ∀ x ∈ results, P x := by
  induction items with
  | nil => exact ensures_pure (by simp)
  | cons item items ih =>
    rw [List.mapM_cons]
    refine (built item (by simp)).bind fun first good => ?_
    refine (ih fun other mem => built other (by simp [mem])).bind fun results others => ?_
    exact ensures_pure (by simpa using ⟨good, others⟩)

end XmlNames.Script.Building
