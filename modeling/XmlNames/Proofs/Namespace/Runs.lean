import XmlNames.Proofs.Namespace.Operands
import XmlNames.Proofs.Script.Control

set_option autoImplicit false

namespace XmlNames

namespace Store

variable {K : Type} [BEq K] {P : K × Namespace → Prop} {s : Store K}

theorem forall_slots_erase (all : ∀ slot ∈ s.slots, P slot) (key : K) :
    ∀ slot ∈ (s.erase key).slots, P slot :=
  fun slot mem => all slot (List.mem_filter.1 mem).1

theorem forall_slots_insert (all : ∀ slot ∈ s.slots, P slot) {key : K} {n : Namespace}
    (new : P (key, n)) : ∀ slot ∈ (s.insert key n).slots, P slot :=
  List.forall_mem_cons.2 ⟨new, forall_slots_erase all key⟩

end Store

theorem getD_publicNs_wellFormed {n : Option Namespace} (sound : AllWellFormed n.toList) :
    (n.getD .publicNs).WellFormed := by
  cases n with
  | none => exact Namespace.publicNs_wellFormed
  | some n => simpa using sound

namespace Script

def performed (found : Answer × Machine) : List Namespace := found.1.namespaces ++ found.2.namespaces

variable {m : Machine}

namespace KeyedStore

variable {s : KeyedStore} {key : Key} {n : Namespace}

theorem sound_find? (sound : AllWellFormed s.namespaces) (key : Key) :
    AllWellFormed (s.slots.find? key).toList := by
  rw [AllWellFormed.toList]
  intro n found
  obtain ⟨other, mem⟩ := exists_mem_of_lookup found
  exact (AllWellFormed.cons.1 (AllWellFormed.flatMap.1 sound _ mem)).1

theorem sound_insert (sound : AllWellFormed s.namespaces) (held : AllWellFormed key.namespaces)
    (good : n.WellFormed) : AllWellFormed { s with slots := s.slots.insert key n }.namespaces :=
  AllWellFormed.flatMap.2
    (Store.forall_slots_insert (AllWellFormed.flatMap.1 sound) (AllWellFormed.cons.2 ⟨good, held⟩))

theorem sound_erase (sound : AllWellFormed s.namespaces) (key : Key) :
    AllWellFormed { s with slots := s.slots.erase key }.namespaces :=
  AllWellFormed.flatMap.2 (Store.forall_slots_erase (AllWellFormed.flatMap.1 sound) key)

theorem sound_get (sound : AllWellFormed s.namespaces) (held : AllWellFormed key.namespaces) :
    (s.slots.get key).1.WellFormed ∧
      AllWellFormed { s with slots := (s.slots.get key).2 }.namespaces := by
  unfold Store.get
  cases found : s.slots.find? key with
  | some n => exact ⟨AllWellFormed.toList.1 (sound_find? sound key) n found, sound⟩
  | none => exact ⟨Namespace.publicNs_wellFormed, sound_insert sound held Namespace.publicNs_wellFormed⟩

end KeyedStore

namespace Machine

theorem sound_bind (sound : AllWellFormed m.namespaces) (name : Option String) {n : Namespace}
    (good : n.WellFormed) : AllWellFormed (m.bind name n).namespaces := by
  cases name with
  | none => exact sound
  | some name =>
    rw [allWellFormed_iff] at sound ⊢
    exact ⟨sound.1, List.forall_mem_cons.2 ⟨good, sound.2.1⟩, sound.2.2⟩

theorem sound_keep (sound : AllWellFormed m.namespaces) (name : String) {s : KeyedStore}
    (good : AllWellFormed s.namespaces) : AllWellFormed (m.keep name s).namespaces := by
  rw [allWellFormed_iff] at sound ⊢
  refine ⟨sound.1, sound.2.1, List.forall_mem_cons.2 ⟨good, ?_⟩⟩
  exact fun entry mem => sound.2.2 entry (List.mem_filter.1 mem).1

theorem sound_register (sound : AllWellFormed m.namespaces) {r : Register}
    (good : r.reading.WellFormed) : AllWellFormed { m with register := r }.namespaces := by
  rw [allWellFormed_iff] at sound ⊢
  exact ⟨good, sound.2⟩

theorem sound_store (sound : AllWellFormed m.namespaces) (name : String) :
    Building.Sound KeyedStore.namespaces (m.store name) := by
  unfold store
  split
  · next s found =>
    obtain ⟨key, mem⟩ := exists_mem_of_lookup found
    exact Building.ensures_pure ((allWellFormed_iff.1 sound).2.2 _ mem)
  · exact Building.ensures_throw _

end Machine

open Building

theorem Source.sound_give (sound : AllWellFormed m.namespaces) (source : Source) :
    Building.Sound (fun given => given.1 :: given.2.namespaces) (source.give m) := by
  have state := Machine.allWellFormed_iff.1 sound
  cases source with
  | operand n =>
    refine (n.sound_build state.2.1).bind fun built good => ?_
    exact ensures_pure (by simpa using ⟨by simpa using good, sound⟩)
  | new args | call args =>
    refine (sound_buildValues state.2.1 args).bind fun values good => ?_
    have values_sound : ∀ value ∈ values, AllWellFormed value.namespaces := by simpa using good
    refine (ensures_lift (P := fun made => ∀ n, made = .ok n → n.WellFormed) ?_ ?_).bind
      fun made good => (ensures_of good).bind fun n good => ?_
    · rintro n ⟨⟩
      exact Namespace.construct_wellFormed values_sound
    · simpa [namespaceClass] using Namespace.sound_events_construct values_sound
    · exact ensures_pure (by simpa using ⟨good, sound⟩)
  | newWithPrefix candidate uri =>
    refine (candidate.sound_build state.2.1).bind fun first _ => ?_
    refine (uri.sound_build state.2.1).bind fun second _ => ?_
    refine (ensures_of (P := Namespace.WellFormed) fun made read => ?_).bind fun made good => ?_
    · exact Namespace.ofPrefixAndUri_wellFormed read
    · exact ensures_pure (by simpa using ⟨good, sound⟩)
  | currentDefault =>
    exact ensures_pure (by simpa using ⟨state.1, Machine.sound_register sound state.1⟩)
  | swapDefault next =>
    refine (sound_buildOptional state.2.1 next).bind fun built good => ?_
    refine (ensures_lift (P := fun swapped =>
      swapped.1.WellFormed ∧ swapped.2.reading.WellFormed) ?_ ?_).bind fun swapped goods => ?_
    · exact ⟨state.1, getD_publicNs_wellFormed (n := built) good⟩
    · simp [Register.swap, Event.namespaces]
    · exact ensures_pure (by simpa using ⟨goods.1, Machine.sound_register sound goods.2⟩)

theorem StoreAction.sound_perform (sound : AllWellFormed m.namespaces) (name : String)
    (action : StoreAction) : Building.Sound performed (action.perform m name) := by
  have state := Machine.allWellFormed_iff.1 sound
  cases action with
  | new kind =>
    refine ensures_pure ?_
    simpa [performed, Answer.namespaces] using
      Machine.sound_keep sound name (s := ⟨kind, .empty⟩) (by simp [KeyedStore.namespaces, Store.empty])
  | clone copy =>
    refine (Machine.sound_store sound name).bind fun s good => ?_
    exact ensures_pure (by simpa [performed, Answer.namespaces] using Machine.sound_keep sound copy good)
  | size =>
    refine (Machine.sound_store sound name).bind fun s good => ?_
    exact ensures_pure (by simpa [performed, Answer.namespaces] using sound)
  | get key =>
    refine (Machine.sound_store sound name).bind fun s good => ?_
    refine (key.sound_build state.2.1 s.kind).bind fun key held => ?_
    have got := KeyedStore.sound_get good held
    exact ensures_pure (by
      simpa [performed, Answer.namespaces] using ⟨got.1, Machine.sound_keep sound name got.2⟩)
  | set key next =>
    refine (Machine.sound_store sound name).bind fun s good => ?_
    refine (sound_buildOptional state.2.1 next).bind fun next new => ?_
    refine (key.sound_build state.2.1 s.kind).bind fun key held => ?_
    have slots := KeyedStore.sound_insert good held (getD_publicNs_wellFormed new)
    refine (ensures_lift (P := fun after => AllWellFormed { s with slots := after }.namespaces)
      slots (by simp [Store.set, Store.swap, Event.namespaces])).bind fun after slots => ?_
    exact ensures_pure (by
      simpa [performed, Answer.namespaces] using Machine.sound_keep sound name slots)
  | swap key next =>
    refine (Machine.sound_store sound name).bind fun s good => ?_
    refine (sound_buildOptional state.2.1 next).bind fun next new => ?_
    refine (key.sound_build state.2.1 s.kind).bind fun key held => ?_
    have previous := getD_publicNs_wellFormed (KeyedStore.sound_find? good key)
    have slots := KeyedStore.sound_insert good held (getD_publicNs_wellFormed new)
    refine (ensures_lift (P := fun swapped =>
      swapped.1.WellFormed ∧ AllWellFormed { s with slots := swapped.2 }.namespaces)
      ⟨previous, slots⟩ (by simp [Store.swap, Event.namespaces])).bind fun swapped goods => ?_
    exact ensures_pure (by
      simpa [performed, Answer.namespaces] using ⟨goods.1, Machine.sound_keep sound name goods.2⟩)
  | remove key =>
    refine (Machine.sound_store sound name).bind fun s good => ?_
    refine (key.sound_build state.2.1 s.kind).bind fun key held => ?_
    refine ensures_pure (AllWellFormed.append.2 ⟨KeyedStore.sound_find? good key, ?_⟩)
    exact Machine.sound_keep sound name (KeyedStore.sound_erase good key)

theorem Action.sound_perform (sound : AllWellFormed m.namespaces) (action : Action) :
    Building.Sound performed (action.perform m) := by
  have state := Machine.allWellFormed_iff.1 sound
  cases action with
  | ask query =>
    refine (query.sound_answer state.2.1).bind fun answer good => ?_
    exact ensures_pure (AllWellFormed.append.2 ⟨good, sound⟩)
  | give source bindTo =>
    refine (source.sound_give sound).bind fun given good => ?_
    have both := AllWellFormed.cons.1 good
    refine ensures_pure (AllWellFormed.append.2 ⟨?_, Machine.sound_bind both.2 bindTo both.1⟩)
    simpa [Answer.namespaces] using both.1
  | setDefault next =>
    refine (sound_buildOptional state.2.1 next).bind fun next good => ?_
    have new := getD_publicNs_wellFormed good
    refine (ensures_lift (P := fun register => register.reading.WellFormed) new
      (by simp [Event.namespaces])).bind fun register good => ?_
    exact ensures_pure (AllWellFormed.append.2 ⟨by simp [Answer.namespaces],
      Machine.sound_register sound good⟩)
  | keyed store action => exact action.sound_perform sound store

theorem sound_enter (sound : AllWellFormed m.namespaces) {next : Option Namespace}
    (good : AllWellFormed next.toList) : AllWellFormed (m.enter next).namespaces :=
  Machine.sound_register sound (getD_publicNs_wellFormed (n := next) good)

theorem sound_restore (sound : AllWellFormed m.namespaces) {previous : Namespace}
    (good : previous.WellFormed) : AllWellFormed (m.restore previous).namespaces :=
  Machine.sound_register sound good

def Trace.namespaces (trace : Trace) : List Namespace := trace.flatMap Item.namespaces

@[simp] theorem Trace.namespaces_append (t u : Trace) :
    Trace.namespaces (t ++ u) = t.namespaces ++ u.namespaces :=
  List.flatMap_append

@[simp] theorem Trace.namespaces_marked (mark : Mark) : (marked mark).namespaces = [] := rfl

@[simp] theorem Trace.namespaces_reported (events : List Event) :
    (reported events).namespaces = events.flatMap Event.namespaces :=
  List.flatMap_map ..

@[simp] theorem Trace.namespaces_answer (answer : Answer) :
    Trace.namespaces [.entry (.answer answer)] = answer.namespaces :=
  List.append_nil _

@[simp] theorem Trace.namespaces_fault (fault : Fault) :
    Trace.namespaces [.entry (.fault fault)] = [] := rfl

def Run.namespaces (r : Run) : List Namespace := r.machine.namespaces ++ r.trace.namespaces

theorem sound_after {r : Run} {earlier : Trace} (shown : AllWellFormed earlier.namespaces)
    (sound : AllWellFormed r.namespaces) : AllWellFormed (r.after earlier).namespaces := by
  simp only [Run.namespaces, Run.after, Trace.namespaces_append, AllWellFormed.append] at sound ⊢
  exact ⟨sound.1, shown, sound.2⟩

theorem sound_withinTrace (sound : AllWellFormed m.namespaces) {next : Option NamespaceExpr}
    {n : Option Namespace} {body : Script} (inner : AllWellFormed (run (m.enter n) body).trace.namespaces) :
    AllWellFormed (withinTrace m next n body).namespaces := by
  have opened := (sound_buildOptional (Machine.allWellFormed_iff.1 sound).2.1 next).events
  simpa [withinTrace, Register.swap, Event.namespaces, inner] using opened

theorem sound_run (m : Machine) (script : Script) (sound : AllWellFormed m.namespaces) :
    AllWellFormed (run m script).namespaces := by
  induction m, script using run_induction with
  | done m => simpa [run, Run.namespaces, Trace.namespaces] using sound
  | @answered m action rest answer next performs ih =>
    have ensured := action.sound_perform sound
    have good := AllWellFormed.append.1 (ensured.result _ performs)
    rw [run_step performs]
    exact sound_after (by simpa using ⟨ensured.events, good.1⟩) (ih good.2)
  | @failed m action rest fault fails ih =>
    have ensured := action.sound_perform sound
    rw [run_step_fault fails]
    exact sound_after (by simpa using ensured.events) (ih sound)
  | panic m rest => simpa [run, Run.namespaces] using sound
  | @unopened m next body rest fault fails ih =>
    have ensured := sound_buildOptional (Machine.allWellFormed_iff.1 sound).2.1 next
    rw [run_within_fault fails]
    exact sound_after (by simpa using ensured.events) (ih sound)
  | @left m next n body rest opened ended inner outer =>
    have state := Machine.allWellFormed_iff.1 sound
    have within := AllWellFormed.append.1
      (inner (sound_enter sound ((sound_buildOptional state.2.1 next).result _ opened)))
    rw [run_within_completed opened ended]
    refine sound_after ?_ (outer (sound_restore within.1 state.1))
    simpa using sound_withinTrace sound within.2
  | @unwound m next n body rest opened ended inner =>
    have state := Machine.allWellFormed_iff.1 sound
    have within := AllWellFormed.append.1
      (inner (sound_enter sound ((sound_buildOptional state.2.1 next).result _ opened)))
    rw [run_within_panicked opened ended]
    exact AllWellFormed.append.2 ⟨sound_restore within.1 state.1, sound_withinTrace sound within.2⟩
  | @guarded m body rest inner outer =>
    have within := AllWellFormed.append.1 (inner sound)
    exact sound_after (by simpa using within.2) (outer within.1)
  | @thread m body rest inner outer =>
    have state := Machine.allWellFormed_iff.1 sound
    -- Bindings and stores come back from the thread, the register does not.
    have fresh : AllWellFormed { m with register := .fresh }.namespaces :=
      Machine.sound_register sound Namespace.publicNs_wellFormed
    have within := AllWellFormed.append.1 (inner fresh)
    refine sound_after (by simpa using within.2) (outer ?_)
    exact Machine.sound_register within.1 state.1

theorem sound_of_reaches {start m : Machine} {whole script : Script}
    (reached : Reaches start whole m script) (sound : AllWellFormed start.namespaces) :
    AllWellFormed m.namespaces := by
  induction reached with
  | whole => exact sound
  | @answered m next action rest answer _ performs ih =>
    exact (AllWellFormed.append.1 ((action.sound_perform ih).result _ performs)).2
  | failed _ _ ih | unopened _ _ ih | guarded _ ih => exact ih
  | @entered m next n body rest _ opened ih =>
    exact sound_enter ih ((sound_buildOptional (Machine.allWellFormed_iff.1 ih).2.1 next).result _ opened)
  | @left m next n body rest _ opened _ ih =>
    have state := Machine.allWellFormed_iff.1 ih
    have entered := sound_enter ih ((sound_buildOptional state.2.1 next).result _ opened)
    exact sound_restore (AllWellFormed.append.1 (sound_run _ body entered)).1 state.1
  | @caught m body rest _ ih => exact (AllWellFormed.append.1 (sound_run m body ih)).1
  | started _ ih => exact Machine.sound_register ih Namespace.publicNs_wellFormed
  | @joined m body rest _ ih =>
    have fresh := Machine.sound_register (r := .fresh) ih Namespace.publicNs_wellFormed
    have ran := AllWellFormed.append.1 (sound_run _ body fresh)
    exact Machine.sound_register ran.1 (Machine.allWellFormed_iff.1 ih).1

theorem sound_start : AllWellFormed Machine.start.namespaces := by
  simpa [Machine.namespaces, Machine.start] using Namespace.publicNs_wellFormed

end Script

end XmlNames
