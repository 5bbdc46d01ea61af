import XmlNames.Proofs.Script.Operands
import XmlNames.Proofs.Script.Place
import Mathlib.Logic.Relation

set_option autoImplicit false

namespace XmlNames

def Event.setsDefault : Event → Bool
  | .defaultSet _ | .keyedDefaultSet _ => true
  | .constructed _ _ | .prefixDropped _ _ => false

namespace Script

namespace Building

variable {α β : Type}

def Fails (b : Building α) : Prop := ∃ fault, b.outcome.value = .error fault

abbrev Quiet (b : Building α) : Prop := b.Ensures (fun e => e.setsDefault = false) fun _ => True

structure FailsQuietly (b : Building α) : Prop where
  fails : b.Fails
  events : ∀ e ∈ b.outcome.events, e.setsDefault = false

theorem outcome_bind_of_fault {b : Building α} {fault : Fault} (failed : b.outcome.value = .error fault)
    (f : α → Building β) : (b >>= f).outcome = ⟨.error fault, b.outcome.events⟩ := by
  rw [outcome_bind]
  apply Logged.ext <;> simp [failed]

theorem outcome_bind_of_ok {b : Building α} {x : α} (built : b.outcome.value = .ok x)
    (f : α → Building β) :
    (b >>= f).outcome = ⟨(f x).outcome.value, b.outcome.events ++ (f x).outcome.events⟩ := by
  rw [outcome_bind]
  apply Logged.ext <;> simp [built]

theorem FailsQuietly.bind {b : Building α} (failing : b.FailsQuietly) (f : α → Building β) :
    (b >>= f).FailsQuietly := by
  obtain ⟨⟨fault, failed⟩, quiet⟩ := failing
  exact ⟨⟨fault, by rw [outcome_bind_of_fault failed]⟩, by rwa [outcome_bind_of_fault failed]⟩

theorem Quiet.bind_failsQuietly {b : Building α} {f : α → Building β} (quiet : b.Quiet)
    (behind : ∀ x, (f x).FailsQuietly) : (b >>= f).FailsQuietly := by
  cases built : b.outcome.value with
  | error fault => exact FailsQuietly.bind ⟨⟨fault, built⟩, quiet.events⟩ f
  | ok x =>
    obtain ⟨⟨fault, failed⟩, silent⟩ := behind x
    refine ⟨⟨fault, by rw [outcome_bind_of_ok built, failed]⟩, ?_⟩
    rw [outcome_bind_of_ok built]
    exact List.forall_mem_append.2 ⟨quiet.events, silent⟩

end Building

open Building

theorem quiet_construct (args : List Value) :
    Quiet (liftM (Namespace.construct args) : Building Namespace) := by
  have pair (candidate uri : Value) :
      ∀ e ∈ (Namespace.ofPair candidate uri).events, e.setsDefault = false := by
    fun_cases Namespace.ofPair candidate uri <;> simp [Event.setsDefault]
  have made : ∀ e ∈ (Namespace.ofArguments args).events, e.setsDefault = false := by
    fun_cases Namespace.ofArguments args with
    | case1 | case2 | case3 => simp
    | case4 candidate uri => exact pair candidate uri
  refine ensures_lift trivial ?_
  simpa [Namespace.construct, or_imp, forall_and, Event.setsDefault] using made

section

variable (known : Bindings)

mutual

theorem ValueExpr.quiet_build (value : ValueExpr) : (value.build known).Quiet := by
  match value with
  | .undefined | .null | .boolean _ | .number _ | .text _ | .object _ => exact ensures_pure trivial
  | .ns n => exact (NamespaceExpr.quiet_build n).bind fun _ _ => ensures_pure trivial
  | .name q none => exact (QNameExpr.quiet_build q).bind fun _ _ => ensures_pure trivial
  | .name q (some _) => exact (QNameExpr.quiet_build q).bind fun _ _ => ensures_pure trivial

theorem NamespaceExpr.quiet_build (n : NamespaceExpr) : (n.build known).Quiet := by
  match n with
  | .publicNs => exact ensures_pure trivial
  | .ofUri uri => exact (ValueExpr.quiet_build uri).bind fun _ _ => ensures_pure trivial
  | .ofPrefixAndUri candidate uri =>
    refine (ValueExpr.quiet_build candidate).bind fun _ _ => ?_
    exact (ValueExpr.quiet_build uri).bind fun _ _ => ensures_of fun _ _ => trivial
  | .construct args => exact (quiet_buildValues args).bind fun _ _ => quiet_construct _
  | .json source => exact ensures_of fun _ _ => trivial
  | .bound name =>
    rw [NamespaceExpr.build]
    split
    · exact ensures_pure trivial
    · exact ensures_throw _

theorem QNameExpr.quiet_build (q : QNameExpr) : (q.build known).Quiet := by
  match q with
  | .inNamespace n localName => exact (NamespaceExpr.quiet_build n).bind fun _ _ => ensures_pure trivial
  | .anyNamespace localName => exact ensures_pure trivial

theorem quiet_buildValues (args : List ValueExpr) : (buildValues known args).Quiet := by
  match args with
  | [] => exact ensures_pure trivial
  | first :: rest =>
    refine (ValueExpr.quiet_build first).bind fun _ _ => ?_
    exact (quiet_buildValues rest).bind fun _ _ => ensures_pure trivial

end

theorem quiet_buildOptional (n : Option NamespaceExpr) : (buildOptional known n).Quiet := by
  cases n with
  | none => exact ensures_pure trivial
  | some n => exact (n.quiet_build known).bind fun _ _ => ensures_pure trivial

theorem KeyExpr.quiet_build (key : KeyExpr) (kind : Key.Kind) : (key.build known kind).Quiet := by
  unfold build
  cases kind with
  | text =>
    cases key.text with
    | none => exact ensures_throw _
    | some content => exact ensures_pure trivial
  | number =>
    cases key.number with
    | none => exact ensures_throw _
    | some n => exact ensures_pure trivial
  | ns =>
    cases key.ns with
    | none => exact ensures_throw _
    | some n => exact (n.quiet_build known).bind fun _ _ => ensures_pure trivial
  | name =>
    cases key.name with
    | none => exact ensures_throw _
    | some q => exact (q.quiet_build known).bind fun _ _ => ensures_pure trivial

theorem Query.quiet_answer (query : Query) : (query.answer known).Quiet := by
  cases query with
  | isValidPrefix | className => exact ensures_pure trivial
  | toText value => exact (value.quiet_build known).bind fun _ _ => ensures_pure trivial
  | describe n | index n | property n | serialize n =>
    exact (n.quiet_build known).bind fun _ _ => ensures_pure trivial
  | name q => exact (q.quiet_build known).bind fun _ _ => ensures_pure trivial
  | equals a b =>
    refine (quiet_buildOptional known a).bind fun _ _ => ?_
    exact (quiet_buildOptional known b).bind fun _ _ => ensures_pure trivial
  | nameEquals a b =>
    refine (a.quiet_build known).bind fun _ _ => ?_
    exact (b.quiet_build known).bind fun _ _ => ensures_pure trivial
  | newNamespaces items =>
    exact (ensures_mapM fun n _ => n.quiet_build known).bind fun _ _ => ensures_pure trivial
  | newNames items =>
    exact (ensures_mapM fun q _ => q.quiet_build known).bind fun _ _ => ensures_pure trivial
  | properties n moves =>
    refine (n.quiet_build known).bind fun _ _ => ?_
    split
    · exact ensures_pure trivial
    · exact ensures_throw _

theorem Machine.quiet_store (m : Machine) (name : String) : (m.store name).Quiet := by
  unfold store
  split
  · exact ensures_pure trivial
  · exact ensures_throw _

end

namespace Operand

def Fails (known : Bindings) : Operand → Prop
  | value v => (v.build known).Fails
  | ns n => (n.build known).Fails
  | name q => (q.build known).Fails

def parts : Operand → List Operand
  | value (.ns n) => [ns n]
  | value (.name q _) => [name q]
  | value _ => []
  | ns (.ofUri uri) => [value uri]
  | ns (.ofPrefixAndUri candidate uri) => [value candidate, value uri]
  | ns (.construct args) => args.map value
  | ns _ => []
  | name (.inNamespace n _) => [ns n]
  | name (.anyNamespace _) => []

def Within : Operand → Operand → Prop := Relation.ReflTransGen fun part whole => part ∈ whole.parts

end Operand

def Needs {α : Type} (known : Bindings) (operands : List Operand) (b : Building α) : Prop :=
  ∀ x ∈ operands, x.Fails known → b.FailsQuietly

namespace Needs

variable {α β : Type} {known : Bindings} {operands others : List Operand} {b : Building α}
  {f : α → Building β}

theorem nothing : Needs known [] b := fun _ mem => nomatch mem

theorem alone {x : Operand} (quiet : b.Quiet) (fails : x.Fails known → b.Fails) : Needs known [x] b := by
  intro y mem failed
  cases List.mem_singleton.1 mem
  exact ⟨fails failed, quiet.events⟩

theorem value (v : ValueExpr) : Needs known [.value v] (v.build known) := alone (v.quiet_build known) id

theorem ns (n : NamespaceExpr) : Needs known [.ns n] (n.build known) := alone (n.quiet_build known) id

theorem name (q : QNameExpr) : Needs known [.name q] (q.build known) := alone (q.quiet_build known) id

theorem first (needs : Needs known operands b) : Needs known operands (b >>= f) :=
  fun x mem fails => (needs x mem fails).bind f

theorem behind (quiet : b.Quiet) (needs : ∀ y, Needs known operands (f y)) :
    Needs known operands (b >>= f) :=
  fun x mem fails => quiet.bind_failsQuietly fun y => needs y x mem fails

theorem both (early : Needs known operands b) (quiet : b.Quiet) (late : ∀ y, Needs known others (f y)) :
    Needs known (operands ++ others) (b >>= f) := by
  intro x mem
  rcases List.mem_append.1 mem with mem | mem
  · exact early.first x mem
  · exact behind quiet late x mem

theorem optional (n : Option NamespaceExpr) : Needs known (optionalOperand n) (buildOptional known n) := by
  cases n with
  | none => exact nothing
  | some n => exact (ns n).first

theorem values (args : List ValueExpr) : Needs known (args.map .value) (buildValues known args) := by
  induction args with
  | nil => exact nothing
  | cons v args ih => exact both (value v) (v.quiet_build known) fun _ => ih.first

theorem items {γ : Type} {items : List γ} {operand : γ → Operand} {f : γ → Building β}
    (needs : ∀ item, Needs known [operand item] (f item)) (quiet : ∀ item, (f item).Quiet) :
    Needs known (items.map operand) (items.mapM f) := by
  induction items with
  | nil => exact nothing
  | cons item items ih =>
    rw [List.mapM_cons]
    exact both (needs item) (quiet item) fun _ => ih.first

theorem key (key : KeyExpr) (kind : Key.Kind) :
    Needs known (key.operands kind) (key.build known kind) := by
  cases kind with
  | text | number => exact nothing
  | ns =>
    cases given : key.ns with
    | none => simpa [KeyExpr.operands, given] using nothing
    | some n =>
      simp only [KeyExpr.operands, KeyExpr.build, given]
      exact (ns n).first
  | name =>
    cases given : key.name with
    | none => simpa [KeyExpr.operands, given] using nothing
    | some q =>
      simp only [KeyExpr.operands, KeyExpr.build, given]
      exact (name q).first

end Needs

theorem Operand.fails_of_part {known : Bindings} {part whole : Operand} (mem : part ∈ whole.parts)
    (fails : part.Fails known) : whole.Fails known := by
  cases whole with
  | value v =>
    cases v with
    | ns n => exact ((Needs.ns n).first part mem fails).fails
    | name q rendering => cases rendering <;> exact ((Needs.name q).first part mem fails).fails
    | _ => cases mem
  | ns n =>
    cases n with
    | ofUri uri => exact ((Needs.value uri).first part mem fails).fails
    | ofPrefixAndUri candidate uri =>
      have needs : Needs known [.value candidate, .value uri]
          ((NamespaceExpr.ofPrefixAndUri candidate uri).build known) :=
        (Needs.value candidate).both (candidate.quiet_build known) fun _ => (Needs.value uri).first
      exact (needs part mem fails).fails
    | construct args => exact ((Needs.values args).first part mem fails).fails
    | _ => cases mem
  | name q =>
    cases q with
    | inNamespace n localName => exact ((Needs.ns n).first part mem fails).fails
    | anyNamespace localName => cases mem

theorem Operand.Within.fails {known : Bindings} {part whole : Operand} (within : part.Within whole)
    (fails : part.Fails known) : whole.Fails known := by
  induction within with
  | refl => exact fails
  | tail _ mem ih => exact fails_of_part mem ih

def Action.operands (m : Machine) : Action → List Operand
  | ask query => query.operands
  | give source _ => source.operands
  | setDefault next => optionalOperand next
  | keyed store action =>
    match m.stores.lookup store with
    | some s => action.operands s.kind
    | none => []

section

variable {m : Machine}

theorem Query.needs (known : Bindings) (query : Query) : Needs known query.operands (query.answer known) := by
  cases query with
  | isValidPrefix | className => exact .nothing
  | toText value => exact (Needs.value value).first
  | describe n | index n | property n | properties n | serialize n => exact (Needs.ns n).first
  | equals a b => exact (Needs.optional a).both (quiet_buildOptional known a) fun _ => (Needs.optional b).first
  | name q => exact (Needs.name q).first
  | nameEquals a b => exact (Needs.name a).both (a.quiet_build known) fun _ => (Needs.name b).first
  | newNamespaces items => exact (Needs.items .ns fun n => n.quiet_build known).first
  | newNames items => exact (Needs.items .name fun q => q.quiet_build known).first

theorem Source.needs (source : Source) : Needs m.bindings source.operands (source.give m) := by
  cases source with
  | operand n => exact (Needs.ns n).first
  | new args | call args => exact (Needs.values args).first
  | newWithPrefix candidate uri =>
    rw [give_newWithPrefix, map_eq_pure_bind]
    exact (Needs.ns _).first
  | currentDefault => exact .nothing
  | swapDefault next => exact (Needs.optional next).first

theorem StoreAction.needs {name : String} {s : KeyedStore} (found : m.stores.lookup name = some s)
    (action : StoreAction) : Needs m.bindings (action.operands s.kind) (action.perform m name) := by
  have store : m.store name = pure s := by simp [Machine.store, found]
  cases action with
  | new | clone | size => exact .nothing
  | get key | remove key =>
    simp only [perform, store, pure_bind]
    exact (Needs.key key s.kind).first
  | set key next | swap key next =>
    simp only [perform, store, pure_bind]
    exact (Needs.optional next).both (quiet_buildOptional _ next) fun _ => (Needs.key key s.kind).first

theorem Action.needs (action : Action) : Needs m.bindings (action.operands m) (action.perform m) := by
  cases action with
  | ask query => exact (query.needs m.bindings).first
  | give source bindTo => exact source.needs.first
  | setDefault next => exact (Needs.optional next).first
  | keyed name action =>
    cases found : m.stores.lookup name with
    | some s =>
      simp only [operands, found]
      exact action.needs found
    | none =>
      simp only [operands, found]
      exact .nothing

end

inductive Step where
  | action (a : Action)
  | block (next : Option NamespaceExpr)

namespace Step

def operands (m : Machine) : Step → List Operand
  | action a => a.operands m
  | block next => optionalOperand next

def followedBy (body rest : Script) : Step → Script
  | action a => .step a rest
  | block next => .within next body rest

variable {m : Machine}

-- What is shown is the same for every body, since none of it is run.
theorem run_failed (step : Step) {x : Operand} (mem : x ∈ step.operands m) (fails : x.Fails m.bindings) :
    ∃ (events : List Event) (reason : Fault), (∀ e ∈ events, e.setsDefault = false) ∧
      ∀ body rest, run m (step.followedBy body rest) =
        (run m rest).after (reported events ++ [.entry (.fault reason)]) := by
  cases step with
  | action a =>
    obtain ⟨⟨reason, failed⟩, quiet⟩ := a.needs x mem fails
    exact ⟨_, reason, quiet, fun body rest => run_step_fault failed⟩
  | block next =>
    obtain ⟨⟨reason, failed⟩, quiet⟩ := Needs.optional next x mem fails
    exact ⟨_, reason, quiet, fun body rest => run_within_fault failed⟩

end Step

theorem failed_step_leaves_no_trace {place : Place} {start m : Machine} (arrives : place.arrive start = some m)
    {step : Step} {operand part : Operand} (needed : operand ∈ step.operands m)
    (within : part.Within operand) (fails : part.Fails m.bindings) :
    ∃ (events : List Event) (reason : Fault) (before : Trace),
      (∀ e ∈ events, e.setsDefault = false) ∧
      ∀ body,
        run m (step.followedBy body .done) =
          ⟨.completed, m, reported events ++ [.entry (.fault reason)]⟩ ∧
        ∀ rest, ∃ late : Trace,
          (run start (place.fill rest)).trace = before ++ late ∧
          run start (place.fill (step.followedBy body rest)) = { run start (place.fill rest) with
            trace := before ++ (reported events ++ [.entry (.fault reason)]) ++ late } := by
  obtain ⟨events, reason, quiet, shown⟩ := step.run_failed needed (within.fails fails)
  obtain ⟨before, onwards, filled⟩ := run_fill arrives
  refine ⟨events, reason, before, quiet, fun body => ⟨?_, fun rest => ?_⟩⟩
  · rw [shown]
    simp [run, Run.after]
  · refine ⟨((run m rest).onward onwards).trace, ?_, ?_⟩
    · rw [filled, trace_after]
    · rw [filled, filled, shown]
      simp [Run.onward, Run.after]

theorem failed_step_leaves_no_trace_in_a_store :
    let place : Place := .within (some (.ofUri (.text "o"))) (.step (.keyed "s" (.new .ns)) .here) .done
    let m : Machine := ⟨⟨some ⟨"o", none⟩⟩, [], [("s", ⟨.ns, .empty⟩)]⟩
    let unmade : NamespaceExpr := .ofPrefixAndUri (.text "p") (.text "")
    let key : NamespaceExpr := .ofUri (.ns unmade)
    let action : Action := .keyed "s" (.swap ⟨none, none, some key, none⟩ (some (.construct [])))
    (place.arrive .start = some m ∧ .ns key ∈ (Step.action action).operands m ∧
      (Operand.ns unmade).Within (.ns key) ∧ (Operand.ns unmade).Fails m.bindings) ∧
    (run .start (place.fill (.step action .done))).machine = (run .start (place.fill .done)).machine := by
  intro place m unmade key action
  have arrives : place.arrive .start = some m := rfl
  have needed : .ns key ∈ (Step.action action).operands m := .tail _ (.head _)
  have within : (Operand.ns unmade).Within (.ns key) := .tail (.tail .refl (.head _)) (.head _)
  have fails : (Operand.ns unmade).Fails m.bindings := ⟨_, rfl⟩
  obtain ⟨events, reason, before, -, gone⟩ := failed_step_leaves_no_trace arrives needed within fails
  obtain ⟨late, -, same⟩ := (gone .done).2 .done
  have kept := congrArg Run.machine same
  exact ⟨⟨arrives, needed, within, fails⟩, kept⟩

end Script

end XmlNames
