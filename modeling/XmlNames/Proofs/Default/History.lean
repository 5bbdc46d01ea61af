import Mathlib.Data.Set.Card
import Mathlib.Logic.Function.Basic
import XmlNames.Default.Store

set_option autoImplicit false

namespace XmlNames.Store

variable {K : Type}

inductive Op (K : Type) where
  | get (key : K)
  | set (key : K) (next : Option Namespace)
  | swap (key : K) (next : Option Namespace)
  | remove (key : K)

def Op.key : Op K → K
  | get key | set key _ | swap key _ | remove key => key

inductive Command (K : Type) where
  | new (name : String)
  | clone (source copy : String)
  | on (name : String) (op : Op K)

def Command.target : Command K → String
  | new name | on name _ => name
  | clone _ copy => copy

-- A copy has the operations of its source up to the copying.
def history (name : String) : List (Command K) → List (Op K)
  | [] => []
  | .new other :: earlier => if other = name then [] else history name earlier
  | .clone source copy :: earlier =>
    if copy = name then history source earlier else history name earlier
  | .on other op :: earlier =>
    if other = name then op :: history name earlier else history name earlier

section

variable [BEq K]

def Op.perform (s : Store K) : Op K → Option Namespace × Store K
  | get key => (some (s.get key).1, (s.get key).2)
  | set key next => (none, (s.set key next).value)
  | swap key next => (some (s.swap key next).value.1, (s.swap key next).value.2)
  | remove key => s.remove key

def Command.perform (stores : String → Store K) : Command K → String → Store K
  | new name => Function.update stores name empty
  | clone source copy => Function.update stores copy (stores source)
  | on name op => Function.update stores name (op.perform (stores name)).2

def after : List (Command K) → String → Store K
  | [] => fun _ => empty
  | command :: earlier => command.perform (after earlier)

def replay : List (Op K) → Store K
  | [] => empty
  | op :: earlier => (op.perform (replay earlier)).2

def written (key : K) : List (Op K) → Option Namespace
  | [] => none
  | .get _ :: earlier => written key earlier
  | .set other next :: earlier | .swap other next :: earlier =>
    if other == key then some (next.getD .publicNs) else written key earlier
  | .remove other :: earlier => if other == key then none else written key earlier

def reading (key : K) (earlier : List (Op K)) : Namespace := (written key earlier).getD .publicNs

def touched (key : K) : List (Op K) → Bool
  | [] => false
  | .get other :: earlier | .set other _ :: earlier | .swap other _ :: earlier =>
    other == key || touched key earlier
  | .remove other :: earlier => !(other == key) && touched key earlier

def Op.expected (earlier : List (Op K)) : Op K → Option Namespace
  | get key | swap key _ => some (reading key earlier)
  | set _ _ => none
  | remove key => if touched key earlier then some (reading key earlier) else none

def sameAs (key : K) : Set K := {other | (key == other) = true}

def touchedClasses (earlier : List (Op K)) : Set (Set K) :=
  {c | ∃ key, touched key earlier = true ∧ c = sameAs key}

end

section

variable [BEq K]

theorem after_eq_replay (commands : List (Command K)) (name : String) :
    after commands name = replay (history name commands) := by
  induction commands generalizing name with
  | nil => rfl
  | cons command earlier ih =>
    cases command with
    | new other =>
      by_cases same : other = name
      · simp [after, Command.perform, history, same, replay]
      · simp [after, Command.perform, history, same, Ne.symm same, ih]
    | clone source copy =>
      by_cases same : copy = name
      · simp [after, Command.perform, history, same, ih]
      · simp [after, Command.perform, history, same, Ne.symm same, ih]
    | on other op =>
      by_cases same : other = name
      · simp [after, Command.perform, history, same, replay, ih]
      · simp [after, Command.perform, history, same, Ne.symm same, ih]

theorem perform_of_ne {command : Command K} {name : String} (other : command.target ≠ name)
    (stores : String → Store K) : command.perform stores name = stores name := by
  cases command <;> exact Function.update_of_ne (Ne.symm other) _ _

theorem after_append_of_ne {later : List (Command K)} {name : String}
    (others : ∀ command ∈ later, command.target ≠ name) (earlier : List (Command K)) :
    after (later ++ earlier) name = after earlier name := by
  induction later with
  | nil => rfl
  | cons command later ih =>
    have step := perform_of_ne (others command (by simp)) (after (later ++ earlier))
    rw [List.cons_append, after, step]
    apply ih
    intro other mem
    exact others other (by simp [mem])

theorem after_clone (source copy : String) (earlier : List (Command K)) :
    after (.clone source copy :: earlier) copy = after earlier source :=
  Function.update_self ..

end

variable [BEq K] [EquivBEq K]

theorem find?_congr (s : Store K) {key other : K} (same : (key == other) = true) :
    s.find? key = s.find? other := by
  obtain ⟨slots⟩ := s
  simp only [find?]
  induction slots with
  | nil => rfl
  | cons slot slots ih =>
    obtain ⟨k, n⟩ := slot
    simp only [List.lookup_cons, BEq.congr_left same, ih]

theorem find?_get (s : Store K) (key other : K) :
    (s.get key).2.find? other =
      if (key == other) = true then some ((s.find? other).getD .publicNs) else s.find? other := by
  unfold get
  by_cases same : (key == other) = true
  · rw [find?_congr s same]
    cases found : s.find? other <;> simp [find?_insert, same, found]
  · cases found : s.find? key <;> simp [find?_insert, same]

theorem find?_perform_of_ne {op : Op K} {key : K} (apart : (op.key == key) = false) (s : Store K) :
    (op.perform s).2.find? key = s.find? key := by
  have other : ¬(op.key == key) = true := by simp [apart]
  cases op with
  | get => exact (find?_get s _ key).trans (if_neg other)
  | set | swap => exact (find?_insert s _ key _).trans (if_neg other)
  | remove => exact (find?_erase s _ key).trans (if_neg other)

omit [EquivBEq K] in
theorem fst_get (s : Store K) (key : K) : (s.get key).1 = (s.find? key).getD .publicNs := by
  unfold get
  cases s.find? key <;> rfl

omit [EquivBEq K] in
theorem written_of_untouched {key : K} {earlier : List (Op K)} (untouched : touched key earlier = false) :
    written key earlier = none := by
  induction earlier with
  | nil => rfl
  | cons op earlier ih =>
    cases op <;> simp_all [touched, written]

theorem find?_replay (key : K) (earlier : List (Op K)) :
    (replay earlier).find? key = if touched key earlier then some (reading key earlier) else none := by
  induction earlier with
  | nil => rfl
  | cons op earlier ih =>
    cases op with
    | get other =>
      -- A first reading fills the slot with what an untouched key reads as.
      have filled : ((replay earlier).find? key).getD .publicNs = reading key earlier := by
        rw [ih]
        cases held : touched key earlier with
        | true => rfl
        | false => simp [reading, written_of_untouched held]
      rw [replay, Op.perform, find?_get, filled, ih]
      by_cases same : (other == key) = true <;> simp [touched, reading, written, same]
    | set other next | swap other next =>
      change ((replay earlier).insert other (next.getD .publicNs)).find? key = _
      rw [find?_insert, ih]
      by_cases same : (other == key) = true <;> simp [touched, reading, written, same]
    | remove other =>
      change ((replay earlier).erase other).find? key = _
      rw [find?_erase, ih]
      by_cases same : (other == key) = true <;> simp [touched, reading, written, same]

theorem fst_perform (earlier : List (Op K)) (op : Op K) :
    (op.perform (replay earlier)).1 = op.expected earlier := by
  have held (key : K) : ((replay earlier).find? key).getD .publicNs = reading key earlier := by
    rw [find?_replay]
    cases touch : touched key earlier with
    | true => rfl
    | false => simp [reading, written_of_untouched touch]
  cases op with
  | get key => simp only [Op.perform, Op.expected, fst_get, held]
  | set key next => rfl
  | swap key next => exact congrArg some (held key)
  | remove key => exact find?_replay key earlier

def Apart (s : Store K) : Prop := s.slots.Pairwise fun a b => (a.1 == b.1) = false

omit [EquivBEq K] in
theorem Apart.erase {s : Store K} (apart : s.Apart) (key : K) : (s.erase key).Apart :=
  List.Pairwise.filter _ apart

omit [EquivBEq K] in
theorem Apart.insert {s : Store K} (apart : s.Apart) (key : K) (n : Namespace) :
    (s.insert key n).Apart := by
  apply List.Pairwise.cons
  · intro slot mem
    simpa using (List.mem_filter.1 mem).2
  · exact apart.erase key

omit [EquivBEq K] in
theorem apart_replay (earlier : List (Op K)) : (replay earlier).Apart := by
  induction earlier with
  | nil => exact List.Pairwise.nil
  | cons op earlier ih =>
    cases op with
    | get key =>
      simp only [replay, Op.perform, get]
      cases (replay earlier).find? key with
      | some n => exact ih
      | none => exact ih.insert key .publicNs
    | set key next | swap key next => exact ih.insert key (next.getD .publicNs)
    | remove key => exact ih.erase key

theorem sameAs_eq_iff {key other : K} : sameAs key = sameAs other ↔ (key == other) = true := by
  constructor
  · intro equal
    have mem : other ∈ sameAs key := equal ▸ BEq.refl other
    exact mem
  · intro same
    ext third
    simp only [sameAs, Set.mem_ofPred_eq, BEq.congr_left same]

omit [EquivBEq K] in
theorem isSome_find?_iff {s : Store K} {key : K} :
    (s.find? key).isSome ↔ ∃ slot ∈ s.slots, (key == slot.1) = true :=
  List.lookup_isSome_iff

theorem encard_touchedClasses (earlier : List (Op K)) :
    (touchedClasses earlier).encard = ((replay earlier).size : ℕ∞) := by
  classical
  let held := (replay earlier).slots.map fun slot => sameAs slot.1
  have distinct : held.Nodup := by
    apply List.Pairwise.map _ _ (apart_replay earlier)
    intro a b apart equal
    simp [sameAs_eq_iff.1 equal] at apart
  have touched_iff (key : K) :
      touched key earlier = true ↔ ∃ slot ∈ (replay earlier).slots, (key == slot.1) = true := by
    rw [← isSome_find?_iff, find?_replay]
    cases touched key earlier <;> simp
  have classes : touchedClasses earlier = (held.toFinset : Set (Set K)) := by
    ext c
    simp only [touchedClasses, touched_iff, Set.mem_ofPred_eq, List.coe_toFinset, held, List.mem_map]
    constructor
    · rintro ⟨key, ⟨slot, mem, same⟩, rfl⟩
      exact ⟨slot, mem, (sameAs_eq_iff.2 same).symm⟩
    · rintro ⟨slot, mem, rfl⟩
      exact ⟨slot.1, ⟨slot, mem, BEq.refl _⟩, rfl⟩
  rw [classes, Set.encard_coe_eq_coe_finsetCard, List.toFinset_card_of_nodup distinct]
  simp [held, size]

theorem answers_follow_history (commands : List (Command K)) (name : String) :
    (∀ op : Op K, (op.perform (after commands name)).1 = op.expected (history name commands)) ∧
      ((after commands name).size : ℕ∞) = (touchedClasses (history name commands)).encard ∧
      ((after commands name).isEmpty = true ↔ (after commands name).size = 0) ∧
      ∀ (copy : String) (later : List (Command K)),
        ((∀ command ∈ later, command.target ≠ copy) →
          after (later ++ .clone name copy :: commands) copy = after commands name) ∧
        (copy ≠ name → (∀ command ∈ later, command.target ≠ name) →
          after (later ++ .clone name copy :: commands) name = after commands name) := by
  rw [after_eq_replay]
  refine ⟨fst_perform _, (encard_touchedClasses _).symm, by simp [isEmpty, size], ?_⟩
  intro copy later
  rw [← after_eq_replay]
  constructor
  · intro others
    rw [after_append_of_ne others, after_clone]
  · intro apart others
    rw [after_append_of_ne others]
    apply perform_of_ne
    exact apart

theorem answers_follow_history_of_namespaces :
    ((Op.swap (⟨"u", none⟩ : Namespace) none).perform (after
      [.on "s" (.get ⟨"v", none⟩), .on "s" (.set ⟨"u", some "p"⟩ (some ⟨"x", some "q"⟩))] "s")).1 =
        some ⟨"x", some "q"⟩ ∧
      ((Op.remove (⟨"v", some "p"⟩ : Namespace)).perform (after
        [.on "s" (.get ⟨"v", none⟩), .on "s" (.set ⟨"u", some "p"⟩ (some ⟨"x", some "q"⟩))] "s")).1 =
        some .publicNs := by
  have follows := (answers_follow_history (K := Namespace)
    [.on "s" (.get ⟨"v", none⟩), .on "s" (.set ⟨"u", some "p"⟩ (some ⟨"x", some "q"⟩))] "s").1
  constructor
  · rw [follows]
    decide
  · rw [follows]
    decide

end XmlNames.Store
