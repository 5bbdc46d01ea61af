import XmlNames.Proofs.Default.History
import XmlNames.Proofs.Default.Session

set_option autoImplicit false

namespace XmlNames

theorem perm_of_filter {α K : Type} [BEq K] [ReflBEq K] {key : α → K} {items others : List α}
    (same : ∀ k, items.filter (fun x => k == key x) = others.filter (fun x => k == key x)) :
    items.Perm others := by
  classical
  refine List.perm_iff_count.2 fun x => ?_
  have counted (list : List α) : list.count x = (list.filter fun y => key x == key y).count x :=
    (List.count_filter (p := fun y => key x == key y) (BEq.refl (key x))).symm
  rw [counted items, counted others, same]

namespace Store

variable {K : Type}

def part (mine : K → Bool) (s : Store K) : Store K := ⟨s.slots.filter fun slot => mine slot.1⟩

variable [BEq K]

-- A set of keys that has with a key all that count as the same.
def Saturated (mine : K → Bool) : Prop := ∀ a b, (a == b) = true → mine a = mine b

theorem part_erase (mine : K → Bool) (s : Store K) (key : K) :
    (s.erase key).part mine = (s.part mine).erase key := by
  simp only [part, erase, List.filter_filter, Bool.and_comm]

section

variable {mine : K → Bool} {key : K}

theorem part_erase_of_not (closed : Saturated mine) (outside : mine key = false) (s : Store K) :
    (s.erase key).part mine = s.part mine := by
  rw [part_erase]
  refine congrArg Store.mk (List.filter_eq_self.2 fun slot mem => ?_)
  have inside : mine slot.1 = true := (List.mem_filter.1 mem).2
  cases same : key == slot.1 with
  | false => rfl
  | true => simp [closed _ _ same, inside] at outside

theorem part_insert (inside : mine key = true) (s : Store K) (n : Namespace) :
    (s.insert key n).part mine = (s.part mine).insert key n := by
  have erased := congrArg slots (part_erase mine s key)
  simp only [part] at erased
  simp [part, insert, inside, erased]

theorem part_insert_of_not (closed : Saturated mine) (outside : mine key = false) (s : Store K)
    (n : Namespace) : (s.insert key n).part mine = s.part mine := by
  have erased := part_erase_of_not closed outside s
  simpa [part, insert, outside] using erased

theorem find?_part (closed : Saturated mine) (inside : mine key = true) (s : Store K) :
    (s.part mine).find? key = s.find? key := by
  obtain ⟨slots⟩ := s
  simp only [find?, part]
  induction slots with
  | nil => rfl
  | cons slot slots ih =>
    obtain ⟨k, n⟩ := slot
    by_cases same : (key == k) = true
    · have kept : mine k = true := (closed _ _ same).symm.trans inside
      simp [List.lookup_cons, kept, same]
    · by_cases kept : mine k = true <;> simp [List.lookup_cons, kept, same, ih]

end

section

variable {mine : K → Bool} {op : Op K}

theorem part_get (closed : Saturated mine) (s : Store K) (key : K) :
    (s.get key).2.part mine = if mine key = true then ((s.part mine).get key).2 else s.part mine := by
  cases inside : mine key with
  | true =>
    unfold get
    rw [find?_part closed inside]
    cases s.find? key with
    | some n => rfl
    | none => exact part_insert inside s .publicNs
  | false =>
    unfold get
    cases s.find? key with
    | some n => rfl
    | none => exact part_insert_of_not closed inside s .publicNs

theorem fst_perform_part (closed : Saturated mine) (inside : mine op.key = true) (s : Store K) :
    (op.perform s).1 = (op.perform (s.part mine)).1 := by
  cases op with
  | get key =>
    have found : (s.part mine).find? key = s.find? key := find?_part closed inside s
    simp only [Op.perform, fst_get, found]
  | set key next => rfl
  | swap key next => exact congrArg (fun held => some (held.getD .publicNs)) (find?_part closed inside s).symm
  | remove key => exact (find?_part closed inside s).symm

theorem part_perform (closed : Saturated mine) (inside : mine op.key = true) (s : Store K) :
    (op.perform s).2.part mine = (op.perform (s.part mine)).2 := by
  cases op with
  | get key => exact (part_get closed s key).trans (if_pos inside)
  | set key next | swap key next => exact part_insert inside s (next.getD .publicNs)
  | remove key => exact part_erase mine s key

theorem part_perform_of_not (closed : Saturated mine) (outside : mine op.key = false) (s : Store K) :
    (op.perform s).2.part mine = s.part mine := by
  cases op with
  | get key => exact (part_get closed s key).trans (if_neg (by simpa [Op.key] using outside))
  | set key next | swap key next => exact part_insert_of_not closed outside s (next.getD .publicNs)
  | remove key => exact part_erase_of_not closed outside s

end

open Session

variable {H : Type}

def turn (s : Store K) (t : H × Op K) : Option Namespace × Store K := t.2.perform s

def ofHost [DecidableEq H] (host : H) (t : H × Op K) : Option (Op K) :=
  if t.1 = host then some t.2 else none

-- Each host goes through its own operations in their order.
def Interleaves [DecidableEq H] (sequences : H → List (Op K)) (schedule : List (H × Op K)) : Prop :=
  ∀ host, schedule.filterMap (ofHost host) = sequences host

def ofKey (key : K) (t : H × Op K) : Option (Op K) := if key == t.2.key then some t.2 else none

variable [EquivBEq K]

theorem saturated_same (key : K) : Saturated (key == ·) :=
  fun _ _ same => BEq.congr_right same

theorem saturated_keys (ops : List (Op K)) : Saturated fun key => ops.any (·.key == key) := by
  intro a b same
  simp only [BEq.congr_right same]

theorem shows_same (key : K) (schedule : List (H × Op K)) :
    Shows turn schedule (part (key == ·)) Op.perform (ofKey key) where
  answered t _ op picked s := by
    obtain ⟨inside, same⟩ := Option.ite_none_right_eq_some.1 picked
    cases same
    exact fst_perform_part (saturated_same key) inside s
  moved t _ op picked s := by
    obtain ⟨inside, same⟩ := Option.ite_none_right_eq_some.1 picked
    cases same
    exact part_perform (saturated_same key) inside s
  passed t _ missed s := by
    have outside : (key == t.2.key) = false := by simpa [ofKey] using missed
    exact part_perform_of_not (saturated_same key) outside s

theorem shows_alone (ops : List (Op K)) :
    Shows Op.perform ops (part fun key => ops.any (·.key == key)) Op.perform some where
  answered op mem q same s := by
    cases same
    have inside : ops.any (·.key == op.key) = true := List.any_eq_true.2 ⟨op, mem, BEq.refl op.key⟩
    exact fst_perform_part (saturated_keys ops) inside s
  moved op mem q same s := by
    cases same
    have inside : ops.any (·.key == op.key) = true := List.any_eq_true.2 ⟨op, mem, BEq.refl op.key⟩
    exact part_perform (saturated_keys ops) inside s
  passed _ _ missed := nomatch missed

variable [DecidableEq H] {sequences : H → List (Op K)} {schedule : List (H × Op K)}

omit [BEq K] [EquivBEq K] in
theorem Interleaves.mem (interleaved : Interleaves sequences schedule) {t : H × Op K}
    (scheduled : t ∈ schedule) : t.2 ∈ sequences t.1 := by
  rw [← interleaved t.1]
  exact List.mem_filterMap.2 ⟨t, scheduled, if_pos rfl⟩

theorem shows_host (interleaved : Interleaves sequences schedule)
    (apart : ∀ i j, i ≠ j → ∀ a ∈ sequences i, ∀ b ∈ sequences j, (a.key == b.key) = false) (host : H) :
    Shows turn schedule (part fun key => (sequences host).any (·.key == key)) Op.perform (ofHost host) where
  answered t mem op picked s := by
    obtain ⟨rfl, same⟩ := Option.ite_none_right_eq_some.1 picked
    exact Option.some.inj same ▸ (shows_alone (sequences t.1)).answered t.2 (interleaved.mem mem) t.2 rfl s
  moved t mem op picked s := by
    obtain ⟨rfl, same⟩ := Option.ite_none_right_eq_some.1 picked
    exact Option.some.inj same ▸ (shows_alone (sequences t.1)).moved t.2 (interleaved.mem mem) t.2 rfl s
  passed t mem missed s := by
    have other : host ≠ t.1 := by
      rintro rfl
      simp [ofHost] at missed
    have outside : (sequences host).any (·.key == t.2.key) = false := by
      simp only [List.any_eq_false, Bool.not_eq_true]
      exact fun op own => apart host t.1 other op own t.2 (interleaved.mem mem)
    exact part_perform_of_not (saturated_keys _) outside s

-- All operations under keys that count as one come from one host, so every schedule has them in one order.
theorem filterMap_ofKey (apart : ∀ i j, i ≠ j → ∀ a ∈ sequences i, ∀ b ∈ sequences j, (a.key == b.key) = false)
    (interleaved : Interleaves sequences schedule) {key : K} {host : H} {op : Op K} (mem : op ∈ sequences host)
    (same : (key == op.key) = true) :
    schedule.filterMap (ofKey key) = (sequences host).filter fun op => key == op.key := by
  rw [← interleaved host, List.filter_filterMap]
  refine List.filterMap_congr fun t scheduled => ?_
  by_cases own : t.1 = host
  · simp [ofHost, ofKey, own, Option.filter]
  · have other := apart host t.1 (Ne.symm own) op mem t.2 (interleaved.mem scheduled)
    have outside : (key == t.2.key) = false := by rw [BEq.congr_left same, other]
    simp [ofHost, ofKey, own, outside]

theorem filterMap_ofKey_congr
    (apart : ∀ i j, i ≠ j → ∀ a ∈ sequences i, ∀ b ∈ sequences j, (a.key == b.key) = false)
    {other : List (H × Op K)} (interleaved : Interleaves sequences schedule)
    (reordered : Interleaves sequences other) (key : K) :
    other.filterMap (ofKey key) = schedule.filterMap (ofKey key) := by
  by_cases used : ∃ host, ∃ op ∈ sequences host, (key == op.key) = true
  · obtain ⟨host, op, mem, same⟩ := used
    rw [filterMap_ofKey apart interleaved mem same, filterMap_ofKey apart reordered mem same]
  · have unused {any : List (H × Op K)} (whole : Interleaves sequences any) :
        any.filterMap (ofKey key) = [] := by
      refine List.filterMap_eq_nil_iff.2 fun t mem => if_neg fun same => ?_
      exact used ⟨t.1, t.2, whole.mem mem, same⟩
    rw [unused interleaved, unused reordered]

theorem hosts_are_isolated (s : Store K) (sequences : H → List (Op K))
    (apart : ∀ i j, i ≠ j → ∀ a ∈ sequences i, ∀ b ∈ sequences j, (a.key == b.key) = false)
    (schedule : List (H × Op K)) (interleaved : Interleaves sequences schedule) :
    (∀ host, among (ofHost host) (transcript turn s schedule) =
      transcript Op.perform s (sequences host)) ∧
    ∀ other, Interleaves sequences other →
      (∀ key, (ending turn s other).find? key = (ending turn s schedule).find? key) ∧
        (ending turn s other).size = (ending turn s schedule).size := by
  constructor
  · intro host
    have together := (shows_host interleaved apart host).among_transcript s
    have alone := (shows_alone (sequences host)).among_transcript s
    rw [interleaved host] at together
    rw [among_some, List.filterMap_some] at alone
    exact together.trans alone.symm
  · intro other reordered
    have same (key : K) : (ending turn s other).part (key == ·) = (ending turn s schedule).part (key == ·) := by
      rw [(shows_same key other).part_ending, (shows_same key schedule).part_ending,
        filterMap_ofKey_congr apart interleaved reordered]
    constructor
    · intro key
      have found (r : Store K) : (r.part (key == ·)).find? key = r.find? key :=
        find?_part (saturated_same key) (BEq.refl key) r
      rw [← found, same, found]
    · exact (perm_of_filter fun key => congrArg slots (same key)).length_eq

theorem hosts_are_isolated_with_namespaces :
    let s : Store Namespace := ⟨[(⟨"u", some "p"⟩, ⟨"x", some "q"⟩)]⟩
    let sequences : Bool → List (Op Namespace)
      | true => [.swap ⟨"u", none⟩ none, .remove ⟨"u", some "r"⟩]
      | false => [.get ⟨"v", none⟩, .set ⟨"v", some "p"⟩ none]
    let schedule := [(false, .get ⟨"v", none⟩), (true, .swap ⟨"u", none⟩ none),
      (false, .set ⟨"v", some "p"⟩ none), (true, .remove ⟨"u", some "r"⟩)]
    let other := [(true, .swap ⟨"u", none⟩ none), (true, .remove ⟨"u", some "r"⟩),
      (false, .get ⟨"v", none⟩), (false, .set ⟨"v", some "p"⟩ none)]
    ((∀ i j, i ≠ j → ∀ a ∈ sequences i, ∀ b ∈ sequences j, (a.key == b.key) = false) ∧
      Interleaves sequences schedule ∧ Interleaves sequences other) ∧
    (among (ofHost true) (transcript turn s schedule)).map Prod.snd = [some ⟨"x", some "q"⟩, some .publicNs] ∧
    (ending turn s other).size = (ending turn s schedule).size := by
  intro s sequences schedule other
  have apart : ∀ i j, i ≠ j → ∀ a ∈ sequences i, ∀ b ∈ sequences j, (a.key == b.key) = false := by decide
  have interleaved : Interleaves sequences schedule := by
    rintro (_ | _) <;> rfl
  have reordered : Interleaves sequences other := by
    rintro (_ | _) <;> rfl
  have isolated := hosts_are_isolated s sequences apart schedule interleaved
  refine ⟨⟨apart, interleaved, reordered⟩, ?_, (isolated.2 other reordered).2⟩
  rw [isolated.1 true]
  decide

end Store

end XmlNames
