import Mathlib.Algebra.Ring.Nat
import XmlNames.Proofs.Property.Round

set_option autoImplicit false

namespace XmlNames

def Namespace.pairs (n : Namespace) : List (String × Value) :=
  [("uri", .text n.uri),
    ("prefix", match n.nsPrefix with
      | some text => .text text
      | none => .undefined)]

namespace Cursor

def behind (n : Namespace) : Nat → Cursor
  | 0 => n.properties
  | calls + 1 => (behind n calls).next.2

theorem next_of_lt (n : Namespace) {place : Nat} (inside : place < 3) :
    Cursor.next ⟨n, place⟩ = (n.pairs[place]?, ⟨n, (place + 1) % 3⟩) := by
  obtain ⟨uri, nsPrefix⟩ := n
  match place with
  | 0 | 2 => rfl
  | 1 => cases nsPrefix <;> rfl

-- The index goes round, so it tells the calls only up to whole rounds.
theorem behind_eq (n : Namespace) (calls : Nat) : behind n calls = ⟨n, calls % 3⟩ := by
  induction calls with
  | zero => rfl
  | succ calls ih =>
    have inside : calls % 3 < 3 := Nat.mod_lt _ (by decide)
    simp [behind, ih, next_of_lt n inside]

theorem next_behind (n : Namespace) (calls : Nat) :
    (behind n calls).next = (n.pairs[calls % 3]?, behind n (calls + 1)) := by
  have inside : calls % 3 < 3 := Nat.mod_lt _ (by decide)
  simp [behind_eq, next_of_lt n inside]

theorem Round.of_behind {n : Namespace} {c d : Cursor} {pairs : List (String × Value)} (round : c.Round pairs d)
    (calls : Nat) (start : c = behind n calls) :
    pairs = n.pairs.drop (calls % 3) ∧ d = behind n (calls + pairs.length + 1) := by
  induction round generalizing calls with
  | ended last =>
    rw [start, next_behind, Prod.mk.injEq] at last
    constructor
    · exact (List.drop_eq_nil_iff.2 (List.getElem?_eq_none_iff.1 last.1)).symm
    · exact last.2.symm
  | @pair c d e pair pairs found more ih =>
    rw [start, next_behind, Prod.mk.injEq] at found
    obtain ⟨inside, here⟩ := List.getElem?_eq_some_iff.1 found.1
    have onward : (calls + 1) % 3 = calls % 3 + 1 := by
      have two : calls % 3 < 2 := inside
      omega
    obtain ⟨left, ending⟩ := ih (calls + 1) found.2.symm
    constructor
    · rw [List.drop_eq_getElem_cons inside, here, ← onward, ← left]
    · rw [ending, List.length_cons]
      congr 1
      omega

theorem rest_behind (n : Namespace) (calls : Nat) :
    (behind n calls).rest =
      (n.pairs.drop (calls % 3), behind n (calls + (n.pairs.drop (calls % 3)).length + 1)) := by
  obtain ⟨left, ending⟩ := (round_rest (behind n calls)).of_behind calls rfl
  rw [left] at ending
  exact Prod.ext left ending

end Cursor

namespace Move

def cursor : Move → Nat
  | next i | rest i | clone i => i

def isClone : Move → Bool
  | clone _ => true
  | _ => false

def Answer.calls : Answer → Nat
  | item _ => 1
  | items pairs => pairs.length + 1
  | cursor _ => 0

-- The latest answer first; a clone has those of its original up to the cloning.
def history : List (Move × Answer) → Nat → List Answer
  | [], _ => []
  | (next i, answer) :: earlier, k | (rest i, answer) :: earlier, k =>
    if i = k then answer :: history earlier k else history earlier k
  | (clone i, answer) :: earlier, k =>
    if answer = .cursor k then history earlier i else history earlier k

def calls (earlier : List (Move × Answer)) (k : Nat) : Nat := ((history earlier k).map Answer.calls).sum

def population (earlier : List Move) : Nat := earlier.countP isClone + 1

def expected (n : Namespace) (earlier : List (Move × Answer)) : Move → Answer
  | next i => .item n.pairs[calls earlier i % 3]?
  | rest i => .items (n.pairs.drop (calls earlier i % 3))
  | clone _ => .cursor (population (earlier.map Prod.fst))

theorem calls_of_moved {move : Move} (moved : move.isClone = false) (answer : Answer)
    (earlier : List (Move × Answer)) (k : Nat) :
    calls ((move, answer) :: earlier) k =
      if move.cursor = k then calls earlier k + answer.calls else calls earlier k := by
  cases move with
  | next i | rest i =>
    by_cases own : i = k
    · simp [calls, history, cursor, own, Nat.add_comm]
    · simp [calls, history, cursor, own]
  | clone i => simp [isClone] at moved

theorem calls_of_clone (i number : Nat) (earlier : List (Move × Answer)) (k : Nat) :
    calls ((clone i, .cursor number) :: earlier) k = if number = k then calls earlier i else calls earlier k := by
  by_cases new : number = k
  · simp [calls, history, new]
  · simp [calls, history, new]

structure Follows (n : Namespace) (earlier : List (Move × Answer)) (family : List Cursor) : Prop where
  size : family.length = population (earlier.map Prod.fst)
  places : ∀ k c, family[k]? = some c → c = Cursor.behind n (calls earlier k)

theorem follows_start (n : Namespace) : Follows n [] [n.properties] where
  size := rfl
  places k c found := by
    rw [List.getElem?_singleton] at found
    split at found
    · exact (Option.some.inj found).symm
    · contradiction

theorem isSome_run_iff (family : List Cursor) (move : Move) :
    (move.run family).isSome = true ↔ move.cursor < family.length := by
  cases move <;> simp [run, cursor]

section

variable {n : Namespace} {earlier : List (Move × Answer)} {family later : List Cursor} {move : Move}
  {answer : Answer}

theorem Follows.advance (follows : Follows n earlier family) (moved : move.isClone = false)
    (answer : Answer) : Follows n ((move, answer) :: earlier)
      (family.set move.cursor (Cursor.behind n (calls earlier move.cursor + answer.calls))) where
  size := by simp [follows.size, population, moved]
  places k c found := by
    rw [calls_of_moved moved]
    by_cases own : move.cursor = k
    · have inside : k < (family.set move.cursor _).length := (List.getElem?_eq_some_iff.1 found).1
      rw [List.length_set] at inside
      rw [own, List.getElem?_set_self inside] at found
      rw [if_pos own]
      exact (Option.some.inj found).symm
    · rw [List.getElem?_set_ne own] at found
      rw [if_neg own]
      exact follows.places k c found

theorem Follows.join (follows : Follows n earlier family) {i : Nat} {c : Cursor} (found : family[i]? = some c) :
    Follows n ((clone i, .cursor family.length) :: earlier) (family ++ [c]) where
  size := by simp [follows.size, population, isClone, List.countP_cons]
  places k d held := by
    rw [calls_of_clone]
    by_cases new : family.length = k
    · rw [← new, List.getElem?_concat_length] at held
      rw [if_pos new, ← Option.some.inj held]
      exact follows.places i c found
    · have inside : k < (family ++ [c]).length := (List.getElem?_eq_some_iff.1 held).1
      rw [List.length_append, List.length_singleton] at inside
      rw [List.getElem?_append_left (by omega)] at held
      rw [if_neg new]
      exact follows.places k d held

theorem Follows.step (follows : Follows n earlier family) (ran : move.run family = some (answer, later)) :
    answer = move.expected n earlier ∧ Follows n ((move, answer) :: earlier) later := by
  cases move with
  | next i =>
    obtain ⟨c, found, same⟩ := Option.map_eq_some_iff.1 ran
    rw [follows.places i c found, Cursor.next_behind, Prod.mk.injEq] at same
    obtain ⟨rfl, rfl⟩ := same
    exact ⟨rfl, follows.advance rfl _⟩
  | rest i =>
    obtain ⟨c, found, same⟩ := Option.map_eq_some_iff.1 ran
    rw [follows.places i c found, Cursor.rest_behind, Prod.mk.injEq] at same
    obtain ⟨rfl, rfl⟩ := same
    exact ⟨rfl, follows.advance rfl _⟩
  | clone i =>
    obtain ⟨c, found, same⟩ := Option.map_eq_some_iff.1 ran
    rw [Prod.mk.injEq] at same
    obtain ⟨rfl, rfl⟩ := same
    exact ⟨congrArg Answer.cursor follows.size, follows.join found⟩

theorem runAll_cons_iff {moves : List Move} {answers : List Answer} :
    runAll family (move :: moves) = some answers ↔
      ∃ answer later rest, move.run family = some (answer, later) ∧ runAll later moves = some rest ∧
        answers = answer :: rest := by
  simp only [runAll, Option.bind_eq_bind, Option.bind_eq_some_iff, Prod.exists]
  constructor
  · rintro ⟨answer, later, step, rest, ran, same⟩
    exact ⟨answer, later, rest, step, ran, (Option.some.inj same).symm⟩
  · rintro ⟨answer, later, rest, step, ran, rfl⟩
    exact ⟨answer, later, step, rest, ran, rfl⟩

theorem Follows.answers (follows : Follows n earlier family) {moves : List Move} {answers : List Answer}
    (ran : runAll family moves = some answers) : answers.length = moves.length ∧
      ∀ before move answer after, moves.zip answers = before ++ (move, answer) :: after →
        answer = move.expected n (before.reverse ++ earlier) := by
  induction moves generalizing earlier family answers with
  | nil =>
    have none_given : answers = [] := (Option.some.inj ran).symm
    subst none_given
    exact ⟨rfl, by simp⟩
  | cons move moves ih =>
    obtain ⟨answer, later, rest, first, onward, rfl⟩ := runAll_cons_iff.1 ran
    obtain ⟨told, next⟩ := follows.step first
    obtain ⟨size, others⟩ := ih next onward
    constructor
    · simp [size]
    · intro before m a after split
      cases before with
      | nil =>
        rw [List.zip_cons_cons, List.nil_append, List.cons.injEq, Prod.mk.injEq] at split
        obtain ⟨⟨rfl, rfl⟩, -⟩ := split
        exact told
      | cons entry before =>
        rw [List.zip_cons_cons, List.cons_append, List.cons.injEq] at split
        obtain ⟨rfl, split⟩ := split
        rw [List.reverse_cons, List.append_assoc]
        exact others before m a after split

theorem Follows.exists_answers_iff (follows : Follows n earlier family) (moves : List Move) :
    (∃ answers, runAll family moves = some answers) ↔
      ∀ before move after, moves = before ++ move :: after →
        move.cursor < population (before ++ earlier.map Prod.fst) := by
  induction moves generalizing earlier family with
  | nil => simp [runAll]
  | cons move moves ih =>
    have here : (∃ answer later, move.run family = some (answer, later)) ↔
        move.cursor < population (earlier.map Prod.fst) := by
      rw [← follows.size, ← isSome_run_iff, Option.isSome_iff_exists, Prod.exists]
    have counted (before : List Move) (answer : Answer) :
        population (before ++ ((move, answer) :: earlier).map Prod.fst) =
          population (move :: before ++ earlier.map Prod.fst) := by
      simp only [population, List.map_cons, List.cons_append, List.countP_append, List.countP_cons]
      omega
    constructor
    · rintro ⟨answers, ran⟩ before m after split
      obtain ⟨answer, later, rest, first, onward, -⟩ := runAll_cons_iff.1 ran
      cases before with
      | nil =>
        rw [List.nil_append, List.cons.injEq] at split
        rw [← split.1]
        exact here.1 ⟨answer, later, first⟩
      | cons _ before =>
        rw [List.cons_append, List.cons.injEq] at split
        have inside := (ih (follows.step first).2).1 ⟨rest, onward⟩ before m after split.2
        rw [counted] at inside
        rw [← split.1]
        exact inside
    · intro addressed
      obtain ⟨answer, later, first⟩ := here.2 (addressed [] move moves rfl)
      have others : ∀ before m after, moves = before ++ m :: after →
          m.cursor < population (before ++ ((move, answer) :: earlier).map Prod.fst) := by
        intro before m after split
        rw [counted]
        exact addressed (move :: before) m after (congrArg (List.cons move) split)
      obtain ⟨rest, onward⟩ := (ih (follows.step first).2).2 others
      exact ⟨answer :: rest, runAll_cons_iff.2 ⟨answer, later, rest, first, onward, rfl⟩⟩

end

theorem answers_follow_calls (n : Namespace) (moves : List Move) :
    ((∃ answers, runAll [n.properties] moves = some answers) ↔
      ∀ before move after, moves = before ++ move :: after → move.cursor < population before) ∧
    (∀ called, (Cursor.behind n called).Round (n.pairs.drop (called % 3))
      (Cursor.behind n (called + (Answer.items (n.pairs.drop (called % 3))).calls))) ∧
    ∀ answers, runAll [n.properties] moves = some answers → answers.length = moves.length ∧
      ∀ before move answer after, moves.zip answers = before ++ (move, answer) :: after →
        answer = move.expected n before.reverse ∧
        ∀ i, move = .rest i → calls ((move, answer) :: before.reverse) i % 3 = 0 := by
  have start := follows_start n
  refine ⟨?_, ?_, ?_⟩
  · have addressed := start.exists_answers_iff moves
    simpa using addressed
  · intro called
    have round := Cursor.round_rest (Cursor.behind n called)
    rw [Cursor.rest_behind] at round
    exact round
  · intro answers ran
    obtain ⟨size, told⟩ := start.answers ran
    constructor
    · exact size
    · intro before move answer after split
      have answered := told before move answer after split
      rw [List.append_nil] at answered
      constructor
      · exact answered
      · intro i whole
        subst whole
        have left : answer.calls = 2 - calls before.reverse i % 3 + 1 := by
          simp [answered, expected, Answer.calls, Namespace.pairs]
        have moved : (rest i).isClone = false := rfl
        have added := calls_of_moved moved answer before.reverse i
        simp only [cursor, if_true, left] at added
        omega

theorem answers_follow_calls_of_a_clone :
    let n : Namespace := ⟨"u", none⟩
    let moves : List Move := [.next 0, .clone 0, .rest 1, .next 0, .next 1]
    let answers : List Answer := [.item (some ("uri", .text "u")), .cursor 1, .items [("prefix", .undefined)],
      .item (some ("prefix", .undefined)), .item (some ("uri", .text "u"))]
    (runAll [n.properties] moves = some answers ∧
      ∀ before move after, moves = before ++ move :: after → move.cursor < population before) ∧
    answers.length = moves.length ∧
    Answer.items [("prefix", .undefined)] =
      (Move.rest 1).expected n [(.clone 0, .cursor 1), (.next 0, .item (some ("uri", .text "u")))] ∧
    calls [(.rest 1, .items [("prefix", .undefined)]), (.clone 0, .cursor 1),
      (.next 0, .item (some ("uri", .text "u")))] 1 % 3 = 0 := by
  intro n moves answers
  have passed : Cursor.rest ⟨n, 1⟩ = ([("prefix", .undefined)], n.properties) := Cursor.rest_behind n 1
  have ran : runAll [n.properties] moves = some answers := by
    simp [moves, answers, runAll, run, passed, Namespace.properties, Cursor.next_of_lt, Namespace.pairs, n]
  obtain ⟨addressed, -, told⟩ := answers_follow_calls n moves
  obtain ⟨size, answered⟩ := told answers ran
  have split : moves.zip answers = (moves.zip answers).take 2 ++
      (.rest 1, .items [("prefix", .undefined)]) :: (moves.zip answers).drop 3 := rfl
  obtain ⟨answer, whole⟩ := answered _ _ _ _ split
  exact ⟨⟨ran, addressed.1 ⟨answers, ran⟩⟩, size, answer, whole 1 rfl⟩

end Move

end XmlNames
