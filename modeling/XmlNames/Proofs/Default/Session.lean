set_option autoImplicit false

namespace XmlNames.Session

variable {S R A T Q : Type}

def transcript (step : S → R → A × S) (s : S) : List R → List (R × A)
  | [] => []
  | r :: later => (r, (step s r).1) :: transcript step (step s r).2 later

def ending (step : S → R → A × S) (s : S) : List R → S
  | [] => s
  | r :: later => ending step (step s r).2 later

def among (pick : R → Option Q) (entries : List (R × A)) : List (Q × A) :=
  entries.filterMap fun entry => (pick entry.1).map fun q => (q, entry.2)

-- How a machine goes on for the requests of one session: those that are picked are answered in a part of its state
-- and move that part, the others leave it as it is.
structure Shows (step : S → R → A × S) (requests : List R) (part : S → T) (small : T → Q → A × T)
    (pick : R → Option Q) : Prop where
  answered : ∀ r ∈ requests, ∀ q, pick r = some q → ∀ s, (step s r).1 = (small (part s) q).1
  moved : ∀ r ∈ requests, ∀ q, pick r = some q → ∀ s, part (step s r).2 = (small (part s) q).2
  passed : ∀ r ∈ requests, pick r = none → ∀ s, part (step s r).2 = part s

namespace Shows

variable {step : S → R → A × S} {requests : List R} {part : S → T} {small : T → Q → A × T}
  {pick : R → Option Q}

theorem tail {r : R} (shows : Shows step (r :: requests) part small pick) :
    Shows step requests part small pick where
  answered other mem := shows.answered other (List.mem_cons_of_mem r mem)
  moved other mem := shows.moved other (List.mem_cons_of_mem r mem)
  passed other mem := shows.passed other (List.mem_cons_of_mem r mem)

theorem among_transcript (shows : Shows step requests part small pick) (s : S) :
    among pick (transcript step s requests) = transcript small (part s) (requests.filterMap pick) := by
  induction requests generalizing s with
  | nil => rfl
  | cons r later ih =>
    have rest := ih shows.tail (step s r).2
    cases picked : pick r with
    | none =>
      rw [shows.passed r List.mem_cons_self picked s] at rest
      simpa [among, transcript, picked] using rest
    | some q =>
      rw [shows.moved r List.mem_cons_self q picked s] at rest
      have answer := shows.answered r List.mem_cons_self q picked s
      simpa [among, transcript, picked, answer] using rest

theorem part_ending (shows : Shows step requests part small pick) (s : S) :
    part (ending step s requests) = ending small (part s) (requests.filterMap pick) := by
  induction requests generalizing s with
  | nil => rfl
  | cons r later ih =>
    rw [ending, ih shows.tail]
    cases picked : pick r with
    | none => rw [shows.passed r List.mem_cons_self picked s, List.filterMap_cons_none picked]
    | some q => rw [shows.moved r List.mem_cons_self q picked s, List.filterMap_cons_some picked, ending]

end Shows

@[simp] theorem among_some (entries : List (R × A)) : among some entries = entries := by
  simp [among]

end XmlNames.Session
