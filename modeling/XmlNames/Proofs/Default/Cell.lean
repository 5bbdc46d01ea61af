import XmlNames.Default.Register
import XmlNames.Proofs.Default.History
import XmlNames.Proofs.Default.Session

set_option autoImplicit false

namespace XmlNames

inductive Request where
  | get
  | set (next : Option Namespace)
  | swap (next : Option Namespace)
  deriving DecidableEq

namespace Request

def onCell (current : Namespace) : Request → Option Namespace × Namespace
  | get => (some current, current)
  | set next => (none, next.getD .publicNs)
  | swap next => (some current, next.getD .publicNs)

def onRegister (r : Register) : Request → Option Namespace × Register
  | get => (some r.get.1, r.get.2)
  | set next => (none, (r.set next).value)
  | swap next => (some (r.swap next).value.1, (r.swap next).value.2)

def written (requests : List Request) : List Namespace :=
  requests.filterMap fun
    | get => none
    | set next | swap next => some (next.getD .publicNs)

def returned (entries : List (Request × Option Namespace)) : List Namespace :=
  entries.filterMap fun
    | (swap _, answer) => answer
    | _ => none

end Request

open Session

namespace Store.Op

variable {K : Type}

-- What an operation asks of the place under its key, unless it removes that place.
def request : Op K → Option Request
  | get _ => some .get
  | set _ next => some (.set next)
  | swap _ next => some (.swap next)
  | remove _ => none

def under [BEq K] (key : K) (op : Op K) : Option Request :=
  if op.key == key then op.request else none

end Store.Op

theorem shows_register (requests : List Request) :
    Shows Request.onRegister requests Register.reading Request.onCell some where
  answered r _ q same s := by
    cases same
    cases r <;> rfl
  moved r _ q same s := by
    cases same
    cases r <;> rfl
  passed _ _ missed := nomatch missed

section

variable {K : Type} [BEq K] [EquivBEq K]

theorem shows_key {key : K} {ops : List (Store.Op K)}
    (kept : ∀ other, .remove other ∈ ops → (other == key) = false) :
    Shows Store.Op.perform ops (fun s => (s.find? key).getD .publicNs) Request.onCell (Store.Op.under key)
    where
  answered op _ q asked s := by
    obtain ⟨same, wanted⟩ := Option.ite_none_right_eq_some.1 asked
    have found := Store.find?_congr s same
    cases op with
    | get other =>
      cases wanted
      exact congrArg some ((Store.fst_get s other).trans (congrArg (·.getD .publicNs) found))
    | set other next =>
      cases wanted
      rfl
    | swap other next =>
      cases wanted
      exact congrArg (fun held => some (held.getD .publicNs)) found
    | remove other => nomatch wanted
  moved op _ q asked s := by
    obtain ⟨same, wanted⟩ := Option.ite_none_right_eq_some.1 asked
    cases op with
    | get other =>
      cases wanted
      have filled := (Store.find?_get s other key).trans (if_pos same)
      exact congrArg (·.getD .publicNs) filled
    | set other next | swap other next =>
      cases wanted
      have filled := (Store.find?_insert s other key (next.getD .publicNs)).trans (if_pos same)
      exact congrArg (·.getD .publicNs) filled
    | remove other => nomatch wanted
  passed op mem missed s := by
    have apart : (op.key == key) = false := by
      cases op with
      | remove other => exact kept other mem
      | _ => simpa [Store.Op.under, Store.Op.request] using missed
    rw [Store.find?_perform_of_ne apart]

end

theorem returned_append_ending {requests : List Request} (swapping : ∀ next, .set next ∉ requests)
    (current : Namespace) :
    Request.returned (transcript Request.onCell current requests) ++
      [ending Request.onCell current requests] = current :: Request.written requests := by
  induction requests generalizing current with
  | nil => rfl
  | cons r later ih =>
    have others : ∀ next, .set next ∉ later := fun next mem => swapping next (List.mem_cons_of_mem r mem)
    cases r with
    | get => exact ih others current
    | set next => exact absurd List.mem_cons_self (swapping next)
    | swap next => exact congrArg (current :: ·) (ih others (next.getD .publicNs))

variable {K : Type} [BEq K] [EquivBEq K]

theorem register_and_key_are_cells (key : K) (requests : List Request) (ops : List (Store.Op K))
    (asked : ops.filterMap (Store.Op.under key) = requests)
    (kept : ∀ other, .remove other ∈ ops → (other == key) = false) :
    (transcript Request.onRegister .fresh requests = transcript Request.onCell .publicNs requests ∧
      (ending Request.onRegister .fresh requests).get.1 = ending Request.onCell .publicNs requests) ∧
    (among (Store.Op.under key) (transcript Store.Op.perform .empty ops) =
        transcript Request.onCell .publicNs requests ∧
      ((ending Store.Op.perform .empty ops).get key).1 = ending Request.onCell .publicNs requests) ∧
    (transcript Request.onRegister Register.fresh.get.2 requests =
        transcript Request.onRegister .fresh requests ∧
      among (Store.Op.under key) (transcript Store.Op.perform (Store.empty.get key).2 ops) =
        among (Store.Op.under key) (transcript Store.Op.perform .empty ops)) ∧
    ((∀ next, .set next ∉ requests) →
      Request.returned (transcript Request.onCell .publicNs requests) ++
        [ending Request.onCell .publicNs requests] = .publicNs :: Request.written requests) := by
  subst asked
  have register := shows_register (ops.filterMap (Store.Op.under key))
  have place := shows_key kept
  have read : ((Store.empty.get key).2.find? key).getD .publicNs = .publicNs := by
    simp [Store.find?_get]
  have from_fresh := register.among_transcript .fresh
  have from_read := register.among_transcript Register.fresh.get.2
  have from_empty := place.among_transcript .empty
  have from_filled := place.among_transcript (Store.empty.get key).2
  simp only [among_some, List.filterMap_some] at from_fresh from_read
  rw [read] at from_filled
  refine ⟨⟨from_fresh, ?_⟩, ⟨from_empty, ?_⟩, ⟨from_read.trans from_fresh.symm, ?_⟩, ?_⟩
  · have last := register.part_ending .fresh
    rwa [List.filterMap_some] at last
  · rw [Store.fst_get]
    exact place.part_ending .empty
  · exact from_filled.trans from_empty.symm
  · exact fun swapping => returned_append_ending swapping .publicNs

theorem register_and_key_are_cells_of_namespaces :
    let key : Namespace := ⟨"u", none⟩
    let requests : List Request := [.get, .swap (some ⟨"x", some "p"⟩), .swap none]
    let ops : List (Store.Op Namespace) :=
      [.get key, .set ⟨"v", none⟩ none, .swap ⟨"u", some "q"⟩ (some ⟨"x", some "p"⟩), .remove ⟨"v", none⟩,
        .swap key none]
    (ops.filterMap (Store.Op.under key) = requests ∧
      (∀ other, .remove other ∈ ops → (other == key) = false) ∧ ∀ next, .set next ∉ requests) ∧
    transcript Request.onRegister .fresh requests =
      [(.get, some .publicNs), (.swap (some ⟨"x", some "p"⟩), some .publicNs),
        (.swap none, some ⟨"x", some "p"⟩)] ∧
    among (Store.Op.under key) (transcript Store.Op.perform .empty ops) =
      transcript Request.onRegister .fresh requests ∧
    Request.returned (transcript Request.onCell .publicNs requests) ++
      [ending Request.onCell .publicNs requests] = [.publicNs, ⟨"x", some "p"⟩, .publicNs] := by
  intro key requests ops
  have asked : ops.filterMap (Store.Op.under key) = requests := by decide
  have kept : ∀ other, .remove other ∈ ops → (other == key) = false := by
    intro other mem
    simp only [ops, List.mem_cons, reduceCtorEq, false_or, Store.Op.remove.injEq, List.not_mem_nil,
      or_false] at mem
    subst mem
    decide
  have swapping : ∀ next, .set next ∉ requests := by simp [requests]
  obtain ⟨⟨register, -⟩, ⟨place, -⟩, -, conserved⟩ := register_and_key_are_cells key requests ops asked kept
  refine ⟨⟨asked, kept, swapping⟩, register.trans (by decide), place.trans register.symm, ?_⟩
  rw [conserved swapping]
  decide

end XmlNames
