import XmlNames.Logged

set_option autoImplicit false

namespace XmlNames

structure Store (K : Type) where
  slots : List (K × Namespace)
  deriving DecidableEq, Repr

namespace Store

variable {K : Type}

def empty : Store K := ⟨[]⟩

def size (s : Store K) : Nat := s.slots.length

def isEmpty (s : Store K) : Bool := s.slots.isEmpty

variable [BEq K]

def find? (s : Store K) (key : K) : Option Namespace := s.slots.lookup key

def erase (s : Store K) (key : K) : Store K := ⟨s.slots.filter fun slot => !(key == slot.1)⟩

def insert (s : Store K) (key : K) (n : Namespace) : Store K := ⟨(key, n) :: (s.erase key).slots⟩

def get (s : Store K) (key : K) : Namespace × Store K :=
  match s.find? key with
  | some n => (n, s)
  | none => (.publicNs, s.insert key .publicNs)

def swap (s : Store K) (key : K) (next : Option Namespace) : Logged (Namespace × Store K) := do
  let n := next.getD .publicNs
  Logged.report (.keyedDefaultSet n.uri)
  return ((s.find? key).getD .publicNs, s.insert key n)

def set (s : Store K) (key : K) (next : Option Namespace) : Logged (Store K) :=
  Prod.snd <$> s.swap key next

def remove (s : Store K) (key : K) : Option Namespace × Store K := (s.find? key, s.erase key)

@[simp] theorem find?_empty (key : K) : (empty : Store K).find? key = none := rfl

variable [EquivBEq K]

theorem find?_erase (s : Store K) (key other : K) :
    (s.erase key).find? other = if (key == other) = true then none else s.find? other := by
  obtain ⟨slots⟩ := s
  simp only [find?, erase]
  induction slots with
  | nil => simp
  | cons slot slots ih =>
    obtain ⟨k, n⟩ := slot
    rw [List.filter_cons]
    by_cases same : (key == k) = true
    · have moved : (other == k) = (key == other) := by
        rw [← BEq.congr_right same, BEq.comm]
      by_cases hit : (key == other) = true <;> simp only [hit] at ih <;>
        simp [List.lookup_cons, same, hit, moved, ih]
    · have apart : (other == k) = true → ¬(key == other) = true :=
        fun near hit => same (BEq.trans hit near)
      by_cases near : (other == k) = true
      · simp [List.lookup_cons, same, near, apart near]
      · simp [List.lookup_cons, same, near, ih]

theorem find?_insert (s : Store K) (key other : K) (n : Namespace) :
    (s.insert key n).find? other = if (key == other) = true then some n else s.find? other := by
  have erased := find?_erase s key other
  simp only [find?] at erased
  by_cases hit : (key == other) = true <;>
    simp_all [insert, find?, List.lookup_cons, BEq.comm (a := other)]

end Store

end XmlNames
