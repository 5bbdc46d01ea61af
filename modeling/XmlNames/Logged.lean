import XmlNames.Event

set_option autoImplicit false

namespace XmlNames

structure Logged (α : Type) where
  value : α
  events : List Event
  deriving DecidableEq, Repr

namespace Logged

variable {α β : Type}

instance : Monad Logged where
  pure x := ⟨x, []⟩
  bind x f := ⟨(f x.value).value, x.events ++ (f x.value).events⟩

@[simp] theorem value_pure (x : α) : (pure x : Logged α).value = x := rfl

@[simp] theorem events_pure (x : α) : (pure x : Logged α).events = [] := rfl

@[simp] theorem value_bind (x : Logged α) (f : α → Logged β) :
    (x >>= f).value = (f x.value).value := rfl

@[simp] theorem events_bind (x : Logged α) (f : α → Logged β) :
    (x >>= f).events = x.events ++ (f x.value).events := rfl

@[ext] theorem ext {x y : Logged α} (value : x.value = y.value) (events : x.events = y.events) :
    x = y := by
  cases x
  cases y
  simp_all

@[simp] theorem value_map (f : α → β) (x : Logged α) : (f <$> x).value = f x.value := rfl

@[simp] theorem events_map (f : α → β) (x : Logged α) : (f <$> x).events = x.events :=
  List.append_nil _

instance : LawfulMonad Logged :=
  LawfulMonad.mk' Logged (fun x => ext rfl (by simp)) (fun _ _ => ext rfl rfl)
    (fun x f g => ext rfl (by simp))

def report (event : Event) : Logged Unit := ⟨(), [event]⟩

@[simp] theorem value_report (event : Event) : (report event).value = () := rfl

@[simp] theorem events_report (event : Event) : (report event).events = [event] := rfl

end Logged

end XmlNames
