import XmlNames.Logged

set_option autoImplicit false

namespace XmlNames

structure Register where
  current : Option Namespace
  deriving DecidableEq, Repr

namespace Register

def fresh : Register := ⟨none⟩

def reading (r : Register) : Namespace := r.current.getD .publicNs

@[simp] theorem reading_fresh : fresh.reading = .publicNs := rfl

@[simp] theorem reading_some (n : Namespace) : reading ⟨some n⟩ = n := rfl

def get (r : Register) : Namespace × Register := (r.reading, ⟨some r.reading⟩)

-- Answers what was in effect before; no namespace stands for the public one.
def swap (r : Register) (next : Option Namespace) : Logged (Namespace × Register) := do
  let n := next.getD .publicNs
  Logged.report (.defaultSet n.uri)
  return (r.reading, ⟨some n⟩)

def set (r : Register) (next : Option Namespace) : Logged Register := Prod.snd <$> r.swap next

@[simp] theorem value_set (r : Register) (next : Option Namespace) :
    (r.set next).value = ⟨some (next.getD .publicNs)⟩ := rfl

@[simp] theorem events_set (r : Register) (next : Option Namespace) :
    (r.set next).events = [.defaultSet (next.getD .publicNs).uri] := rfl

end Register

end XmlNames
