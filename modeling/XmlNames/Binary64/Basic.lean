set_option autoImplicit false

namespace XmlNames

structure Binary64 where
  negative : Bool
  magnitude : Fin 0x8000000000000000
  deriving DecidableEq, Repr

namespace Binary64

def ofBits (bits : UInt64) : Binary64 :=
  ⟨bits.toNat.testBit 63, bits.toNat % 0x8000000000000000, Nat.mod_lt _ (by decide)⟩

def binade : Nat := 0x10000000000000

def infinity : Nat := 2047 * binade

def IsNaN (x : Binary64) : Prop := infinity < x.magnitude

def IsInfinite (x : Binary64) : Prop := x.magnitude = infinity

def IsFinite (x : Binary64) : Prop := x.magnitude < infinity

def IsZero (x : Binary64) : Prop := x.magnitude = (0 : Nat)

instance (x : Binary64) : Decidable x.IsNaN := inferInstanceAs (Decidable (_ < _))

instance (x : Binary64) : Decidable x.IsInfinite := inferInstanceAs (Decidable (_ = _))

instance (x : Binary64) : Decidable x.IsFinite := inferInstanceAs (Decidable (_ < _))

instance (x : Binary64) : Decidable x.IsZero := inferInstanceAs (Decidable (_ = _))

def unitsInOne : Nat := 1 <<< 1074

-- In the first binade it is the count itself, and from there each binade has twice the step of the one before.
def units (magnitude : Nat) : Nat :=
  if magnitude < binade then magnitude
  else (binade + magnitude % binade) <<< (magnitude / binade - 1)

@[simp] theorem units_zero : units 0 = 0 := by
  simp [units]

end Binary64

end XmlNames
