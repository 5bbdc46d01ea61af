import XmlNames.Decimal.Shortest
import XmlNames.Proofs.Binary64.Nearest

set_option autoImplicit false

namespace XmlNames.Decimal

open Binary64

theorem magnitude_of_ofExponent {tie : Tie} {m : Nat} {exponent : Int} {d : Decimal}
    (found : ofExponent? tie m exponent = some d) : d.magnitude = m := by
  have holds := List.find?_some found
  exact beq_iff_eq.1 holds

theorem tenTo_pos (n : Nat) : 0 < tenTo n := Nat.pow_pos (by decide)

theorem tenTo_div_mul (n : Nat) : tenTo n / 1 <<< n * 1 <<< n = tenTo n := by
  have split : tenTo n = 5 ^ n * 1 <<< n := by
    rw [Nat.shiftLeft_eq, Nat.one_mul, ← Nat.mul_pow]
    rfl
  exact Nat.div_mul_cancel ⟨5 ^ n, by rw [Nat.mul_comm, split]⟩

theorem magnitude_exact {m : Nat} (finite : m ≤ infinity) : (exact m).magnitude = m := by
  have quotient : (units m * (tenTo 1074 / unitsInOne) * tenTo 0) * unitsInOne = units m * tenTo 1074 := by
    -- A unit is a whole number of steps in the last place, so no digit is lost.
    have one : tenTo 0 = 1 := rfl
    rw [one, Nat.mul_one, Nat.mul_assoc, unitsInOne, tenTo_div_mul]
  have rounded := nearest_congr (tenTo_pos 1074) unitsInOne_pos quotient
  rw [nearest_units finite] at rounded
  exact rounded

theorem magnitude_getD {m : Nat} (finite : m ≤ infinity) {found : Option Decimal}
    (rounds : ∀ d, found = some d → d.magnitude = m) : (found.getD (exact m)).magnitude = m := by
  cases found with
  | none =>
    rw [Option.getD_none]
    exact magnitude_exact finite
  | some d =>
    rw [Option.getD_some]
    exact rounds d rfl

theorem magnitude_shortest (tie : Tie) {m : Nat} (finite : m ≤ infinity) :
    (shortest tie m).magnitude = m := by
  unfold shortest
  apply magnitude_getD finite
  intro d search
  obtain ⟨count, -, found⟩ := List.exists_of_findSome?_eq_some search
  exact magnitude_of_ofExponent found

end XmlNames.Decimal
