import XmlNames.Proofs.Binary64.Interval
import XmlNames.Proofs.Binary64.Text
import XmlNames.Proofs.Decimal.Places

set_option autoImplicit false

namespace XmlNames.Decimal

open Binary64

structure IsShortest (d : Decimal) (x : Binary64) : Prop where
  rounds : IsNearest d.value x
  fewest : ∀ other : Decimal, IsNearest other.value x → d.significant.length ≤ other.significant.length
  closest : ∀ other : Decimal, IsNearest other.value x → other.significant.length = d.significant.length →
    |x.value - d.value| ≤ |x.value - other.value|

theorem isNearest_iff_magnitude {d : Decimal} {x : Binary64} :
    IsNearest d.value x.unsigned ↔ d.magnitude = x.magnitude := by
  constructor
  · intro near
    have rounded : IsNearest d.value ⟨false, d.magnitude, nearest_lt _ _⟩ := by
      have own := isNearest_decimal (x := ⟨false, d.magnitude, nearest_lt _ _⟩) (d := d) rfl
      rwa [sign, if_neg (by simp), one_mul] at own
    rcases near.unique rounded with same | ⟨zero, zero'⟩
    · exact (congrArg (fun y : Binary64 => (y.magnitude : Nat)) same).symm
    · exact Eq.trans zero' zero.symm
  · intro back
    have near := isNearest_decimal (x := x.unsigned) back
    rwa [sign, if_neg (by simp [unsigned]), one_mul] at near

section Place

variable (tie : Tie) (m : Nat) (exponent : Int)

theorem mem_neighbours {side : Decimal} :
    side ∈ neighbours tie m exponent ↔ side = below m exponent ∨ side = above m exponent := by
  rcases neighbours_cases m exponent tie with ⟨pair, -⟩ | ⟨pair, -⟩
  · rw [pair, List.mem_cons, List.mem_singleton]
  · rw [pair, List.mem_cons, List.mem_singleton, or_comm]

theorem exists_pair : ∃ first second, neighbours tie m exponent = [first, second] ∧
    |amount m - first.value| ≤ |amount m - second.value| ∧
    |amount m - first.value| + |amount m - second.value| = 10 ^ exponent := by
  have low := below_le m exponent
  have high := lt_above m exponent
  have step := above_eq m exponent
  have under : |amount m - (below m exponent).value| = amount m - (below m exponent).value :=
    abs_of_nonneg (by linarith)
  have past : |amount m - (above m exponent).value| = (above m exponent).value - amount m := by
    rw [abs_of_neg (by linarith), neg_sub]
  rcases neighbours_cases m exponent tie with ⟨pair, nearer⟩ | ⟨pair, nearer⟩
  · exact ⟨_, _, pair, by rwa [under, past], by rw [under, past]; linarith⟩
  · exact ⟨_, _, pair, by rwa [under, past], by rw [under, past]; linarith⟩

variable {tie m exponent} in
theorem ofExponent_of_mem {side : Decimal} (mem : side ∈ neighbours tie m exponent) (rounds : side.magnitude = m) :
    ∃ d, ofExponent? tie m exponent = some d ∧ |amount m - d.value| ≤ |amount m - side.value| := by
  obtain ⟨first, second, pair, nearer, -⟩ := exists_pair tie m exponent
  rw [ofExponent?, pair]
  rw [pair, List.mem_cons, List.mem_singleton] at mem
  by_cases hit : first.magnitude = m
  · refine ⟨first, by simp [hit], ?_⟩
    rcases mem with rfl | rfl
    · exact le_rfl
    · exact nearer
  · rcases mem with rfl | rfl
    · exact absurd rounds hit
    · exact ⟨side, by simp [hit, rounds], le_rfl⟩

end Place

section Length

variable {x : Binary64} (tie : Tie) {count : Nat}

theorem ofExponent_of_near {other : Decimal} (nonzero : ¬x.IsZero) (near : IsNearest other.value x.unsigned)
    (some_digit : 0 < count) (few : other.significant.length ≤ count) :
    ∃ d, ofExponent? tie x.magnitude (leadingPlace x.magnitude - count) = some d ∧
      |amount x.magnitude - d.value| ≤ |amount x.magnitude - other.value| := by
  have low := below_le x.magnitude (leadingPlace x.magnitude - count)
  have high := lt_above x.magnitude (leadingPlace x.magnitude - count)
  rcases outside_neighbours (Nat.pos_of_ne_zero nonzero) some_digit few with under | past
  · have rounds := near.toward (.inl ⟨under, value_unsigned x ▸ low⟩)
    obtain ⟨d, found, close⟩ :=
      ofExponent_of_mem ((mem_neighbours tie _ _).2 (.inl rfl)) (isNearest_iff_magnitude.1 rounds)
    refine ⟨d, found, le_trans close ?_⟩
    rw [abs_of_nonneg (by linarith), abs_of_nonneg (by linarith)]
    linarith
  · have rounds := near.toward (.inr ⟨value_unsigned x ▸ high.le, past⟩)
    obtain ⟨d, found, close⟩ :=
      ofExponent_of_mem ((mem_neighbours tie _ _).2 (.inr rfl)) (isNearest_iff_magnitude.1 rounds)
    refine ⟨d, found, le_trans close ?_⟩
    rw [abs_of_nonpos (by linarith), abs_of_nonpos (by linarith)]
    linarith

variable {tie} in
theorem length_significant_of_found {m : Nat} {d : Decimal} (positive : 0 < m) (some_digit : 0 < count)
    (found : ofExponent? tie m (leadingPlace m - count) = some d) : d.significant.length ≤ count := by
  have bound := coefficient_above_le positive count
  apply length_significant_le some_digit
  rcases (mem_neighbours tie _ _).1 (List.mem_of_find?_eq_some found) with rfl | rfl
  · exact le_trans (Nat.le_succ _) bound
  · exact bound

-- Half a step in the seventeenth place is less than one part in `2 ^ 54`.
theorem exists_seventeen (finite : x.IsFinite) (nonzero : ¬x.IsZero) :
    ∃ d, ofExponent? tie x.magnitude (leadingPlace x.magnitude - 17) = some d := by
  obtain ⟨first, second, pair, nearer, step⟩ :=
    exists_pair tie x.magnitude (leadingPlace x.magnitude - 17)
  have leading := (leadingPlace_spec (Nat.pos_of_ne_zero nonzero)).1
  have scale : ((10 ^ 16 : ℕ) : ℚ) * 10 ^ (leadingPlace x.magnitude - 17) =
      10 ^ (leadingPlace x.magnitude - 1) := by
    rw [pow_grid]
    congr 1
    omega
  have positive : (0 : ℚ) < 10 ^ (leadingPlace x.magnitude - 17) := by positivity
  have close : 2 ^ 54 * |first.value - x.unsigned.value| < |x.unsigned.value| := by
    rw [value_unsigned, abs_of_nonneg (amount_nonneg _), abs_sub_comm]
    push_cast at scale
    linarith
  have number : ¬x.unsigned.IsNaN := lt_asymm finite
  have rounds := isNearest_iff_magnitude.1 (isNearest_of_close number close)
  have mem : first ∈ neighbours tie x.magnitude (leadingPlace x.magnitude - 17) := by simp [pair]
  obtain ⟨d, found, -⟩ := ofExponent_of_mem mem rounds
  exact ⟨d, found⟩

end Length

theorem exists_first {α : Type} {f : Nat → Option α} {start size : Nat} {found : α}
    (search : (List.range' start size).findSome? f = some found) :
    ∃ count, start ≤ count ∧ count < start + size ∧ f count = some found ∧
      ∀ fewer, start ≤ fewer → fewer < count → f fewer = none := by
  induction size generalizing start with
  | zero => simp at search
  | succ size ih =>
    rw [List.range'_succ, List.findSome?_cons] at search
    cases first : f start with
    | some hit =>
      rw [first] at search
      exact ⟨start, le_rfl, by omega, first.trans search, fun fewer low less => by omega⟩
    | none =>
      rw [first] at search
      obtain ⟨count, low, high, hit, missed⟩ := ih search
      refine ⟨count, by omega, by omega, hit, fun fewer inside less => ?_⟩
      rcases Nat.eq_or_lt_of_le inside with rfl | later
      · exact first
      · exact missed fewer later less

section Search

variable {x : Binary64} (tie : Tie)

-- The search ends at the first length that has a decimal.
theorem shortest_found (finite : x.IsFinite) (nonzero : ¬x.IsZero) : ∃ count : Nat, 0 < count ∧ count ≤ 17 ∧
    ofExponent? tie x.magnitude (leadingPlace x.magnitude - count) = some (shortest tie x.magnitude) ∧
    ∀ fewer : Nat, 0 < fewer → fewer < count →
      ofExponent? tie x.magnitude (leadingPlace x.magnitude - fewer) = none := by
  obtain ⟨last, found⟩ := exists_seventeen tie finite nonzero
  dsimp only [shortest]
  cases search : (List.range' 1 17).findSome? fun (count : Nat) =>
      ofExponent? tie x.magnitude (leadingPlace x.magnitude - count) with
  | none =>
    have missed := List.findSome?_eq_none_iff.1 search 17 (by decide)
    rw [Nat.cast_ofNat, found] at missed
    contradiction
  | some d =>
    obtain ⟨count, low, high, hit, missed⟩ := exists_first search
    exact ⟨count, low, Nat.le_of_lt_succ high, hit, missed⟩

theorem length_significant_pos {d : Decimal} (nonzero : ¬x.IsZero) (near : IsNearest d.value x.unsigned) :
    0 < d.significant.length := by
  have positive : 0 < (x.magnitude : Nat) := Nat.pos_of_ne_zero nonzero
  rw [← isNearest_iff_magnitude.1 near] at positive
  exact List.length_pos_iff.2 (areLeading_significant (coefficient_pos positive)).numeric.1

theorem isShortest_shortest (finite : x.IsFinite) (nonzero : ¬x.IsZero) :
    IsShortest (shortest tie x.magnitude) x.unsigned ∧ (shortest tie x.magnitude).significant.length ≤ 17 := by
  obtain ⟨count, some_digit, bound, found, missed⟩ := shortest_found tie finite nonzero
  have short := length_significant_of_found (Nat.pos_of_ne_zero nonzero) some_digit found
  have rounds : IsNearest (shortest tie x.magnitude).value x.unsigned :=
    isNearest_iff_magnitude.2 (magnitude_shortest tie finite.le)
  have least {other : Decimal} (near : IsNearest other.value x.unsigned) : count ≤ other.significant.length := by
    by_contra fewer
    rw [not_le] at fewer
    have several := length_significant_pos nonzero near
    obtain ⟨d, hit, -⟩ := ofExponent_of_near tie nonzero near several le_rfl
    rw [missed _ several fewer] at hit
    contradiction
  refine ⟨⟨rounds, fun other near => le_trans short (least near), ?_⟩, le_trans short bound⟩
  intro other near same
  obtain ⟨d, hit, close⟩ := ofExponent_of_near tie nonzero near some_digit (same.trans_le short)
  rw [found, Option.some.injEq] at hit
  rw [value_unsigned, hit]
  exact close

end Search

end XmlNames.Decimal
