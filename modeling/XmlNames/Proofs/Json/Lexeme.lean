import XmlNames.Proofs.Json.Grammar

set_option autoImplicit false

namespace XmlNames.Json

theorem escaped?_iff {letter c : Char} : escaped? letter = some c ↔ (letter, c) ∈ shortEscapes := by
  constructor
  · intro stands
    unfold escaped? at stands
    split at stands <;> simp_all [shortEscapes, eq_comm]
  · intro listed
    simp only [shortEscapes, List.mem_cons, Prod.mk.injEq, List.not_mem_nil, or_false] at listed
    rcases listed with ⟨rfl, rfl⟩ | ⟨rfl, rfl⟩ | ⟨rfl, rfl⟩ | ⟨rfl, rfl⟩ | ⟨rfl, rfl⟩ | ⟨rfl, rfl⟩ |
      ⟨rfl, rfl⟩ | ⟨rfl, rfl⟩ <;> rfl

theorem exists_toNat {c low high : Char} (between : low ≤ c ∧ c ≤ high) :
    ∃ n, low.toNat ≤ n ∧ n ≤ high.toNat ∧ c = Char.ofNat n :=
  ⟨c.toNat, between.1, between.2, (Char.ofNat_toNat c).symm⟩

theorem hexValue?_iff {c : Char} {value : Nat} : hexValue? c = some value ↔ HexDigit value c := by
  constructor
  · intro read
    unfold hexValue? at read
    -- In each range a digit is known by its code point.
    split_ifs at read with digit small large
    · have between : '0' ≤ c ∧ c ≤ '9' := by simpa [Char.isDigit, Char.le_def] using digit
      obtain ⟨n, low, high, rfl⟩ := exists_toNat between
      simp at low high
      left
      interval_cases n <;> cases read <;> decide
    · obtain ⟨n, low, high, rfl⟩ := exists_toNat small
      simp at low high
      left
      interval_cases n <;> cases read <;> decide
    · obtain ⟨n, low, high, rfl⟩ := exists_toNat large
      simp at low high
      right
      interval_cases n <;> cases read <;> decide
  · intro digit
    have bound : value < 16 := by
      rcases digit with found | found
      · exact (List.getElem?_eq_some_iff.1 found).1
      · exact (List.getElem?_eq_some_iff.1 found).1
    rcases digit with found | found
    · interval_cases value <;> cases found <;> decide
    · interval_cases value <;> cases found <;> decide

theorem unit?_iff {a b c d : Char} {n : Nat} :
    unit? a b c d = some n ↔ ∃ w x y z, HexDigit w a ∧ HexDigit x b ∧ HexDigit y c ∧ HexDigit z d ∧
      n = ((w * 16 + x) * 16 + y) * 16 + z := by
  simp only [unit?, Option.bind_eq_bind, Option.bind_eq_some_iff, hexValue?_iff, Option.pure_def,
    Option.some.injEq]
  constructor
  · rintro ⟨w, first, x, second, y, third, z, fourth, same⟩
    exact ⟨w, x, y, z, first, second, third, fourth, same.symm⟩
  · rintro ⟨w, x, y, z, first, second, third, fourth, same⟩
    exact ⟨w, first, x, second, y, third, z, fourth, same.symm⟩

theorem pieces_spelled {piece : Piece} {cs : List Char} (spelled : piece.Spelled cs) (rest : List Char) :
    pieces (cs ++ rest) = (pieces rest).map fun read => (piece :: read.1, read.2) := by
  cases spelled with
  | plain visible quote escape => exact pieces_plain quote escape (by omega) rest
  | @short letter c listed =>
    have stands := escaped?_iff.2 listed
    have no_unit : letter ≠ 'u' := by
      rintro rfl
      simp [escaped?] at stands
    rw [List.cons_append, List.cons_append, List.nil_append, pieces]
    · rw [stands]
      cases pieces rest <;> rfl
    · simp [no_unit]
  | unit first second third fourth =>
    have read := unit?_iff.2 ⟨_, _, _, _, first, second, third, fourth, rfl⟩
    simp only [List.cons_append, List.nil_append, pieces, read]
    cases pieces rest <;> rfl

theorem pieces_unquoted {found : List Piece} {cs : List Char} (spelled : Unquoted found cs)
    (rest : List Char) : pieces (cs ++ '"' :: rest) = some (found, rest) := by
  induction spelled with
  | nil => rfl
  | cons first _ ih => rw [List.append_assoc, pieces_spelled first, ih, Option.map_some]

theorem unquoted_of_pieces {cs rest : List Char} {found : List Piece}
    (read : pieces cs = some (found, rest)) :
    ∃ front, Unquoted found front ∧ cs = front ++ '"' :: rest := by
  fun_induction pieces cs generalizing found rest with
  | case1 => simp at read
  | case2 after =>
    cases read
    exact ⟨[], .nil, rfl⟩
  | case3 a b c d after ih =>
    simp only [Option.bind_eq_bind, Option.bind_eq_some_iff] at read
    obtain ⟨n, hex, ⟨more, last⟩, step, same⟩ := read
    obtain ⟨w, x, y, z, first, second, third, fourth, rfl⟩ := unit?_iff.1 hex
    obtain ⟨front, spelled, rfl⟩ := ih step
    cases same
    exact ⟨_, .cons (.unit first second third fourth) spelled, rfl⟩
  | case4 letter after _ ih =>
    simp only [Option.bind_eq_bind, Option.bind_eq_some_iff] at read
    obtain ⟨c, stands, ⟨more, last⟩, step, same⟩ := read
    obtain ⟨front, spelled, rfl⟩ := ih step
    cases same
    exact ⟨_, .cons (.short (escaped?_iff.1 stands)) spelled, rfl⟩
  | case5 => simp at read
  | case6 c after quote _ escape visible ih =>
    simp only [Option.bind_eq_bind, Option.bind_eq_some_iff] at read
    obtain ⟨⟨more, last⟩, step, same⟩ := read
    obtain ⟨front, spelled, rfl⟩ := ih step
    cases same
    -- A backslash would have something behind it here.
    have unescaped : c ≠ '\\' := by
      intro same
      obtain ⟨letter, others, behind⟩ := List.exists_cons_of_ne_nil
        (List.append_ne_nil_of_right_ne_nil front (List.cons_ne_nil '"' last))
      exact escape letter others same behind
    exact ⟨_, .cons (.plain (by omega) quote unescaped) spelled, rfl⟩

namespace Numeral

def Stops (rest : List Char) : Prop :=
  ∀ c, rest.head? = some c → c.isDigit = false ∧ c ≠ '.' ∧ c ≠ 'e' ∧ c ≠ 'E'

theorem someDigits_sound {cs digits rest : List Char} (read : someDigits cs = some (digits, rest)) :
    AreDigits digits ∧ cs = digits ++ rest := by
  unfold someDigits at read
  split at read
  · simp at read
  · next nonempty =>
    cases read
    refine ⟨⟨?_, ?_⟩, List.takeWhile_append_dropWhile.symm⟩
    · exact nonempty
    · intro c mem
      exact List.mem_takeWhile_imp mem

theorem signIn_sound (cs : List Char) :
    cs = (if (signIn cs).1 then ['-'] else []) ++ (signIn cs).2 := by
  fun_cases signIn cs <;> rfl

theorem wholeIn_sound {cs whole rest : List Char} (read : wholeIn cs = some (whole, rest)) :
    AreDigits whole ∧ (whole.head? = some '0' → whole = ['0']) ∧ cs = whole ++ rest := by
  unfold wholeIn at read
  split at read
  · simp at read
  · next unpadded =>
    obtain ⟨numeric, split_off⟩ := someDigits_sound read
    refine ⟨numeric, ?_, split_off⟩
    intro zero
    obtain ⟨first, others, rfl⟩ := List.exists_cons_of_ne_nil numeric.1
    cases zero
    cases others with
    | nil => rfl
    | cons second others => exact absurd read (unpadded second others rest)

theorem fractionIn_sound {cs rest : List Char} {fraction : Option (List Char)}
    (read : fractionIn cs = some (fraction, rest)) :
    (∀ digits, fraction = some digits → AreDigits digits) ∧ cs = spellFraction fraction ++ rest := by
  fun_cases fractionIn cs with
  | case1 after =>
    simp only [fractionIn, Option.map_eq_some_iff] at read
    obtain ⟨⟨digits, last⟩, step, same⟩ := read
    cases same
    obtain ⟨numeric, rfl⟩ := someDigits_sound step
    exact ⟨fun _ same => Option.some.inj same ▸ numeric, rfl⟩
  | case2 =>
    rw [fractionIn] at read
    · cases read
      exact ⟨fun _ same => absurd same (by simp), rfl⟩
    · assumption

theorem exponentIn_sound {cs rest : List Char} {power : Option Int}
    (read : exponentIn cs = some (power, rest)) :
    ∃ front, SpelledExponent power front ∧ cs = front ++ rest := by
  fun_cases exponentIn cs with
  | case1 =>
    cases read
    exact ⟨[], .absent, rfl⟩
  | case2 mark after marked =>
    simp only [exponentIn, marked, if_true, Option.map_eq_some_iff] at read
    obtain ⟨⟨found, last⟩, step, same⟩ := read
    cases same
    unfold powerIn at step
    split at step
    all_goals
      obtain ⟨⟨digits, last⟩, digits_read, same⟩ := Option.map_eq_some_iff.1 step
      cases same
      obtain ⟨numeric, rfl⟩ := someDigits_sound digits_read
    · exact ⟨_, .minus marked numeric, rfl⟩
    · exact ⟨_, .plus marked numeric, rfl⟩
    · exact ⟨_, .plain marked numeric, rfl⟩
  | case3 c after unmarked =>
    simp only [exponentIn, unmarked, if_false] at read
    cases read
    exact ⟨[], .absent, rfl⟩

theorem spelled_of_scan {cs rest : List Char} {n : Numeral} (read : scan cs = some (n, rest)) :
    ∃ front, n.Spelled front ∧ cs = front ++ rest := by
  simp only [scan, Option.bind_eq_bind, Option.bind_eq_some_iff] at read
  obtain ⟨⟨whole, afterWhole⟩, first, ⟨fraction, afterFraction⟩, second, ⟨power, last⟩, third, same⟩ := read
  have sign := signIn_sound cs
  obtain ⟨numeric, unpadded, atWhole⟩ := wholeIn_sound first
  obtain ⟨decimals, atFraction⟩ := fractionIn_sound second
  obtain ⟨front, spelled, atExponent⟩ := exponentIn_sound third
  cases same
  refine ⟨_, .mk ⟨numeric, unpadded, decimals⟩ spelled, ?_⟩
  dsimp only at atFraction atExponent
  rw [atWhole, atFraction, atExponent] at sign
  simpa only [List.append_assoc] using sign

theorem isDigit_head {digits rest others : List Char} {c : Char} (numeric : AreDigits digits)
    (same : digits ++ rest = c :: others) : c.isDigit := by
  obtain ⟨first, more, rfl⟩ := List.exists_cons_of_ne_nil numeric.1
  cases same
  exact numeric.2 c (by simp)

theorem powerIn_digits {digits rest : List Char} (numeric : AreDigits digits) (ends : EndsDigits rest) :
    powerIn (digits ++ rest) = some ((valueOf digits : Int), rest) := by
  have read := someDigits_append numeric ends
  unfold powerIn
  split
  · next minus =>
    have digit := isDigit_head numeric minus
    contradiction
  · next plus =>
    have digit := isDigit_head numeric plus
    contradiction
  · rw [read, Option.map_some]

theorem exponentIn_spelled {power : Option Int} {cs rest : List Char} (spelled : SpelledExponent power cs)
    (stops : Stops rest) : exponentIn (cs ++ rest) = some (power, rest) := by
  have ends : EndsDigits rest := fun c head => (stops c head).1
  cases spelled with
  | absent =>
    cases rest with
    | nil => rfl
    | cons c rest =>
      have other := stops c rfl
      simp [exponentIn, other]
  | plain mark numeric => simp [exponentIn, mark, powerIn_digits numeric ends]
  | plus mark numeric => simp [exponentIn, mark, powerIn, someDigits_append numeric ends]
  | minus mark numeric => simp [exponentIn, mark, powerIn, someDigits_append numeric ends]

theorem spelledExponent_head {power : Option Int} {cs rest : List Char} (spelled : SpelledExponent power cs)
    (stops : Stops rest) :
    ∀ c, (cs ++ rest).head? = some c → c.isDigit = false ∧ c ≠ '.' := by
  intro c head
  cases spelled with
  | absent => exact ⟨(stops c head).1, (stops c head).2.1⟩
  | plain mark _ | plus mark _ | minus mark _ =>
    simp only [List.cons_append, List.head?_cons, Option.some.injEq] at head
    rcases mark with rfl | rfl <;> simp [← head]

theorem fractionIn_spelled {fraction : Option (List Char)} {rest : List Char}
    (numeric : ∀ digits, fraction = some digits → AreDigits digits)
    (ends : ∀ c, rest.head? = some c → c.isDigit = false ∧ c ≠ '.') :
    fractionIn (spellFraction fraction ++ rest) = some (fraction, rest) := by
  cases fraction with
  | some digits =>
    have read := someDigits_append (numeric digits rfl) fun c head => (ends c head).1
    simp [spellFraction, fractionIn, read]
  | none =>
    change fractionIn rest = some (none, rest)
    unfold fractionIn
    split
    · exact absurd rfl (ends '.' rfl).2
    · rfl

theorem scan_spelled {n : Numeral} {cs rest : List Char} (spelled : n.Spelled cs) (stops : Stops rest) :
    scan (cs ++ rest) = some (n, rest) := by
  cases spelled with
  | @mk power written exponent =>
  have ends := spelledExponent_head exponent stops
  have whole_ends : EndsDigits (spellFraction n.fraction ++ (power ++ rest)) := by
    intro c head
    cases decimals : n.fraction with
    | none => exact (ends c (by simpa [decimals, spellFraction] using head)).1
    | some digits =>
      simp only [decimals, spellFraction, List.cons_append, List.head?_cons, Option.some.injEq] at head
      simp [← head]
  have sign : signIn ((if n.negative then ['-'] else []) ++
      (n.whole ++ (spellFraction n.fraction ++ (power ++ rest)))) =
        (n.negative, n.whole ++ (spellFraction n.fraction ++ (power ++ rest))) := by
    cases negative : n.negative with
    | true => rfl
    | false => exact signIn_append written.whole _
  unfold scan
  simp only [List.append_assoc, sign, wholeIn_append written.whole written.unpadded whole_ends,
    fractionIn_spelled written.fraction ends, exponentIn_spelled exponent stops,
    Option.bind_eq_bind, Option.bind_some, Option.pure_def]

theorem spelledExponent_spellExponent (power : Option Int) : SpelledExponent power (spellExponent power) := by
  cases power with
  | none => exact .absent
  | some power =>
    have numeric := areDigits_toDigits power.natAbs
    have amount := valueOf_toDigits power.natAbs
    change SpelledExponent _ ('e' :: (if power < 0 then '-' else '+') :: Nat.toDigits 10 power.natAbs)
    by_cases less : power < 0
    · have minus : SpelledExponent _ ('e' :: '-' :: Nat.toDigits 10 power.natAbs) := .minus (.inl rfl) numeric
      rw [amount, ← Int.eq_neg_natAbs_of_nonpos less.le] at minus
      rwa [if_pos less]
    · have plus : SpelledExponent _ ('e' :: '+' :: Nat.toDigits 10 power.natAbs) := .plus (.inl rfl) numeric
      rw [amount, Int.natAbs_of_nonneg (by omega)] at plus
      rwa [if_neg less]

theorem spelled_spell {n : Numeral} (written : n.WellWritten) : n.Spelled n.spell := by
  have spelled := Spelled.mk written (spelledExponent_spellExponent n.exponent)
  unfold spell spellUnsigned
  cases negative : n.negative <;> simpa [negative] using spelled

theorem scan_spell {n : Numeral} (written : n.WellWritten) : scan n.spell = some (n, []) := by
  have stops : Stops [] := by simp [Stops]
  have read := scan_spelled (spelled_spell written) stops
  rwa [List.append_nil] at read

end Numeral

inductive Mark : Token → Char → Prop
  | openArray : Mark .openArray '['
  | closeArray : Mark .closeArray ']'
  | openObject : Mark .openObject '\x7b'
  | closeObject : Mark .closeObject '\x7d'
  | comma : Mark .comma ','
  | colon : Mark .colon ':'

inductive Token.Spelled : Token → List Char → Prop
  | mark {t : Token} {c : Char} : Mark t c → Spelled t [c]
  | null : Spelled .null ['n', 'u', 'l', 'l']
  | yes : Spelled (.boolean true) ['t', 'r', 'u', 'e']
  | no : Spelled (.boolean false) ['f', 'a', 'l', 's', 'e']
  | text {found : List Piece} {cs : List Char} : Quoted found cs → Spelled (.text found) cs
  | number {n : Numeral} {cs : List Char} : n.Spelled cs → Spelled (.number n) cs

theorem spelled_of_lexeme {cs rest : List Char} {t : Token} (read : lexeme cs = some (t, rest)) :
    ∃ front, t.Spelled front ∧ cs = front ++ rest := by
  fun_cases lexeme cs with
  | case10 after =>
    obtain ⟨⟨found, last⟩, step, same⟩ := Option.map_eq_some_iff.1 read
    cases same
    obtain ⟨front, spelled, rfl⟩ := unquoted_of_pieces step
    exact ⟨_, .text (.mk spelled), by simp⟩
  | case11 =>
    rw [lexeme] at read
    · obtain ⟨⟨n, last⟩, step, same⟩ := Option.map_eq_some_iff.1 read
      cases same
      obtain ⟨front, spelled, rfl⟩ := Numeral.spelled_of_scan step
      exact ⟨_, .number spelled, rfl⟩
    all_goals assumption
  | case7 =>
    cases read
    exact ⟨_, .null, rfl⟩
  | case8 =>
    cases read
    exact ⟨_, .yes, rfl⟩
  | case9 =>
    cases read
    exact ⟨_, .no, rfl⟩
  | _ =>
    cases read
    exact ⟨_, .mark (by constructor), rfl⟩

theorem numeral_head {n : Numeral} {cs : List Char} (spelled : n.Spelled cs) :
    ∃ c more, cs = c :: more ∧ (c = '-' ∨ c.isDigit = true) := by
  cases spelled with
  | mk written _ =>
    cases negative : n.negative with
    | true => exact ⟨'-', _, rfl, .inl rfl⟩
    | false =>
      obtain ⟨first, others, whole⟩ := List.exists_cons_of_ne_nil written.whole.1
      have digit := written.whole.2 first (by simp [whole])
      simp only [whole]
      exact ⟨first, _, rfl, .inr digit⟩

theorem lexeme_numeral {c : Char} (head : c = '-' ∨ c.isDigit = true) (more : List Char) :
    lexeme (c :: more) = (Numeral.scan (c :: more)).map fun (n, rest) => (.number n, rest) := by
  rw [lexeme]
  -- No other token starts with such a character.
  all_goals
    intro after same
    cases same
    simp at head

theorem lexeme_spelled {t : Token} {cs rest : List Char} (spelled : t.Spelled cs)
    (stops : ∀ n, t = .number n → Numeral.Stops rest) : lexeme (cs ++ rest) = some (t, rest) := by
  cases spelled with
  | mark mark => cases mark <;> rfl
  | text quoted =>
    cases quoted with
    | mk spelled => simp [lexeme, pieces_unquoted spelled]
  | number spelled =>
    have read := Numeral.scan_spelled spelled (stops _ rfl)
    obtain ⟨c, more, rfl, head⟩ := numeral_head spelled
    rw [List.cons_append] at read ⊢
    rw [lexeme_numeral head, read, Option.map_some]
  | _ => rfl

end XmlNames.Json
