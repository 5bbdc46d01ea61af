import XmlNames.Json.Numeral
import XmlNames.Json.Quotation

set_option autoImplicit false

namespace XmlNames.Json

inductive Token where
  | openArray
  | closeArray
  | openObject
  | closeObject
  | comma
  | colon
  | null
  | boolean (truth : Bool)
  | number (n : Numeral)
  | text (found : List Piece)
  | fault
  deriving DecidableEq, Repr

def isBlank (c : Char) : Bool := c == ' ' || c == '\t' || c == '\n' || c == '\r'

def lexeme : List Char → Option (Token × List Char)
  | '[' :: rest => some (.openArray, rest)
  | ']' :: rest => some (.closeArray, rest)
  | '\x7b' :: rest => some (.openObject, rest)
  | '\x7d' :: rest => some (.closeObject, rest)
  | ',' :: rest => some (.comma, rest)
  | ':' :: rest => some (.colon, rest)
  | 'n' :: 'u' :: 'l' :: 'l' :: rest => some (.null, rest)
  | 't' :: 'r' :: 'u' :: 'e' :: rest => some (.boolean true, rest)
  | 'f' :: 'a' :: 'l' :: 's' :: 'e' :: rest => some (.boolean false, rest)
  | '"' :: rest => (pieces rest).map fun (found, rest) => (.text found, rest)
  | cs => (Numeral.scan cs).map fun (n, rest) => (.number n, rest)

theorem lexeme_shorter {cs rest : List Char} {t : Token} (read : lexeme cs = some (t, rest)) :
    rest.length < cs.length := by
  fun_cases lexeme cs with
  | case10 after =>
    obtain ⟨⟨found, last⟩, step, same⟩ := Option.map_eq_some_iff.1 read
    have shorter := pieces_shorter step
    simp at same
    simp only [List.length_cons, ← same.2]
    omega
  | case11 =>
    rw [lexeme] at read
    · obtain ⟨⟨n, last⟩, step, same⟩ := Option.map_eq_some_iff.1 read
      have shorter := Numeral.scan_shorter step
      simp at same
      simpa only [← same.2] using shorter
    all_goals assumption
  | _ =>
    simp only [lexeme, Option.some.injEq, Prod.mk.injEq] at read
    simp only [List.length_cons, ← read.2]
    omega

def tokens (cs : List Char) : List Token :=
  match _cut : cs.dropWhile isBlank with
  | [] => []
  | c :: more =>
    match _read : lexeme (c :: more) with
    | some (t, rest) => t :: tokens rest
    | none => [.fault]
termination_by cs.length
decreasing_by
  have unblanked := (List.dropWhile_suffix isBlank (l := cs)).length_le
  have shorter := lexeme_shorter _read
  rw [_cut] at unblanked
  omega

-- Fuel bounds the depth of the calls; every two of them pass a token.
mutual

def skipValue : Nat → List Token → Option (List Token)
  | 0, _ => none
  | _ + 1, .null :: rest => some rest
  | _ + 1, .boolean _ :: rest => some rest
  | _ + 1, .number _ :: rest => some rest
  | _ + 1, .text _ :: rest => some rest
  | _ + 1, .openArray :: .closeArray :: rest => some rest
  | fuel + 1, .openArray :: rest => skipElements fuel rest
  | _ + 1, .openObject :: .closeObject :: rest => some rest
  | fuel + 1, .openObject :: rest => skipMembers fuel rest
  | _, _ => none

def skipElements : Nat → List Token → Option (List Token)
  | 0, _ => none
  | fuel + 1, ts =>
    match skipValue fuel ts with
    | some (.comma :: rest) => skipElements fuel rest
    | some (.closeArray :: rest) => some rest
    | _ => none

def skipMembers : Nat → List Token → Option (List Token)
  | fuel + 1, .text _ :: .colon :: ts =>
    match skipValue fuel ts with
    | some (.comma :: rest) => skipMembers fuel rest
    | some (.closeObject :: rest) => some rest
    | _ => none
  | _, _ => none

end

def skip (ts : List Token) : Option (List Token) := skipValue (2 * ts.length + 2) ts

end XmlNames.Json
