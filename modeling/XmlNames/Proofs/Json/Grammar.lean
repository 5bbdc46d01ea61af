import XmlNames.Json.Token
import XmlNames.Proofs.Json.Numerals
import XmlNames.Proofs.Json.Quotation

set_option autoImplicit false

namespace XmlNames.Json

def Blanks (cs : List Char) : Prop := ∀ c ∈ cs, c = ' ' ∨ c = '\t' ∨ c = '\n' ∨ c = '\r'

inductive Structural (c : Char) : List Char → Prop
  | mk {before after : List Char} : Blanks before → Blanks after → Structural c (before ++ c :: after)

def shortEscapes : List (Char × Char) :=
  [('"', '"'), ('\\', '\\'), ('/', '/'), ('b', '\x08'), ('f', '\x0c'), ('n', '\n'), ('r', '\r'), ('t', '\t')]

def HexDigit (value : Nat) (c : Char) : Prop :=
  "0123456789abcdef".toList[value]? = some c ∨ "0123456789ABCDEF".toList[value]? = some c

inductive Piece.Spelled : Piece → List Char → Prop
  | plain {c : Char} : 0x20 ≤ c.toNat → c ≠ '"' → c ≠ '\\' → Spelled (.char c) [c]
  | short {letter c : Char} : (letter, c) ∈ shortEscapes → Spelled (.char c) ['\\', letter]
  | unit {w x y z : Nat} {a b c d : Char} : HexDigit w a → HexDigit x b → HexDigit y c → HexDigit z d →
    Spelled (.unit (((w * 16 + x) * 16 + y) * 16 + z)) ['\\', 'u', a, b, c, d]

inductive Unquoted : List Piece → List Char → Prop
  | nil : Unquoted [] []
  | cons {piece : Piece} {more : List Piece} {cs ds : List Char} :
    piece.Spelled cs → Unquoted more ds → Unquoted (piece :: more) (cs ++ ds)

inductive Quoted (found : List Piece) : List Char → Prop
  | mk {cs : List Char} : Unquoted found cs → Quoted found ('"' :: cs ++ ['"'])

namespace Numeral

inductive SpelledExponent : Option Int → List Char → Prop
  | absent : SpelledExponent none []
  | plain {mark : Char} {digits : List Char} : mark = 'e' ∨ mark = 'E' → AreDigits digits →
    SpelledExponent (some (valueOf digits)) (mark :: digits)
  | plus {mark : Char} {digits : List Char} : mark = 'e' ∨ mark = 'E' → AreDigits digits →
    SpelledExponent (some (valueOf digits)) (mark :: '+' :: digits)
  | minus {mark : Char} {digits : List Char} : mark = 'e' ∨ mark = 'E' → AreDigits digits →
    SpelledExponent (some (-valueOf digits)) (mark :: '-' :: digits)

inductive Spelled (n : Numeral) : List Char → Prop
  | mk {power : List Char} : n.WellWritten → SpelledExponent n.exponent power →
    Spelled n ((if n.negative then ['-'] else []) ++ (n.whole ++ (spellFraction n.fraction ++ power)))

end Numeral

inductive Doc where
  | null
  | boolean (truth : Bool)
  | number (n : Numeral)
  | text (found : List Piece)
  | array (items : List Doc)
  -- Members in their order, of which several may have one name.
  | object (members : List (List Piece × Doc))

namespace Doc

mutual

inductive Spelled : Doc → List Char → Prop
  | null : Spelled .null ['n', 'u', 'l', 'l']
  | yes : Spelled (.boolean true) ['t', 'r', 'u', 'e']
  | no : Spelled (.boolean false) ['f', 'a', 'l', 's', 'e']
  | number {n : Numeral} {cs : List Char} : n.Spelled cs → Spelled (.number n) cs
  | text {found : List Piece} {cs : List Char} : Quoted found cs → Spelled (.text found) cs
  | emptyArray {opened closed : List Char} :
    Structural '[' opened → Structural ']' closed → Spelled (.array []) (opened ++ closed)
  | array {first : Doc} {rest : List Doc} {opened cs ds closed : List Char} :
    Structural '[' opened → Spelled first cs → SpelledItems rest ds → Structural ']' closed →
    Spelled (.array (first :: rest)) (opened ++ (cs ++ (ds ++ closed)))
  | emptyObject {opened closed : List Char} :
    Structural '\x7b' opened → Structural '\x7d' closed → Spelled (.object []) (opened ++ closed)
  | object {key : List Piece} {first : Doc} {rest : List (List Piece × Doc)}
    {opened name colon cs ds closed : List Char} :
    Structural '\x7b' opened → Quoted key name → Structural ':' colon → Spelled first cs →
    SpelledMembers rest ds → Structural '\x7d' closed →
    Spelled (.object ((key, first) :: rest)) (opened ++ (name ++ (colon ++ (cs ++ (ds ++ closed)))))

inductive SpelledItems : List Doc → List Char → Prop
  | nil : SpelledItems [] []
  | cons {item : Doc} {rest : List Doc} {comma cs ds : List Char} :
    Structural ',' comma → Spelled item cs → SpelledItems rest ds →
    SpelledItems (item :: rest) (comma ++ (cs ++ ds))

inductive SpelledMembers : List (List Piece × Doc) → List Char → Prop
  | nil : SpelledMembers [] []
  | cons {key : List Piece} {value : Doc} {rest : List (List Piece × Doc)}
    {comma name colon cs ds : List Char} :
    Structural ',' comma → Quoted key name → Structural ':' colon → Spelled value cs →
    SpelledMembers rest ds →
    SpelledMembers ((key, value) :: rest) (comma ++ (name ++ (colon ++ (cs ++ ds))))

end

inductive IsTextOf (d : Doc) : List Char → Prop
  | mk {before cs after : List Char} : Blanks before → d.Spelled cs → Blanks after →
    IsTextOf d (before ++ (cs ++ after))

end Doc

-- Code units that are surrogates stand for a character in pairs only.
inductive DecodesTo : List Piece → List Char → Prop
  | nil : DecodesTo [] []
  | char {c : Char} {more : List Piece} {cs : List Char} :
    DecodesTo more cs → DecodesTo (.char c :: more) (c :: cs)
  | unit {n : Nat} {more : List Piece} {cs : List Char} : ¬(0xd800 ≤ n ∧ n < 0xe000) →
    DecodesTo more cs → DecodesTo (.unit n :: more) (Char.ofNat n :: cs)
  | pair {high low : Nat} {more : List Piece} {cs : List Char} :
    0xd800 ≤ high → high < 0xdc00 → 0xdc00 ≤ low → low < 0xe000 → DecodesTo more cs →
    DecodesTo (.unit high :: .unit low :: more)
      (Char.ofNat (0x10000 + (high - 0xd800) * 0x400 + (low - 0xdc00)) :: cs)

def Decodes (found : List Piece) (content : String) : Prop := DecodesTo found content.toList

theorem decodesTo_iff {found : List Piece} {cs : List Char} :
    DecodesTo found cs ↔ join found = some cs := by
  constructor
  · intro decodes
    induction decodes with
    | nil => rfl
    | char _ ih => simp [join, ih]
    | @unit n more cs single _ ih =>
      have high : isHighSurrogate n = false := by simp [isHighSurrogate]; omega
      have low : isLowSurrogate n = false := by simp [isLowSurrogate]; omega
      rw [join_unit high low, ih, Option.map_some]
    | pair a b c d _ ih => simp [join, isHighSurrogate, isLowSurrogate, a, b, c, d, ih, ofSurrogates]
  · intro joined
    fun_induction join found generalizing cs with
    | case1 => cases joined; exact .nil
    | case2 c rest ih =>
      obtain ⟨ds, step, rfl⟩ := Option.map_eq_some_iff.1 joined
      exact .char (ih step)
    | case3 high low rest both ih =>
      obtain ⟨ds, step, rfl⟩ := Option.map_eq_some_iff.1 joined
      simp [isHighSurrogate, isLowSurrogate] at both
      exact .pair both.1.1 both.1.2 both.2.1 both.2.2 (ih step)
    | case4 => simp at joined
    | case5 high low rest _ alone ih =>
      obtain ⟨ds, step, rfl⟩ := Option.map_eq_some_iff.1 joined
      simp [isHighSurrogate, isLowSurrogate] at alone
      exact .unit (by omega) (ih step)
    | case6 => simp at joined
    | case7 n rest _ alone ih =>
      obtain ⟨ds, step, rfl⟩ := Option.map_eq_some_iff.1 joined
      simp [isHighSurrogate, isLowSurrogate] at alone
      exact .unit (by omega) (ih step)

theorem decodes_iff {found : List Piece} {content : String} :
    Decodes found content ↔ content? found = some content := by
  rw [Decodes, decodesTo_iff, content?, Option.map_eq_some_iff]
  constructor
  · intro joined
    exact ⟨_, joined, String.ofList_toList⟩
  · rintro ⟨cs, joined, rfl⟩
    simpa using joined

instance (found : List Piece) (content : String) : Decidable (Decodes found content) :=
  decidable_of_iff _ decodes_iff.symm

end XmlNames.Json
