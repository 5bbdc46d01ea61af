import XmlNames.Json.Quotation

set_option autoImplicit false

namespace XmlNames.Json

def isHexEscaped (c : Char) : Bool :=
  c.toNat < 0x20 && c ≠ '\x08' && c ≠ '\x0c' && c ≠ '\n' && c ≠ '\r' && c ≠ '\t'

def pieceOf (c : Char) : Piece :=
  if isHexEscaped c then .unit c.toNat else .char c

def spelled (text : String) : List Piece := text.toList.map pieceOf

theorem pieces_plain {c : Char} (quote : c ≠ '"') (escape : c ≠ '\\') (visible : ¬c.toNat < 0x20)
    (cs : List Char) :
    pieces (c :: cs) = (pieces cs).map fun read => (.char c :: read.1, read.2) := by
  rw [pieces]
  · rw [if_neg visible]
    cases pieces cs <;> rfl
  all_goals simp_all

theorem join_unit {n : Nat} (high : isHighSurrogate n = false) (low : isLowSurrogate n = false)
    (more : List Piece) : join (.unit n :: more) = (join more).map (Char.ofNat n :: ·) := by
  match more with
  | [] | .char _ :: _ | .unit _ :: _ => simp [join, high, low]

theorem join_pieceOf (c : Char) (more : List Piece) :
    join (pieceOf c :: more) = (join more).map (c :: ·) := by
  unfold pieceOf
  split
  · next hex =>
    have control : c.toNat < 0x20 := by
      simp only [isHexEscaped, Bool.and_eq_true, decide_eq_true_eq] at hex
      omega
    have high : isHighSurrogate c.toNat = false := by simp [isHighSurrogate]; omega
    have low : isLowSurrogate c.toNat = false := by simp [isLowSurrogate]; omega
    rw [join_unit high low, Char.ofNat_toNat]
  · rfl

@[simp] theorem content?_spelled (text : String) : content? (spelled text) = some text := by
  have joined : join (text.toList.map pieceOf) = some text.toList := by
    induction text.toList with
    | nil => rfl
    | cons c cs ih => simp [join_pieceOf, ih]
  simp [content?, spelled, joined]

end XmlNames.Json
