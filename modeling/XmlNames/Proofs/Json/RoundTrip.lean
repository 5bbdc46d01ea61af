import XmlNames.Json.NamespaceForm
import XmlNames.Proofs.Json.Lexing
import XmlNames.Proofs.Namespace.Reachable

set_option autoImplicit false

namespace XmlNames

namespace Json

theorem hexDigit_digitChar {value : Nat} (digit : value < 16) : HexDigit value value.digitChar := by
  left
  interval_cases value <;> rfl

theorem escape_spelled (c : Char) : (pieceOf c).Spelled (escape c) := by
  fun_cases escape c with
  | case1 special => rcases special with rfl | rfl <;> exact .short (by decide)
  | case2 | case3 | case4 | case5 | case6 =>
    subst_vars
    exact .short (by decide)
  | case7 _ b f n r t control =>
    -- The other controls are written as code units.
    have hex : isHexEscaped c = true := by simp [isHexEscaped, control, b, f, n, r, t]
    have high := hexDigit_digitChar (show c.toNat / 16 < 16 by omega)
    have low := hexDigit_digitChar (show c.toNat % 16 < 16 by omega)
    have zero : HexDigit 0 '0' := .inl rfl
    have amount : ((0 * 16 + 0) * 16 + c.toNat / 16) * 16 + c.toNat % 16 = c.toNat := by omega
    have unit := Piece.Spelled.unit zero zero high low
    rw [pieceOf, if_pos hex]
    rwa [amount] at unit
  | case8 special _ _ _ _ _ visible =>
    have plain : isHexEscaped c = false := by simp [isHexEscaped, visible]
    rw [not_or] at special
    simpa [pieceOf, plain] using .plain (by omega) special.1 special.2

theorem unquoted_escape (cs : List Char) : Unquoted (cs.map pieceOf) (cs.flatMap escape) := by
  induction cs with
  | nil => exact .nil
  | cons c cs ih => exact .cons (escape_spelled c) ih

theorem quoted_quote (text : String) : Quoted (spelled text) (quote text) :=
  .mk (unquoted_escape text.toList)

def quoteOptional : Option String → List Char
  | none => "null".toList
  | some text => quote text

def optionalToken : Option String → Token
  | none => .null
  | some text => .text (spelled text)

theorem tokens_quoteOptional (text : Option String) (rest : List Char) :
    tokens (quoteOptional text ++ rest) = optionalToken text :: tokens rest := by
  cases text with
  | none => exact tokens_spelled .null nofun
  | some text => exact tokens_quoted (quoted_quote text) rest

theorem toJsonText_eq (n : Namespace) :
    n.toJsonText = String.ofList ("\x7b\"uri\":".toList ++ quote n.uri ++ ",\"prefix\":".toList ++
      quoteOptional n.nsPrefix ++ ['\x7d']) := by
  obtain ⟨uri, nsPrefix⟩ := n
  cases nsPrefix <;> rfl

theorem toList_toJsonText (n : Namespace) :
    n.toJsonText.toList = '\x7b' :: (quote "uri" ++ ':' :: (quote n.uri ++
      ',' :: (quote "prefix" ++ ':' :: (quoteOptional n.nsPrefix ++ ['\x7d'])))) := by
  have uriKey : "\x7b\"uri\":".toList = '\x7b' :: quote "uri" ++ [':'] := by rfl
  have prefixKey : ",\"prefix\":".toList = ',' :: quote "prefix" ++ [':'] := by rfl
  rw [toJsonText_eq, String.toList_ofList, uriKey, prefixKey]
  simp only [List.append_assoc, List.cons_append, List.nil_append]

theorem tokens_toJsonText (n : Namespace) :
    tokens n.toJsonText.toList =
      [.openObject, .text (spelled "uri"), .colon, .text (spelled n.uri), .comma,
        .text (spelled "prefix"), .colon, optionalToken n.nsPrefix, .closeObject] := by
  rw [toList_toJsonText, tokens_mark .openObject, tokens_quoted (quoted_quote _), tokens_mark .colon,
    tokens_quoted (quoted_quote _), tokens_mark .comma, tokens_quoted (quoted_quote _),
    tokens_mark .colon, tokens_quoteOptional, tokens_mark .closeObject, tokens_nil]

theorem readForm_written (uri : String) (nsPrefix : Option String) (rest : List Token) :
    readForm (.openObject :: .text (spelled "uri") :: .colon :: .text (spelled uri) :: .comma ::
      .text (spelled "prefix") :: .colon :: optionalToken nsPrefix :: .closeObject :: rest) =
      .ok ⟨uri, nsPrefix, rest⟩ := by
  cases nsPrefix <;>
  simp [readForm, readObject, Draft.readMembers, Draft.readMember, readColon, readText,
    readOptionalText, optionalToken, bind, Except.bind, pure, Except.pure]

end Json

namespace Namespace

theorem readForm_toJsonText (n : Namespace) :
    Json.readForm (Json.tokens n.toJsonText.toList) = .ok ⟨n.uri, n.nsPrefix, []⟩ := by
  rw [Json.tokens_toJsonText, Json.readForm_written]

theorem toJsonText_injective : Function.Injective toJsonText := by
  intro a b same
  have read := readForm_toJsonText a
  rw [same, readForm_toJsonText b] at read
  cases a
  cases b
  simp_all

theorem ofJsonText_toJsonText_iff {n : Namespace} :
    ofJsonText n.toJsonText = .ok n ↔ n.WellFormed := by
  rw [← ofPrefixAndUri_fields, ofJsonText, readForm_toJsonText]
  change Json.Form.toNamespace ⟨n.uri, n.nsPrefix, []⟩ = _ ↔ _
  cases made : ofPrefixAndUri n.nsPrefix n.uri <;> simp [Json.Form.toNamespace, made]

theorem json_round_trip (n m : Namespace) :
    (Script.Reachable n ↔ ofJsonText n.toJsonText = .ok n) ∧
      (n.toJsonText = m.toJsonText ↔ n = m) ∧
      ((∃ source, ofJsonText source = .ok n) ↔ ofJsonText n.toJsonText = .ok n) := by
  refine ⟨?_, toJsonText_injective.eq_iff, ?_⟩
  · rw [ofJsonText_toJsonText_iff]
    exact ⟨Script.Reachable.wellFormed, Script.reachable_of_wellFormed⟩
  · constructor
    · rintro ⟨source, read⟩
      exact ofJsonText_toJsonText_iff.2 (ofJsonText_wellFormed read)
    · exact fun read => ⟨_, read⟩

example : (⟨"a\"b\x00", none⟩ : Namespace).toJsonText =
    "\x7b\"uri\":\"a\\\"b\\u0000\",\"prefix\":null\x7d" := by rfl

end Namespace

end XmlNames
