import XmlNames.Proofs.Json.Lexeme

set_option autoImplicit false

namespace XmlNames.Json

open Numeral (Stops)

theorem isBlank_iff {c : Char} : isBlank c = true ↔ c = ' ' ∨ c = '\t' ∨ c = '\n' ∨ c = '\r' := by
  simp [isBlank, or_assoc]

theorem tokens_eq (cs : List Char) :
    tokens cs = match cs.dropWhile isBlank with
      | [] => []
      | c :: more =>
        match lexeme (c :: more) with
        | some (t, rest) => t :: tokens rest
        | none => [.fault] := by
  rw [tokens]
  split
  · next cut => rw [cut]
  · next cut =>
    rw [cut]
    split
    · next read => simp only [read]
    · next read => simp only [read]

theorem tokens_nil : tokens [] = [] := by
  rw [tokens_eq, List.dropWhile_nil]

theorem tokens_blanks {blanks : List Char} (blank : Blanks blanks) (cs : List Char) :
    tokens (blanks ++ cs) = tokens cs := by
  have dropped : (blanks ++ cs).dropWhile isBlank = cs.dropWhile isBlank :=
    List.dropWhile_append_of_pos fun c mem => isBlank_iff.2 (blank c mem)
  rw [tokens_eq, dropped, ← tokens_eq]

theorem tokens_of_blanks {cs : List Char} (blank : Blanks cs) : tokens cs = [] := by
  have cut := tokens_blanks blank []
  rwa [List.append_nil, tokens_nil] at cut

theorem solid_of_spelled {t : Token} {cs : List Char} (spelled : t.Spelled cs) :
    ∃ c more, cs = c :: more ∧ isBlank c = false := by
  cases spelled with
  | mark mark => cases mark <;> exact ⟨_, _, rfl, rfl⟩
  | text quoted =>
    cases quoted
    exact ⟨_, _, rfl, rfl⟩
  | number spelled =>
    obtain ⟨c, more, rfl, head⟩ := numeral_head spelled
    refine ⟨c, more, rfl, ?_⟩
    by_contra blank
    rw [Bool.not_eq_false, isBlank_iff] at blank
    rcases blank with rfl | rfl | rfl | rfl <;> simp at head
  | _ => exact ⟨_, _, rfl, rfl⟩

theorem tokens_spelled {t : Token} {cs rest : List Char} (spelled : t.Spelled cs)
    (stops : ∀ n, t = .number n → Stops rest) : tokens (cs ++ rest) = t :: tokens rest := by
  have read := lexeme_spelled spelled stops
  obtain ⟨c, more, rfl, solid⟩ := solid_of_spelled spelled
  rw [List.cons_append] at read ⊢
  simp [tokens_eq (c :: (more ++ rest)), solid, read]

theorem tokens_quoted {found : List Piece} {cs : List Char} (quoted : Quoted found cs) (rest : List Char) :
    tokens (cs ++ rest) = .text found :: tokens rest :=
  tokens_spelled (.text quoted) nofun

theorem blanks_takeWhile (cs : List Char) : Blanks (cs.takeWhile isBlank) :=
  fun _ mem => isBlank_iff.1 (List.mem_takeWhile_imp mem)

theorem exists_cut {cs : List Char} {t : Token} {ts : List Token} (cut : tokens cs = t :: ts)
    (sound : t ≠ .fault) :
    ∃ blanks front rest, Blanks blanks ∧ t.Spelled front ∧ cs = blanks ++ (front ++ rest) ∧
      tokens rest = ts := by
  rw [tokens_eq] at cut
  cases solid : cs.dropWhile isBlank with
  | nil => simp [solid] at cut
  | cons c more =>
    cases read : lexeme (c :: more) with
    | none =>
      simp only [solid, read, List.cons.injEq] at cut
      exact absurd cut.1.symm sound
    | some found =>
      simp only [solid, read, List.cons.injEq] at cut
      obtain ⟨front, spelled, split_off⟩ := spelled_of_lexeme read
      refine ⟨cs.takeWhile isBlank, front, found.2, blanks_takeWhile cs, cut.1 ▸ spelled, ?_, cut.2⟩
      rw [← split_off, ← solid, List.takeWhile_append_dropWhile]

theorem blanks_of_tokens {cs : List Char} (cut : tokens cs = []) : Blanks cs := by
  rw [tokens_eq] at cut
  cases solid : cs.dropWhile isBlank with
  | nil =>
    have all := blanks_takeWhile cs
    rwa [← List.append_nil (cs.takeWhile isBlank), ← solid, List.takeWhile_append_dropWhile] at all
  | cons c more =>
    cases read : lexeme (c :: more) <;> simp [solid, read] at cut

theorem stops_structural {c : Char} {cs : List Char} (mark : Stops [c]) (structural : Structural c cs)
    (rest : List Char) : Stops (cs ++ rest) := by
  cases structural with
  | @mk before after blank _ =>
    intro d head
    cases before with
    | nil => exact mark d head
    | cons b more =>
      cases head
      rcases blank d (by simp) with rfl | rfl | rfl | rfl <;> decide

theorem tokens_mark {t : Token} {c : Char} (mark : Mark t c) (rest : List Char) :
    tokens (c :: rest) = t :: tokens rest := by
  have stops : ∀ n, t = .number n → Stops rest := by
    rintro n rfl
    cases mark
  exact tokens_spelled (.mark mark) stops

theorem tokens_structural {t : Token} {c : Char} {cs : List Char} (mark : Mark t c)
    (structural : Structural c cs) (rest : List Char) : tokens (cs ++ rest) = t :: tokens rest := by
  cases structural with
  | mk blank_before blank_after =>
    rw [List.append_assoc, tokens_blanks blank_before, List.cons_append, tokens_mark mark,
      tokens_blanks blank_after]

theorem Structural.append_blanks {c : Char} {cs blanks : List Char} (structural : Structural c cs)
    (blank : Blanks blanks) : Structural c (cs ++ blanks) := by
  cases structural with
  | mk blank_before blank_after =>
    rw [List.append_assoc, List.cons_append]
    apply Structural.mk blank_before
    intro c mem
    rcases List.mem_append.1 mem with early | late
    · exact blank_after c early
    · exact blank c late

theorem exists_structural {t : Token} {c : Char} {cs : List Char} {ts : List Token} (mark : Mark t c)
    (cut : tokens cs = t :: ts) :
    ∃ front rest, Structural c front ∧ cs = front ++ rest ∧ tokens rest = ts := by
  have sound : t ≠ .fault := by
    rintro rfl
    cases mark
  obtain ⟨blanks, front, rest, blank, spelled, rfl, behind⟩ := exists_cut cut sound
  have single : front = [c] := by
    cases mark <;> cases spelled with
    | mark other => cases other; rfl
  exact ⟨blanks ++ front, rest, single ▸ .mk blank nofun, by simp, behind⟩

namespace Doc

mutual

def tokens : Doc → List Token
  | .null => [.null]
  | .boolean truth => [.boolean truth]
  | .number n => [.number n]
  | .text found => [.text found]
  | .array [] => [.openArray, .closeArray]
  | .array (first :: rest) => .openArray :: (first.tokens ++ itemTokens rest)
  | .object [] => [.openObject, .closeObject]
  | .object ((key, first) :: rest) =>
    .openObject :: .text key :: .colon :: (first.tokens ++ memberTokens rest)

def itemTokens : List Doc → List Token
  | [] => [.closeArray]
  | item :: rest => .comma :: (item.tokens ++ itemTokens rest)

def memberTokens : List (List Piece × Doc) → List Token
  | [] => [.closeObject]
  | (key, value) :: rest => .comma :: .text key :: .colon :: (value.tokens ++ memberTokens rest)

end

theorem stops_items {items : List Doc} {cs closed : List Char} (spelled : SpelledItems items cs)
    (close : Structural ']' closed) (rest : List Char) : Stops (cs ++ (closed ++ rest)) := by
  cases spelled with
  | nil => exact stops_structural (by simp [Stops]) close rest
  | cons comma _ _ =>
    rw [List.append_assoc]
    exact stops_structural (by simp [Stops]) comma _

theorem stops_members {members : List (List Piece × Doc)} {cs closed : List Char}
    (spelled : SpelledMembers members cs) (close : Structural '\x7d' closed) (rest : List Char) :
    Stops (cs ++ (closed ++ rest)) := by
  cases spelled with
  | nil => exact stops_structural (by simp [Stops]) close rest
  | cons comma _ _ _ _ =>
    rw [List.append_assoc]
    exact stops_structural (by simp [Stops]) comma _

-- What spells a value is cut into its tokens, unless what follows makes a number of it longer.
mutual

theorem tokens_of_spelled {d : Doc} {cs rest : List Char} (stops : Stops rest) :
    d.Spelled cs → Json.tokens (cs ++ rest) = d.tokens ++ Json.tokens rest
  | .null => tokens_spelled .null nofun
  | .yes => tokens_spelled .yes nofun
  | .no => tokens_spelled .no nofun
  | .number spelled => tokens_spelled (.number spelled) fun _ _ => stops
  | .text quoted => tokens_quoted quoted rest
  | .emptyArray opened closed => by
    rw [List.append_assoc, tokens_structural .openArray opened,
      tokens_structural .closeArray closed]
    rfl
  | .array opened first items closed => by
    rw [List.append_assoc, List.append_assoc, List.append_assoc,
      tokens_structural .openArray opened,
      tokens_of_spelled (stops_items items closed rest) first, tokens_of_items items closed rest]
    simp [tokens]
  | .emptyObject opened closed => by
    rw [List.append_assoc, tokens_structural .openObject opened,
      tokens_structural .closeObject closed]
    rfl
  | .object opened name colon first members closed => by
    simp only [List.append_assoc]
    rw [tokens_structural .openObject opened, tokens_quoted name,
      tokens_structural .colon colon,
      tokens_of_spelled (stops_members members closed rest) first, tokens_of_members members closed rest]
    simp [tokens]

theorem tokens_of_items {items : List Doc} {cs closed : List Char} :
    SpelledItems items cs → Structural ']' closed → (rest : List Char) →
      Json.tokens (cs ++ (closed ++ rest)) = itemTokens items ++ Json.tokens rest
  | .nil, close, rest => tokens_structural .closeArray close rest
  | .cons comma item items, close, rest => by
    simp only [List.append_assoc]
    rw [tokens_structural .comma comma, tokens_of_spelled (stops_items items close rest) item,
      tokens_of_items items close rest]
    simp [itemTokens]

theorem tokens_of_members {members : List (List Piece × Doc)} {cs closed : List Char} :
    SpelledMembers members cs → Structural '\x7d' closed → (rest : List Char) →
      Json.tokens (cs ++ (closed ++ rest)) = memberTokens members ++ Json.tokens rest
  | .nil, close, rest => tokens_structural .closeObject close rest
  | .cons comma name colon value members, close, rest => by
    simp only [List.append_assoc]
    rw [tokens_structural .comma comma, tokens_quoted name, tokens_structural .colon colon,
      tokens_of_spelled (stops_members members close rest) value, tokens_of_members members close rest]
    simp [memberTokens]

end

theorem exists_name {key : List Piece} {cs : List Char} {ts : List Token}
    (cut : Json.tokens cs = .text key :: .colon :: ts) :
    ∃ blanks name colon rest, Blanks blanks ∧ Quoted key name ∧ Structural ':' colon ∧
      cs = blanks ++ (name ++ (colon ++ rest)) ∧ Json.tokens rest = ts := by
  obtain ⟨blanks, name, after, blank, spelled, rfl, behind⟩ := exists_cut cut nofun
  obtain ⟨colon, rest, colon_mark, rfl, last⟩ := exists_structural .colon behind
  cases spelled with
  | mark mark => cases mark
  | text quoted => exact ⟨blanks, name, colon, rest, blank, quoted, colon_mark, rfl, last⟩

-- A text whose tokens start with those of a value starts with what spells it.
mutual

theorem spelled_of_tokens : (d : Doc) → {cs : List Char} → {ts : List Token} →
    Json.tokens cs = d.tokens ++ ts →
      ∃ blanks front rest, Blanks blanks ∧ d.Spelled front ∧ cs = blanks ++ (front ++ rest) ∧
        Json.tokens rest = ts
  | .array [], _, _, cut => by
    obtain ⟨opened, inside, open_mark, rfl, inner⟩ := exists_structural .openArray cut
    obtain ⟨closed, rest, close_mark, rfl, behind⟩ := exists_structural .closeArray inner
    exact ⟨[], _, rest, nofun, .emptyArray open_mark close_mark, by simp, behind⟩
  | .array (first :: items), _, _, cut => by
    rw [tokens, List.cons_append, List.append_assoc] at cut
    obtain ⟨opened, inside, open_mark, rfl, inner⟩ := exists_structural .openArray cut
    obtain ⟨blanks, front, more, blank, spelled, rfl, others⟩ := spelled_of_tokens first inner
    obtain ⟨ds, closed, rest, spelled_others, close_mark, rfl, behind⟩ := items_of_tokens items others
    exact ⟨[], _, rest, nofun, .array (open_mark.append_blanks blank) spelled spelled_others close_mark,
      by simp, behind⟩
  | .object [], _, _, cut => by
    obtain ⟨opened, inside, open_mark, rfl, inner⟩ := exists_structural .openObject cut
    obtain ⟨closed, rest, close_mark, rfl, behind⟩ := exists_structural .closeObject inner
    exact ⟨[], _, rest, nofun, .emptyObject open_mark close_mark, by simp, behind⟩
  | .object ((key, first) :: members), _, _, cut => by
    simp only [tokens, List.cons_append, List.append_assoc] at cut
    obtain ⟨opened, inside, open_mark, rfl, inner⟩ := exists_structural .openObject cut
    obtain ⟨before, name, colon, value, blank_before, quoted, colon_mark, rfl, named⟩ := exists_name inner
    obtain ⟨blanks, front, more, blank, spelled, rfl, others⟩ := spelled_of_tokens first named
    obtain ⟨ds, closed, rest, spelled_others, close_mark, rfl, behind⟩ := members_of_tokens members others
    exact ⟨[], _, rest, nofun, .object (open_mark.append_blanks blank_before) quoted
      (colon_mark.append_blanks blank) spelled spelled_others close_mark, by simp, behind⟩
  | .null, _, _, cut => by
    obtain ⟨blanks, front, rest, blank, spelled, split_off, behind⟩ := exists_cut cut nofun
    cases spelled with
    | mark mark => cases mark
    | null => exact ⟨blanks, _, rest, blank, .null, split_off, behind⟩
  | .boolean truth, _, _, cut => by
    obtain ⟨blanks, front, rest, blank, spelled, split_off, behind⟩ := exists_cut cut nofun
    cases spelled with
    | mark mark => cases mark
    | yes => exact ⟨blanks, _, rest, blank, .yes, split_off, behind⟩
    | no => exact ⟨blanks, _, rest, blank, .no, split_off, behind⟩
  | .number n, _, _, cut => by
    obtain ⟨blanks, front, rest, blank, spelled, split_off, behind⟩ := exists_cut cut nofun
    cases spelled with
    | mark mark => cases mark
    | number spelled => exact ⟨blanks, _, rest, blank, .number spelled, split_off, behind⟩
  | .text found, _, _, cut => by
    obtain ⟨blanks, front, rest, blank, spelled, split_off, behind⟩ := exists_cut cut nofun
    cases spelled with
    | mark mark => cases mark
    | text quoted => exact ⟨blanks, _, rest, blank, .text quoted, split_off, behind⟩

theorem items_of_tokens : (items : List Doc) → {cs : List Char} → {ts : List Token} →
    Json.tokens cs = itemTokens items ++ ts →
      ∃ ds closed rest, SpelledItems items ds ∧ Structural ']' closed ∧ cs = ds ++ (closed ++ rest) ∧
        Json.tokens rest = ts
  | [], _, _, cut => by
    obtain ⟨closed, rest, close_mark, rfl, behind⟩ := exists_structural .closeArray cut
    exact ⟨[], closed, rest, .nil, close_mark, rfl, behind⟩
  | item :: items, _, _, cut => by
    rw [itemTokens, List.cons_append, List.append_assoc] at cut
    obtain ⟨comma, inside, comma_mark, rfl, inner⟩ := exists_structural .comma cut
    obtain ⟨blanks, front, more, blank, spelled, rfl, others⟩ := spelled_of_tokens item inner
    obtain ⟨ds, closed, rest, spelled_others, close_mark, rfl, behind⟩ := items_of_tokens items others
    exact ⟨_, closed, rest, .cons (comma_mark.append_blanks blank) spelled spelled_others, close_mark,
      by simp, behind⟩

theorem members_of_tokens : (members : List (List Piece × Doc)) → {cs : List Char} → {ts : List Token} →
    Json.tokens cs = memberTokens members ++ ts →
      ∃ ds closed rest, SpelledMembers members ds ∧ Structural '\x7d' closed ∧
        cs = ds ++ (closed ++ rest) ∧ Json.tokens rest = ts
  | [], _, _, cut => by
    obtain ⟨closed, rest, close_mark, rfl, behind⟩ := exists_structural .closeObject cut
    exact ⟨[], closed, rest, .nil, close_mark, rfl, behind⟩
  | (key, value) :: members, _, _, cut => by
    simp only [memberTokens, List.cons_append, List.append_assoc] at cut
    obtain ⟨comma, inside, comma_mark, rfl, inner⟩ := exists_structural .comma cut
    obtain ⟨before, name, colon, text, blank_before, quoted, colon_mark, rfl, named⟩ := exists_name inner
    obtain ⟨blanks, front, more, blank, spelled, rfl, others⟩ := spelled_of_tokens value named
    obtain ⟨ds, closed, rest, spelled_others, close_mark, rfl, behind⟩ := members_of_tokens members others
    exact ⟨_, closed, rest, .cons (comma_mark.append_blanks blank_before) quoted
      (colon_mark.append_blanks blank) spelled spelled_others, close_mark, by simp, behind⟩

end

theorem tokens_eq_iff {d : Doc} {cs : List Char} : Json.tokens cs = d.tokens ↔ d.IsTextOf cs := by
  constructor
  · intro cut
    rw [← List.append_nil d.tokens] at cut
    obtain ⟨blanks, front, rest, blank, spelled, rfl, behind⟩ := spelled_of_tokens d cut
    exact .mk blank spelled (blanks_of_tokens behind)
  · intro text
    cases text with
    | @mk before front after blank_before spelled blank_after =>
    have stops : Stops after := by
      intro c head
      cases after with
      | nil => simp at head
      | cons b more =>
        cases head
        rcases blank_after c (by simp) with rfl | rfl | rfl | rfl <;> decide
    rw [tokens_blanks blank_before, tokens_of_spelled stops spelled, tokens_of_blanks blank_after,
      List.append_nil]

end Doc

end XmlNames.Json
