import XmlNames.Json.NamespaceForm
import XmlNames.Proofs.Json.Lexing

set_option autoImplicit false

namespace XmlNames.Json

open Doc (itemTokens memberTokens)

def Doc.head : Doc → Token
  | .null => .null
  | .boolean truth => .boolean truth
  | .number n => .number n
  | .text found => .text found
  | .array _ => .openArray
  | .object _ => .openObject

theorem Doc.tokens_eq_cons (d : Doc) : ∃ ts, d.tokens = d.head :: ts := by
  cases d with
  | array items => cases items <;> exact ⟨_, rfl⟩
  | object members =>
    cases members with
    | nil => exact ⟨_, rfl⟩
    | cons member rest => exact ⟨_, rfl⟩
  | _ => exact ⟨_, rfl⟩

theorem Doc.tokens_ne_closeArray (d : Doc) (rest more : List Token) :
    d.tokens ++ rest ≠ .closeArray :: more := by
  obtain ⟨ts, starts⟩ := d.tokens_eq_cons
  rw [starts]
  cases d <;> nofun

theorem skipValue_openArray (fuel : Nat) {ts : List Token} (open_end : ∀ rest, ts ≠ .closeArray :: rest) :
    skipValue (fuel + 1) (.openArray :: ts) = skipElements fuel ts := by
  rw [skipValue]
  exact fun rest same => open_end rest same

mutual

theorem skipValue_tokens : (d : Doc) → {fuel : Nat} → 2 * d.tokens.length ≤ fuel → (rest : List Token) →
    skipValue fuel (d.tokens ++ rest) = some rest
  | .null, fuel + 1, _, _ | .boolean _, fuel + 1, _, _ | .number _, fuel + 1, _, _
  | .text _, fuel + 1, _, _ | .array [], fuel + 1, _, _ | .object [], fuel + 1, _, _ => by
    simp [Doc.tokens, skipValue]
  | .array (first :: items), fuel + 1, enough, rest => by
    simp only [Doc.tokens, List.length_cons, List.length_append] at enough
    rw [Doc.tokens, List.cons_append, List.append_assoc,
      skipValue_openArray _ (first.tokens_ne_closeArray _)]
    exact skipElements_tokens first items (by omega) rest
  | .object ((key, first) :: members), fuel + 1, enough, rest => by
    simp only [Doc.tokens, List.length_cons, List.length_append] at enough
    simp only [Doc.tokens, List.cons_append, List.append_assoc, skipValue]
    exact skipMembers_tokens key first members (by omega) rest
  | d, 0, enough, _ => by
    obtain ⟨ts, starts⟩ := d.tokens_eq_cons
    simp [starts] at enough

theorem skipElements_tokens (first : Doc) : (items : List Doc) → {fuel : Nat} →
    2 * (first.tokens.length + (itemTokens items).length) ≤ fuel → (rest : List Token) →
    skipElements fuel (first.tokens ++ (itemTokens items ++ rest)) = some rest
  | [], fuel + 1, enough, rest => by
    simp only [itemTokens, List.length_singleton] at enough
    rw [skipElements, skipValue_tokens first (by omega)]
    rfl
  | item :: items, fuel + 1, enough, rest => by
    simp only [itemTokens, List.length_cons, List.length_append] at enough
    rw [skipElements, skipValue_tokens first (by omega)]
    simp only [itemTokens, List.cons_append, List.append_assoc]
    exact skipElements_tokens item items (by omega) rest
  | items, 0, enough, _ => by
    obtain ⟨ts, starts⟩ := first.tokens_eq_cons
    simp [starts] at enough

theorem skipMembers_tokens (key : List Piece) (first : Doc) : (members : List (List Piece × Doc)) →
    {fuel : Nat} → 2 * (first.tokens.length + (memberTokens members).length) ≤ fuel →
    (rest : List Token) →
    skipMembers fuel (.text key :: .colon :: (first.tokens ++ (memberTokens members ++ rest))) = some rest
  | [], fuel + 1, enough, rest => by
    simp only [memberTokens, List.length_singleton] at enough
    rw [skipMembers, skipValue_tokens first (by omega)]
    rfl
  | (name, value) :: members, fuel + 1, enough, rest => by
    simp only [memberTokens, List.length_cons, List.length_append] at enough
    rw [skipMembers, skipValue_tokens first (by omega)]
    simp only [memberTokens, List.cons_append, List.append_assoc]
    exact skipMembers_tokens name value members (by omega) rest
  | members, 0, enough, _ => by
    obtain ⟨ts, starts⟩ := first.tokens_eq_cons
    simp [starts] at enough

end

theorem skip_tokens (d : Doc) (rest : List Token) : skip (d.tokens ++ rest) = some rest := by
  apply skipValue_tokens
  rw [List.length_append]
  omega

mutual

theorem value_of_skipValue : {fuel : Nat} → {ts rest : List Token} → skipValue fuel ts = some rest →
    ∃ d : Doc, ts = d.tokens ++ rest
  | fuel + 1, ts, rest, skipped => by
    unfold skipValue at skipped
    split at skipped
    · simp at skipped
    · next => cases skipped; exact ⟨.null, rfl⟩
    · next truth _ _ => cases skipped; exact ⟨.boolean truth, rfl⟩
    · next n _ _ => cases skipped; exact ⟨.number n, rfl⟩
    · next found _ _ => cases skipped; exact ⟨.text found, rfl⟩
    · next => cases skipped; exact ⟨.array [], rfl⟩
    · next =>
      obtain ⟨first, items, rfl⟩ := items_of_skipElements skipped
      exact ⟨.array (first :: items), by simp [Doc.tokens]⟩
    · next => cases skipped; exact ⟨.object [], rfl⟩
    · next =>
      obtain ⟨key, first, members, rfl⟩ := members_of_skipMembers skipped
      exact ⟨.object ((key, first) :: members), by simp [Doc.tokens]⟩
    · simp at skipped

theorem items_of_skipElements : {fuel : Nat} → {ts rest : List Token} →
    skipElements fuel ts = some rest →
      ∃ (first : Doc) (items : List Doc), ts = first.tokens ++ (itemTokens items ++ rest)
  | fuel + 1, ts, rest, skipped => by
    unfold skipElements at skipped
    split at skipped
    · next after read =>
      obtain ⟨first, rfl⟩ := value_of_skipValue read
      obtain ⟨second, items, rfl⟩ := items_of_skipElements skipped
      exact ⟨first, second :: items, by simp [itemTokens]⟩
    · next after read =>
      obtain ⟨first, rfl⟩ := value_of_skipValue read
      cases skipped
      exact ⟨first, [], rfl⟩
    · simp at skipped

theorem members_of_skipMembers : {fuel : Nat} → {ts rest : List Token} →
    skipMembers fuel ts = some rest →
      ∃ (key : List Piece) (first : Doc) (members : List (List Piece × Doc)),
        ts = .text key :: .colon :: (first.tokens ++ (memberTokens members ++ rest))
  | fuel + 1, ts, rest, skipped => by
    unfold skipMembers at skipped
    split at skipped
    · next key inside same =>
      split at skipped
      · next after read =>
        obtain ⟨first, rfl⟩ := value_of_skipValue read
        obtain ⟨name, second, members, rfl⟩ := members_of_skipMembers skipped
        exact ⟨key, first, (name, second) :: members, by simp [memberTokens]⟩
      · next after read =>
        obtain ⟨first, rfl⟩ := value_of_skipValue read
        cases skipped
        exact ⟨key, first, [], rfl⟩
      · simp at skipped
    · simp at skipped

end

theorem value_of_skip {ts rest : List Token} (skipped : skip ts = some rest) :
    ∃ d : Doc, ts = d.tokens ++ rest :=
  value_of_skipValue skipped

theorem bind_eq_ok_iff {ε A B : Type} {x : Except ε A} {f : A → Except ε B} {b : B} :
    x >>= f = .ok b ↔ ∃ a, x = .ok a ∧ f a = .ok b := by
  cases x <;> simp [bind, Except.bind]

theorem map_eq_ok_iff {ε A B : Type} {x : Except ε A} {f : A → B} {b : B} :
    x.map f = .ok b ↔ ∃ a, x = .ok a ∧ f a = b := by
  cases x <;> simp [Except.map]

theorem refusal_tokens (expected : Expected) (d : Doc) (rest : List Token) :
    refusal expected (d.tokens ++ rest) = refusal expected [d.head] := by
  obtain ⟨ts, starts⟩ := d.tokens_eq_cons
  simp [refusal, starts]

namespace Doc

def asText : Doc → Except ReadError String
  | .text found =>
    match content? found with
    | some content => .ok content
    | none => .error .malformed
  | d => .error (refusal .text [d.head])

def asOptionalText : Doc → Except ReadError (Option String)
  | .null => .ok none
  | d => d.asText.map some

end Doc

theorem readText_tokens (d : Doc) (rest : List Token) :
    readText (d.tokens ++ rest) = d.asText.map (·, rest) := by
  cases d with
  | text found =>
    simp only [Doc.tokens, List.singleton_append, readText, Doc.asText]
    cases content? found <;> rfl
  | _ =>
    rw [readText, refusal_tokens]
    · rfl
    · intro found more same
      obtain ⟨ts, starts⟩ := Doc.tokens_eq_cons _
      rw [starts] at same
      cases same

theorem readOptionalText_tokens (d : Doc) (rest : List Token) :
    readOptionalText (d.tokens ++ rest) = d.asOptionalText.map (·, rest) := by
  have present (nonnull : d ≠ .null) :
      readOptionalText (d.tokens ++ rest) = (d.asText.map some).map (·, rest) := by
    rw [readOptionalText, readText_tokens]
    · cases d.asText <;> rfl
    · intro more same
      obtain ⟨ts, starts⟩ := d.tokens_eq_cons
      rw [starts] at same
      cases d with
      | null => exact nonnull rfl
      | _ => cases same
  cases d with
  | null => rfl
  | _ => exact present nofun

theorem text_of_readText {ts rest : List Token} {content : String}
    (read : readText ts = .ok (content, rest)) : ∃ d : Doc, ts = d.tokens ++ rest := by
  fun_cases readText ts with
  | case1 found after content decoded =>
    simp only [readText, decoded] at read
    cases read
    exact ⟨.text found, rfl⟩
  | case2 found after undecoded => simp [readText, undecoded] at read
  | case3 => simp_all [readText]

theorem text_of_readOptionalText {ts rest : List Token} {content : Option String}
    (read : readOptionalText ts = .ok (content, rest)) : ∃ d : Doc, ts = d.tokens ++ rest := by
  fun_cases readOptionalText ts with
  | case1 after =>
    cases read
    exact ⟨.null, rfl⟩
  | case2 =>
    rw [readOptionalText] at read
    · cases text : readText ts with
      | error e => simp [text, bind, Except.bind] at read
      | ok found =>
        simp only [text, bind, Except.bind, pure, Except.pure] at read
        cases read
        exact text_of_readText text
    · assumption

def Draft.take (draft : Draft) (key : String) (value : Doc) : Except ReadError Draft :=
  match key with
  | "uri" =>
    if draft.uri.isSome then .error (.misfit (.duplicate .uri))
    else value.asText.map fun content => { draft with uri := some content }
  | "prefix" =>
    if draft.nsPrefix.isSome then .error (.misfit (.duplicate .nsPrefix))
    else value.asOptionalText.map fun content => { draft with nsPrefix := some content }
  | _ => .ok draft

def Draft.takeAll : Draft → List (List Piece × Doc) → Except ReadError Draft
  | draft, [] => .ok draft
  | draft, (name, value) :: members =>
    match content? name with
    | none => .error .malformed
    | some key => do takeAll (← draft.take key value) members

theorem readMember_tokens (draft : Draft) (key : String) (value : Doc) (rest : List Token) :
    draft.readMember key (.colon :: (value.tokens ++ rest)) = (draft.take key value).map (·, rest) := by
  unfold Draft.readMember Draft.take
  split
  · split
    · rfl
    · simp only [readColon, readText_tokens, bind, Except.bind]
      cases value.asText <;> rfl
  · split
    · rfl
    · simp only [readColon, readOptionalText_tokens, bind, Except.bind]
      cases value.asOptionalText <;> rfl
  · simp only [readColon, bind, Except.bind, skip_tokens]
    rfl

theorem readMembers_tokens (key : List Piece) (first : Doc) (members : List (List Piece × Doc))
    {fuel : Nat} (enough : members.length < fuel) (draft : Draft) (rest : List Token) :
    draft.readMembers fuel (.text key :: .colon :: (first.tokens ++ (memberTokens members ++ rest))) =
      (draft.takeAll ((key, first) :: members)).map (·, rest) := by
  induction members generalizing key first fuel draft with
  | nil =>
    obtain ⟨fuel, rfl⟩ := Nat.exists_eq_add_of_lt enough
    simp only [Draft.readMembers, Draft.takeAll, readMember_tokens]
    cases content? key with
    | none => rfl
    | some key =>
      dsimp only
      cases draft.take key first <;> rfl
  | cons member members ih =>
    obtain ⟨name, value⟩ := member
    cases fuel with
    | zero => simp at enough
    | succ fuel =>
      have step := ih name value (by simpa using enough)
      simp only [memberTokens, List.cons_append, List.append_assoc, Draft.readMembers, readMember_tokens]
      rw [Draft.takeAll]
      cases content? key with
      | none => rfl
      | some key =>
        dsimp only
        cases draft.take key first with
        | error e => rfl
        | ok next => exact step next

theorem eq_of_readColon {ts rest : List Token} (read : readColon ts = .ok rest) : ts = .colon :: rest := by
  unfold readColon at read
  split at read
  · cases read
    rfl
  · cases read

theorem value_of_readMember {draft next : Draft} {key : String} {ts rest : List Token}
    (read : draft.readMember key ts = .ok (next, rest)) :
    ∃ value : Doc, ts = .colon :: (value.tokens ++ rest) := by
  unfold Draft.readMember at read
  split at read
  · split at read
    · cases read
    · obtain ⟨behind, colon, inner⟩ := bind_eq_ok_iff.1 read
      obtain ⟨⟨content, after⟩, text, same⟩ := bind_eq_ok_iff.1 inner
      cases same
      obtain ⟨value, rfl⟩ := text_of_readText text
      exact ⟨value, eq_of_readColon colon⟩
  · split at read
    · cases read
    · obtain ⟨behind, colon, inner⟩ := bind_eq_ok_iff.1 read
      obtain ⟨⟨content, after⟩, text, same⟩ := bind_eq_ok_iff.1 inner
      cases same
      obtain ⟨value, rfl⟩ := text_of_readOptionalText text
      exact ⟨value, eq_of_readColon colon⟩
  · obtain ⟨behind, colon, inner⟩ := bind_eq_ok_iff.1 read
    split at inner
    · next after skipped =>
      cases inner
      obtain ⟨value, rfl⟩ := value_of_skip skipped
      exact ⟨value, eq_of_readColon colon⟩
    · cases inner

theorem members_of_readMembers {fuel : Nat} {draft next : Draft} {ts rest : List Token}
    (read : draft.readMembers fuel ts = .ok (next, rest)) :
    ∃ (key : List Piece) (first : Doc) (members : List (List Piece × Doc)),
      ts = .text key :: .colon :: (first.tokens ++ (memberTokens members ++ rest)) := by
  induction fuel generalizing draft ts with
  | zero => cases read
  | succ fuel ih =>
    unfold Draft.readMembers at read
    split at read
    · next name inside same =>
      cases same
      split at read
      · cases read
      · obtain ⟨⟨draft, behind⟩, member, more⟩ := bind_eq_ok_iff.1 read
        obtain ⟨first, rfl⟩ := value_of_readMember member
        split at more
        · next found =>
          cases found
          obtain ⟨key, second, members, rfl⟩ := ih more
          exact ⟨name, first, (key, second) :: members, by simp [memberTokens]⟩
        · next found =>
          cases found
          cases more
          exact ⟨name, first, [], rfl⟩
        · cases more
    · cases read

namespace Doc

def fields : Doc → Except ReadError (String × Option String)
  | .object members => do
    let draft ← Draft.takeAll ⟨none, none⟩ members
    match draft.uri with
    | some uri => return (uri, draft.nsPrefix.join)
    | none => .error (.misfit .missingUri)
  | .array [] => .error (.misfit .emptyArray)
  | .array [first] => first.asText.map (·, none)
  | .array (first :: second :: rest) => do
    let uri ← first.asText
    let nsPrefix ← second.asOptionalText
    if rest.isEmpty then return (uri, nsPrefix) else .error .malformed
  | d => .error (refusal .record [d.head])

end Doc

theorem length_memberTokens (members : List (List Piece × Doc)) :
    members.length < (memberTokens members).length := by
  induction members with
  | nil => simp [memberTokens]
  | cons member members ih =>
    simp only [memberTokens, List.length_cons, List.length_append]
    omega

-- An array goes on behind its first text, or ends there.
theorem readArray_items (items : List Doc) (rest : List Token) :
    readForm ((Doc.array items).tokens ++ rest) =
      (Doc.array items).fields.map fun (uri, nsPrefix) => ⟨uri, nsPrefix, rest⟩ := by
  cases items with
  | nil => rfl
  | cons first items =>
    have opened : readForm ((Doc.array (first :: items)).tokens ++ rest) =
        readArray (first.tokens ++ (itemTokens items ++ rest)) := by
      simp [Doc.tokens, readForm]
    rw [opened, readArray, readText_tokens]
    · cases items with
      | nil =>
        simp only [Doc.fields]
        cases first.asText <;> rfl
      | cons second more =>
        simp only [Doc.fields]
        cases first.asText with
        | error e => rfl
        | ok uri =>
          simp only [itemTokens, List.cons_append, List.append_assoc, Except.map, bind, Except.bind]
          rw [readOptionalText_tokens]
          cases second.asOptionalText with
          | error e => rfl
          | ok nsPrefix => cases more <;> rfl
    · exact fun more => first.tokens_ne_closeArray _ more

theorem readForm_tokens (d : Doc) (rest : List Token) :
    readForm (d.tokens ++ rest) = d.fields.map fun (uri, nsPrefix) => ⟨uri, nsPrefix, rest⟩ := by
  cases d with
  | array items => exact readArray_items items rest
  | object members =>
    cases members with
    | nil => rfl
    | cons member members =>
      obtain ⟨key, first⟩ := member
      have opened : readForm ((Doc.object ((key, first) :: members)).tokens ++ rest) =
          readObject (.text key :: .colon :: (first.tokens ++ (memberTokens members ++ rest))) := by
        simp [Doc.tokens, readForm]
      rw [opened, readObject, readMembers_tokens]
      · simp only [Doc.fields]
        cases Draft.takeAll ⟨none, none⟩ ((key, first) :: members) with
        | error e => rfl
        | ok draft =>
          obtain ⟨uri, nsPrefix⟩ := draft
          cases uri <;> rfl
      · have bound := length_memberTokens members
        simp only [List.length_cons, List.length_append]
        omega
      · intro more same
        cases same
  | _ => rfl

theorem value_of_readForm {ts : List Token} {form : Form} (read : readForm ts = .ok form) :
    ∃ d : Doc, ts = d.tokens ++ form.rest := by
  unfold readForm at read
  split at read
  · next inside =>
    unfold readObject at read
    split at read
    · cases read
    · obtain ⟨⟨draft, behind⟩, members, complete⟩ := bind_eq_ok_iff.1 read
      obtain ⟨key, first, others, rfl⟩ := members_of_readMembers members
      dsimp only at complete
      split at complete
      · cases complete
        exact ⟨.object ((key, first) :: others), by simp [Doc.tokens]⟩
      · cases complete
  · next inside =>
    unfold readArray at read
    split at read
    · cases read
    · obtain ⟨⟨uri, behind⟩, text, more⟩ := bind_eq_ok_iff.1 read
      obtain ⟨first, rfl⟩ := text_of_readText text
      split at more
      · next found =>
        cases found
        cases more
        exact ⟨.array [first], by simp [Doc.tokens, itemTokens]⟩
      · next found =>
        cases found
        obtain ⟨⟨nsPrefix, last⟩, optional, close⟩ := bind_eq_ok_iff.1 more
        obtain ⟨second, rfl⟩ := text_of_readOptionalText optional
        split at close
        · next found =>
          cases found
          cases close
          exact ⟨.array [first, second], by simp [Doc.tokens, itemTokens]⟩
        · cases close
      · cases more
  · cases read

end XmlNames.Json
