import XmlNames.NativeClass

set_option autoImplicit false

namespace XmlNames

namespace Coercion

def nameUri (name : QName) : String :=
  match name.ns with
  | some ns => ns.uri
  | none => "*::" ++ name.localName

def uriPosition : Value → String
  | .ns n => n.uri
  | .name named => nameUri named.name
  | value => value.toText

def prefixPosition : Value → String
  | .ns n => n.uri
  | .name named => named.rendering
  | value => value.toText

def ofOne : Value → Namespace
  | .ns n => n
  | .name named => .fromUri (.text (nameUri named.name))
  | value => .fromUri value

-- The emptiness of the uri is decided first; the form of the candidate matters for other uris only.
def keptPrefix (uri candidate : String) : Option String :=
  if uri = "" then
    if candidate = "" then some "" else none
  else
    if candidate = "" ∨ isValidPrefix candidate = true then some candidate else none

def ofTwo (first second : Value) : Namespace :=
  match first with
  | .undefined | .null => ofOne second
  | candidate => ⟨uriPosition second, keptPrefix (uriPosition second) (prefixPosition candidate)⟩

def ofList : List Value → Namespace
  | [] => ⟨"", some ""⟩
  | [value] => ofOne value
  | first :: second :: _ => ofTwo first second

theorem uriText_eq (value : Value) : value.uriText = uriPosition value := by
  cases value with
  | name named =>
    obtain ⟨⟨ns, localName⟩, rendering⟩ := named
    cases ns <;> rfl
  | _ => rfl

theorem toText_eq (value : Value) : value.toText = prefixPosition value := by
  cases value <;> rfl

theorem prefixPosition_ofQName (name : QName) :
    prefixPosition (.ofQName name) = match name.ns with
      | some ns => if ns.uri = "" then name.localName else ns.uri ++ "::" ++ name.localName
      | none => "*::" ++ name.localName := by
  obtain ⟨ns, localName⟩ := name
  cases ns with
  | none => rfl
  | some ns => simp [prefixPosition, Value.ofQName, QName.toObject, QName.render, Namespace.isPublic]

theorem ofSingle_eq (value : Value) : Namespace.ofSingle value = ofOne value := by
  cases value with
  | ns n => rfl
  | name named =>
    have text := uriText_eq (.name named)
    simp only [uriPosition] at text
    simp [Namespace.ofSingle, ofOne, Namespace.fromUri, Value.toText, text]
  | _ => rfl

theorem value_ofPair (candidate uri : Value) :
    (Namespace.ofPair candidate uri).value =
      ⟨uriPosition uri, keptPrefix (uriPosition uri) (prefixPosition candidate)⟩ := by
  rw [← uriText_eq, ← toText_eq]
  unfold keptPrefix
  fun_cases Namespace.ofPair candidate uri with
  | case1 text empty => simp [text, empty]
  | case2 text named kept => simp [text, kept]
  | case3 text named dropped =>
    -- A candidate is dropped for an empty uri or for its form, which are apart here.
    by_cases unnamed : uri.uriText = ""
    · simp [text, named, unnamed]
    · have invalid : ¬isValidPrefix text = true := fun valid => dropped ⟨unnamed, valid⟩
      simp [text, named, unnamed, invalid]

theorem ofTwo_eq (first second : Value) :
    ofTwo first second = if first.isAbsent then Namespace.ofSingle second
      else (Namespace.ofPair first second).value := by
  cases first with
  | undefined | null => simp [ofTwo, Value.isAbsent, ofSingle_eq]
  | _ => simp [ofTwo, Value.isAbsent, value_ofPair]

theorem value_construct (args : List Value) : (Namespace.construct args).value = ofList args := by
  change (Namespace.ofArguments args).value = ofList args
  match args with
  | [] => rfl
  | [value] => exact ofSingle_eq value
  | first :: second :: rest =>
    rw [ofList, ofTwo_eq, Namespace.ofArguments]
    split <;> rfl

theorem construct_eq_ofList (args : List Value) :
    (Namespace.construct args).value = ofList args ∧
      (namespaceClass.construct args).value = .ok (ofList args) ∧
      (namespaceClass.call args).value = .ok (ofList args) ∧
      (Namespace.construct (args.take 2)).value = (Namespace.construct args).value ∧
      ∀ name : QName, prefixPosition (.ofQName name) = match name.ns with
        | some ns => if ns.uri = "" then name.localName else ns.uri ++ "::" ++ name.localName
        | none => "*::" ++ name.localName := by
  have class_value : (namespaceClass.construct args).value = .ok (ofList args) :=
    congrArg Except.ok (value_construct args)
  refine ⟨value_construct args, class_value, class_value, ?_, prefixPosition_ofQName⟩
  rw [value_construct, value_construct]
  match args with
  | [] | [_] | _ :: _ :: _ => rfl

example : ofList [.ofQName (.inNamespace .publicNs "pre"), .ofQName (.anyNamespace "x"), .null] =
    ⟨"*::x", some "pre"⟩ := by decide

end Coercion

end XmlNames
