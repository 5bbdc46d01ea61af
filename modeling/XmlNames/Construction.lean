import XmlNames.Logged
import XmlNames.Value

set_option autoImplicit false

namespace XmlNames.Namespace

def fromUri (uri : Value) : Namespace := ofUri uri.toText

def fromPrefixAndUri (candidate uri : Value) : Except IllegalPrefix Namespace :=
  ofPrefixAndUri (if candidate.isAbsent then none else some candidate.toText) uri.toText

def ofSingle : Value → Namespace
  | .ns n => n
  | value => ofUri value.uriText

-- A prefix that cannot be kept is dropped and reported.
def ofPair (candidate uri : Value) : Logged Namespace :=
  let text := candidate.toText
  if text = "" then pure ⟨uri.uriText, some ""⟩
  else if uri.uriText ≠ "" ∧ isValidPrefix text = true then pure ⟨uri.uriText, some text⟩
  else do
    Logged.report (.prefixDropped text uri.uriText)
    pure ⟨uri.uriText, none⟩

def ofArguments : List Value → Logged Namespace
  | [] => pure publicNs
  | [value] => pure (ofSingle value)
  | candidate :: uri :: _ =>
    if candidate.isAbsent then pure (ofSingle uri) else ofPair candidate uri

def construct (args : List Value) : Logged Namespace := do
  let result ← ofArguments args
  Logged.report (.constructed args.length result)
  return result

section

variable {candidate other uri uri' : Value}

theorem fromUri_congr (texts : uri.toText = uri'.toText) : fromUri uri = fromUri uri' := by
  rw [fromUri, fromUri, texts]

theorem fromPrefixAndUri_congr (absent : candidate.isAbsent = other.isAbsent)
    (candidates : candidate.toText = other.toText) (texts : uri.toText = uri'.toText) :
    fromPrefixAndUri candidate uri = fromPrefixAndUri other uri' := by
  rw [fromPrefixAndUri, fromPrefixAndUri, absent, candidates, texts]

theorem ofPair_congr (candidates : candidate.toText = other.toText) (uris : uri.uriText = uri'.uriText) :
    ofPair candidate uri = ofPair other uri' := by
  rw [ofPair, ofPair, candidates, uris]

theorem ofArguments_congr {rest rest' : List Value} (absent : candidate.isAbsent = other.isAbsent)
    (singles : candidate.isAbsent = true → ofSingle uri = ofSingle uri')
    (pairs : candidate.isAbsent = false → ofPair candidate uri = ofPair other uri') :
    ofArguments (candidate :: uri :: rest) = ofArguments (other :: uri' :: rest') := by
  rw [ofArguments, ofArguments, ← absent]
  cases held : candidate.isAbsent with
  | true => simp [singles held]
  | false => simp [pairs held]

theorem construct_congr {args others : List Value} (made : ofArguments args = ofArguments others)
    (lengths : args.length = others.length) : construct args = construct others := by
  rw [construct, construct, made, lengths]

end

end XmlNames.Namespace
