set_option autoImplicit false

namespace XmlNames

def isPrefixStart (c : Char) : Bool :=
  c.isAlpha || c == '_'

def isPrefixPart (c : Char) : Bool :=
  c.isAlphanum || c == '_' || c == '-' || c == '.'

-- The empty text is no valid prefix; who accepts the empty prefix asks for it first.
def isValidPrefix (text : String) : Bool :=
  match text.toList with
  | [] => false
  | first :: rest => isPrefixStart first && rest.all isPrefixPart

@[simp] theorem isValidPrefix_empty : isValidPrefix "" = false := by
  simp [isValidPrefix]

end XmlNames
