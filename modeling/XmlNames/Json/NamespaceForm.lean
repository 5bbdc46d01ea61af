import XmlNames.Decimal.Style
import XmlNames.Json.Token
import XmlNames.Namespace
import XmlNames.Text.Quoted

set_option autoImplicit false

namespace XmlNames

def Namespace.toJsonText (n : Namespace) : String :=
  let nsPrefix := match n.nsPrefix with
    | none => "null".toList
    | some text => Json.quote text
  String.ofList ("\x7b\"uri\":".toList ++ Json.quote n.uri ++ ",\"prefix\":".toList ++ nsPrefix ++ ['\x7d'])

namespace Json

inductive Found where
  | null
  | boolean (truth : Bool)
  | quantity (q : Quantity)
  | text (content : String)
  | sequence
  | map
  deriving DecidableEq, Repr

def messageStyle : Decimal.Style where
  tie := .toEven
  leastPoint := -4
  mostPoint := 16
  marksWhole := true

def shownNumber (x : Binary64) : String :=
  let body := if x.IsZero then ['0', '.', '0'] else messageStyle.write x.magnitude
  String.ofList (if x.negative then '-' :: body else body)

def Found.describe : Found → String
  | null => "null"
  | boolean truth => "boolean `" ++ (if truth then "true" else "false") ++ "`"
  | quantity (.integer n) => "integer `" ++ toString n ++ "`"
  | quantity (.floating x) => "floating point `" ++ shownNumber x ++ "`"
  | text content => "string " ++ Text.quoted content
  | sequence => "sequence"
  | map => "map"

inductive Expected where
  | text
  | record
  deriving DecidableEq, Repr

def Expected.describe : Expected → String
  | text => "a string"
  | record => "struct RawNamespace"

inductive Key where
  | uri
  | nsPrefix
  deriving DecidableEq, Repr

def Key.label : Key → String
  | uri => "uri"
  | nsPrefix => "prefix"

inductive Misfit where
  | missingUri
  | duplicate (key : Key)
  | wrongType (found : Found) (expected : Expected)
  | emptyArray
  | illegalPrefix (e : IllegalPrefix)
  deriving DecidableEq, Repr

def Misfit.message : Misfit → String
  | missingUri => "missing field `uri`"
  | duplicate key => "duplicate field `" ++ key.label ++ "`"
  | wrongType found expected => "invalid type: " ++ found.describe ++ ", expected " ++ expected.describe
  | emptyArray => "invalid length 0, expected " ++ Expected.record.describe ++ " with 2 elements"
  | illegalPrefix e => e.message

inductive ReadError where
  | malformed
  | misfit (reason : Misfit)
  deriving DecidableEq, Repr

def Token.found? : Token → Option Found
  | null => some .null
  | boolean truth => some (.boolean truth)
  | number n => n.quantity?.map .quantity
  | text found => (content? found).map .text
  | openArray => some .sequence
  | openObject => some .map
  | _ => none

def refusal (expected : Expected) (ts : List Token) : ReadError :=
  match ts.head?.bind Token.found? with
  | some found => .misfit (.wrongType found expected)
  | none => .malformed

def readText : List Token → Except ReadError (String × List Token)
  | .text found :: rest =>
    match content? found with
    | some content => .ok (content, rest)
    | none => .error .malformed
  | ts => .error (refusal .text ts)

def readOptionalText : List Token → Except ReadError (Option String × List Token)
  | .null :: rest => .ok (none, rest)
  | ts => do
    let (content, rest) ← readText ts
    return (some content, rest)

structure Draft where
  uri : Option String
  nsPrefix : Option (Option String)
  deriving DecidableEq, Repr

def readColon : List Token → Except ReadError (List Token)
  | .colon :: rest => .ok rest
  | _ => .error .malformed

-- One member, behind its key. That the key comes again counts before anything behind it.
def Draft.readMember (draft : Draft) (key : String) (ts : List Token) :
    Except ReadError (Draft × List Token) :=
  match key with
  | "uri" =>
    if draft.uri.isSome then .error (.misfit (.duplicate .uri))
    else do
      let (content, rest) ← readText (← readColon ts)
      return ({ draft with uri := some content }, rest)
  | "prefix" =>
    if draft.nsPrefix.isSome then .error (.misfit (.duplicate .nsPrefix))
    else do
      let (content, rest) ← readOptionalText (← readColon ts)
      return ({ draft with nsPrefix := some content }, rest)
  | _ => do
    match skip (← readColon ts) with
    | some rest => .ok (draft, rest)
    | none => .error .malformed

-- Members up to the closing brace, at least one. Fuel bounds their number.
def Draft.readMembers : Nat → Draft → List Token → Except ReadError (Draft × List Token)
  | fuel + 1, draft, .text found :: ts =>
    match content? found with
    | none => .error .malformed
    | some key => do
      match ← draft.readMember key ts with
      | (draft, .comma :: rest) => readMembers fuel draft rest
      | (draft, .closeObject :: rest) => .ok (draft, rest)
      | _ => .error .malformed
  | _, _, _ => .error .malformed

structure Form where
  uri : String
  nsPrefix : Option String
  rest : List Token
  deriving DecidableEq, Repr

def readObject : List Token → Except ReadError Form
  | .closeObject :: _ => .error (.misfit .missingUri)
  | ts => do
    let (draft, rest) ← Draft.readMembers ts.length ⟨none, none⟩ ts
    match draft.uri with
    | some uri => return ⟨uri, draft.nsPrefix.join, rest⟩
    | none => .error (.misfit .missingUri)

def readArray : List Token → Except ReadError Form
  | .closeArray :: _ => .error (.misfit .emptyArray)
  | ts => do
    match ← readText ts with
    | (uri, .closeArray :: rest) => return ⟨uri, none, rest⟩
    | (uri, .comma :: rest) =>
      match ← readOptionalText rest with
      | (nsPrefix, .closeArray :: rest) => return ⟨uri, nsPrefix, rest⟩
      | _ => .error .malformed
    | _ => .error .malformed

def readForm : List Token → Except ReadError Form
  | .openObject :: rest => readObject rest
  | .openArray :: rest => readArray rest
  | ts => .error (refusal .record ts)

-- A form that makes no namespace is refused before anything behind it counts.
def Form.toNamespace (form : Form) : Except ReadError Namespace :=
  match Namespace.ofPrefixAndUri form.nsPrefix form.uri with
  | .error e => .error (.misfit (.illegalPrefix e))
  | .ok n => if form.rest.isEmpty then .ok n else .error .malformed

end Json

def Namespace.ofJsonText (source : String) : Except Json.ReadError Namespace := do
  (← Json.readForm (Json.tokens source.toList)).toNamespace

end XmlNames
