import Typescribe.Text.Numeral
import Typescribe.Xml.Name

/-! Character data with references, in content and in attribute values. -/
namespace Typescribe.Xml

/-- A character as written, or one that a reference stands for. -/
inductive DataChar where
  | plain (c : Char)
  | referenced (c : Char)
  deriving DecidableEq, Repr

/-- The character with a code below `2 ^ 32`, which is U+FFFD if the code has none. -/
def characterAt? (code : Nat) : Option Char :=
  if code < Nat.pow 2 32 then
    let c := if code.isValidChar then Char.ofNat code else '\ufffd'
    if isChar c then some c else none
  else none

/-- What a reference stands for; `body` is what is written between the ampersand and the
semicolon. -/
def reference? (body : List Char) : Option Char :=
  match body with
  | '#' :: 'x' :: digits => (Text.number? 16 digits).bind characterAt?
  | '#' :: digits => (Text.number? 10 digits).bind characterAt?
  | _ =>
    [("amp", '&'), ("lt", '<'), ("gt", '>'), ("quot", '"'), ("apos", '\'')].lookup
      (String.ofList body)

/-- Resolves references; `body` holds the characters of an open one, the last first. -/
def dataChars? (body : Option (List Char)) : List Char → Option (List DataChar)
  | [] => if body.isNone then some [] else none
  | c :: cs =>
    match body with
    | none =>
      if c = '&' then dataChars? (some []) cs
      else do
        let rest ← dataChars? none cs
        return .plain c :: rest
    | some body =>
      if c = ';' then do
        let r ← reference? body.reverse
        let rest ← dataChars? none cs
        return .referenced r :: rest
      else dataChars? (some (c :: body)) cs

/-- A written tab or line end is a space, and so is a carriage return with its line feed. -/
def attributeText : List DataChar → List Char
  | [] => []
  | .referenced c :: ds => c :: attributeText ds
  | .plain c :: ds =>
    if c = '\r' ∧ ds.head? = some (.plain '\n') then attributeText ds
    else (if c = '\t' ∨ c = '\n' ∨ c = '\r' then ' ' else c) :: attributeText ds

/-- A written carriage return is a line feed, together with a line feed after it. It stays if a
reference follows, or if it stands between a reference and the end, which `afterReference` tells. -/
def contentText (afterReference : Bool) : List DataChar → List Char
  | [] => []
  | .referenced c :: ds => c :: contentText true ds
  | .plain c :: ds =>
    if c = '\r' then
      match ds with
      | [] => [if afterReference then '\r' else '\n']
      | .referenced _ :: _ => '\r' :: contentText false ds
      | .plain d :: _ => if d = '\n' then contentText false ds else '\n' :: contentText false ds
    else c :: contentText false ds

/-- The value of an attribute. -/
def attributeValue? (cs : List Char) : Option String := do
  let ds ← dataChars? none cs
  return String.ofList (attributeText ds)

/-- Content of an element. -/
def content? (cs : List Char) : Option String := do
  let ds ← dataChars? none cs
  return String.ofList (contentText false ds)

/-- Content without references. -/
def literalContent (cs : List Char) : String :=
  String.ofList (contentText false (cs.map .plain))

end Typescribe.Xml
