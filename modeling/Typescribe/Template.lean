import Typescribe.Dictionary
import Typescribe.Error
import Typescribe.Text.Blank

/-! Named texts with placeholders. A placeholder is an ASCII identifier between double braces, with
blanks around it if one likes; all placeholders are replaced at once, and what replaces them is not
looked at again. -/
namespace Typescribe

namespace Template

def isNameStart (c : Char) : Bool :=
  ('A' ≤ c && c ≤ 'Z') || ('a' ≤ c && c ≤ 'z') || c = '_'

def isNameChar (c : Char) : Bool :=
  isNameStart c || ('0' ≤ c && c ≤ '9')

/-- The name at the front, and the rest. -/
def name? : List Char → Option (List Char × List Char)
  | [] => none
  | c :: cs =>
    if isNameStart c then some (c :: cs.takeWhile isNameChar, cs.dropWhile isNameChar) else none

/-- The placeholder at the front: its name and what follows it. -/
def placeholder? : List Char → Option (List Char × List Char)
  | '\x7b' :: '\x7b' :: cs => do
    let (name, cs) ← name? (cs.dropWhile Text.isBlank)
    match cs.dropWhile Text.isBlank with
    | '\x7d' :: '\x7d' :: rest => some (name, rest)
    | _ => none
  | _ => none

inductive Piece where
  | literal (c : Char)
  | hole (name : String)
  deriving DecidableEq, Repr

/-- The pieces of what follows the next `skip` characters. -/
def piecesAfter (skip : Nat) : List Char → List Piece
  | [] => []
  | c :: cs =>
    match skip with
    | n + 1 => piecesAfter n cs
    | 0 =>
      match placeholder? (c :: cs) with
      | some (name, rest) => .hole (String.ofList name) :: piecesAfter (cs.length - rest.length) cs
      | none => .literal c :: piecesAfter 0 cs

/-- The leftmost placeholders and the characters between them. -/
def pieces (cs : List Char) : List Piece :=
  piecesAfter 0 cs

/-- A placeholder without substitution becomes empty. -/
def Piece.fill (substitutions : String → Option String) : Piece → List Char
  | .literal c => [c]
  | .hole name => ((substitutions name).getD "").toList

def fill (text : String) (substitutions : String → Option String) : String :=
  String.ofList ((pieces text.toList).flatMap (Piece.fill substitutions))

end Template

/-- Template texts by name. -/
abbrev Templates := Dictionary String

namespace Templates

/-- The template of a whole declaration. -/
def declarationName : String := "ClassDefinition"

/-- The template of one property. -/
def propertyName : String := "PropertyDefinition"

/-- TypeScript interfaces. -/
def standard : Templates :=
  Dictionary.ofList [
    (declarationName,
      "\x7b\x7bDocumentation\x7d\x7dexport interface \x7b\x7bClassDeclaration\x7d\x7d \x7b\n" ++
        "\x7b\x7bProperties\x7d\x7d\n\x7d\n"),
    (propertyName,
      "\x7b\x7bDocumentation\x7d\x7d\x7b\x7bPropertyName\x7d\x7d: \x7b\x7bPropertyType\x7d\x7d;")]

def fill (templates : Templates) (name : String) (substitutions : Dictionary String) :
    Except Error String :=
  match templates.get? name with
  | some text => .ok (Template.fill text substitutions.get?)
  | none => .error (.missingTemplate name)

end Templates

end Typescribe
