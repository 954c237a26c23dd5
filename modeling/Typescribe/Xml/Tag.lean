import Typescribe.Xml.CharacterData

/-! Tags and their attributes. -/
namespace Typescribe.Xml

structure Attribute where
  name : Name
  value : String
  deriving DecidableEq, Repr

/-- An attribute as written. -/
structure WrittenAttribute where
  name : List Char
  value : List Char
  deriving DecidableEq, Repr

inductive Tag where
  | start (name : Name) (attributes : List Attribute)
  | finish (name : Name)
  /-- A start and an end in one. -/
  | empty (name : Name) (attributes : List Attribute)
  deriving DecidableEq, Repr

namespace WrittenAttribute

/-- How far the next attribute is read; characters that have been seen stand with the last first. -/
inductive Mode where
  /-- Between attributes; `spaced` if there is a space since the last one. -/
  | gap (spaced : Bool)
  | name (seen : List Char)
  | equals (name : List Char)
  | quote (name : List Char)
  | value (name : List Char) (quote : Char) (seen : List Char)
  deriving DecidableEq, Repr

/-- The attributes, and what is left where no attribute can start. -/
def readAll? : Mode → List Char → Option (List WrittenAttribute × List Char)
  | .gap _, [] => some ([], [])
  | _, [] => none
  | .gap spaced, c :: cs =>
    if isSpace c then readAll? (.gap true) cs
    else if spaced && isNameChar c then readAll? (.name [c]) cs
    else some ([], c :: cs)
  | .name seen, c :: cs =>
    if isNameChar c then readAll? (.name (c :: seen)) cs
    else if isSpace c then readAll? (.equals seen.reverse) cs
    else if c = '=' then readAll? (.quote seen.reverse) cs
    else none
  | .equals name, c :: cs =>
    if isSpace c then readAll? (.equals name) cs
    else if c = '=' then readAll? (.quote name) cs
    else none
  | .quote name, c :: cs =>
    if isSpace c then readAll? (.quote name) cs
    else if c = '"' ∨ c = '\'' then readAll? (.value name c []) cs
    else none
  | .value name quote seen, c :: cs =>
    if c = quote then do
      let (as, rest) ← readAll? (.gap false) cs
      return (⟨name, seen.reverse⟩ :: as, rest)
    else if c = '<' then none
    else readAll? (.value name quote (c :: seen)) cs

def attribute? (a : WrittenAttribute) : Option Attribute := do
  return ⟨← Name.ofChars? a.name, ← attributeValue? a.value⟩

end WrittenAttribute

/-- Reads a tag from what stands between its angle brackets. -/
def Tag.read? : List Char → Option Tag
  | '/' :: cs => do
    let name ← Name.ofChars? (cs.takeWhile isNameChar)
    if (cs.dropWhile isNameChar).all isSpace then some (.finish name) else none
  | cs => do
    let name ← Name.ofChars? (cs.takeWhile isNameChar)
    let (written, rest) ← WrittenAttribute.readAll? (.gap false) (cs.dropWhile isNameChar)
    let attributes ← written.mapM WrittenAttribute.attribute?
    match rest with
    | [] => some (.start name attributes)
    | ['/'] => some (.empty name attributes)
    | _ => none

end Typescribe.Xml
