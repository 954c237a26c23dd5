import Typescribe.Text.Split

/-! What a run asks of the files around it. -/
namespace Typescribe

/-- A name in a directory: a text, or octets that are no text. -/
inductive FileName where
  | text (s : String)
  | octets (list : List UInt8) (no_text : String.fromUTF8? ⟨list.toArray⟩ = none)
  deriving DecidableEq, Repr

namespace FileName

instance : Coe String FileName := ⟨.text⟩

/-- The name that octets spell. -/
def ofOctets (list : List UInt8) : FileName :=
  match h : String.fromUTF8? ⟨list.toArray⟩ with
  | some s => .text s
  | none => .octets list h

def text? : FileName → Option String
  | .text s => some s
  | .octets _ _ => none

/-- The octet of a dot. -/
def dot : UInt8 := 0x2E

/-- The stem and the extension, cut at the last dot. A name has no extension without a dot behind
another character. -/
def cut? : FileName → Option (FileName × FileName)
  | .text s =>
    match Text.splitLast '.' s.toList with
    | some (stem, extension) =>
      if stem.isEmpty then none
      else some (.text (String.ofList stem), .text (String.ofList extension))
    | none => none
  | .octets list _ =>
    match Text.splitLast dot list with
    | some (stem, extension) =>
      if stem.isEmpty then none else some (ofOctets stem, ofOctets extension)
    | none => none

end FileName

/-- Access to files by the text of their paths. A request that cannot be met answers `none` or
`false`. -/
structure FileSystem (m : Type → Type) where
  /-- The text of a file, if it is one. -/
  readText : String → m (Option String)
  /-- The names in a directory. -/
  list : String → m (Option (List FileName))
  /-- Makes a directory and those above it, where they are missing. -/
  createDirectories : String → m Bool
  /-- Puts a text in a file, in place of what it holds. -/
  writeText : String → String → m Bool

namespace FileSystem

/-- The path of a name in a directory. -/
def join (directory name : String) : String :=
  if directory.isEmpty || directory.toList.getLast? = some '/' then directory ++ name
  else directory ++ "/" ++ name

end FileSystem

end Typescribe
