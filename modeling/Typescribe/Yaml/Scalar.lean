import Typescribe.Yaml.Cursor

/-! Scalars, and how the line ends within them fold. -/
namespace Typescribe.Yaml

inductive Style where
  | plain
  | singleQuoted
  | doubleQuoted
  | literal
  | folded
  deriving DecidableEq, Repr

/-- A local tag starts with an exclamation mark, which its name leaves off unless it is all there
is. -/
inductive Tag where
  | named (name : String)
  | global (uri : String)
  deriving DecidableEq, Repr

structure Scalar where
  text : String
  style : Style
  tag : Option Tag
  deriving DecidableEq, Repr

/-- A scalar that is not written. -/
def Scalar.absent (tag : Option Tag) : Scalar := ⟨"", .plain, tag⟩

/-- What has been read of a text since its last character; the last of several comes first. -/
inductive Spacing where
  | nothing
  | blanks (cs : List Char)
  /-- The first line end, unless it is escaped, and the later ones. -/
  | breaks (first : Option Char) (others : List Char)
  deriving DecidableEq, Repr

namespace Spacing

/-- Blanks count until the line ends, and then no more. -/
def blank (s : Spacing) (c : Char) : Spacing :=
  match s with
  | .nothing => .blanks [c]
  | .blanks cs => .blanks (c :: cs)
  | .breaks first others => .breaks first others

def lineBreak (s : Spacing) (c : Char) : Spacing :=
  match s with
  | .breaks first others => .breaks first (c :: others)
  | _ => .breaks (some c) []

def isBreaks : Spacing → Bool
  | .breaks _ _ => true
  | _ => false

/-- Puts the spacing in front of a text that stands with its last character first. A single line
feed becomes a space, and of several the first one is dropped. -/
def onto (s : Spacing) (text : List Char) : List Char :=
  match s with
  | .nothing => text
  | .blanks cs => cs ++ text
  | .breaks none others => others ++ text
  | .breaks (some first) others =>
    if first = '\n' then (if others.isEmpty then ' ' :: text else others ++ text)
    else others ++ first :: text

end Spacing

/-- A text that has been read, whether a line has ended since its last character, and where to go
on. -/
structure Reading where
  text : List Char
  fresh : Bool
  next : Cursor
  deriving DecidableEq, Repr

end Typescribe.Yaml
