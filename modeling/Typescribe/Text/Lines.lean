import Typescribe.Text.Blank

/-! Texts as lines. -/
namespace Typescribe.Text

/-- The parts between line feeds, one more than there are line feeds. -/
def splitLines (cs : List Char) : List (List Char) :=
  cs.splitOn '\n'

def joinLines (lines : List (List Char)) : List Char :=
  ['\n'].intercalate lines

/-- Drops one carriage return at the end. -/
def dropReturn : List Char → List Char
  | [] => []
  | ['\r'] => []
  | c :: cs => c :: dropReturn cs

/-- The lines as a reader counts them: a line ends with a line feed or a carriage return and a line
feed, and nothing after the last line feed is no line. -/
def lines (cs : List Char) : List (List Char) :=
  let parts := splitLines cs
  let last := parts.getLastD []
  parts.dropLast.map dropReturn ++ if last.isEmpty then [] else [last]

/-- Puts `indent` in front of every line that is not blank, and empties the blank ones. -/
def indentLines (indent cs : List Char) : List Char :=
  joinLines ((splitLines cs).map fun line => if allBlank line then [] else indent ++ line)

def indented (indent s : String) : String :=
  String.ofList (indentLines indent.toList s.toList)

end Typescribe.Text
