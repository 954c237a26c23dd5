import Typescribe.Text.Lines

/-! Documentation comments. -/
namespace Typescribe.Documentation

/-- A text that ends a comment is taken apart by a backslash. -/
def protect : List Char → List Char
  | '*' :: '/' :: cs => '*' :: '\\' :: '/' :: protect cs
  | c :: cs => c :: protect cs
  | [] => []

def commentLine (line : List Char) : List Char :=
  if line.isEmpty then [' ', '*', '\n'] else ' ' :: '*' :: ' ' :: protect line ++ ['\n']

def commentLines (cs : List Char) : List Char :=
  "/**\n".toList ++ (Text.lines cs).flatMap commentLine ++ " */\n".toList

/-- The comment of a text, line by line. A blank text has none. -/
def comment? (text : String) : Option String :=
  if Text.allBlank text.toList then none else some (String.ofList (commentLines text.toList))

end Typescribe.Documentation
