/-! Cutting a document into character data and markup. -/
namespace Typescribe.Xml

/-- A piece of a document without its delimiters. -/
inductive Chunk where
  | data (cs : List Char)
  | literal (cs : List Char)
  | comment (cs : List Char)
  | instruction (cs : List Char)
  | tag (cs : List Char)
  /-- The XML declaration, after its first word. -/
  | declaration (cs : List Char)
  deriving DecidableEq, Repr

namespace Chunk

/-- What is being read. In a tag and in the declaration a quote hides everything up to its
partner. -/
inductive Mode where
  | data
  | literal
  | comment
  | instruction
  | tag (quote : Option Char)
  | declaration (quote : Option Char)
  deriving DecidableEq, Repr

/-- The quote that is open after one more character. -/
def quoteAfter (quote : Option Char) (c : Char) : Option Char :=
  match quote with
  | none => if c = '"' ∨ c = '\'' then some c else none
  | some q => if c = q then none else some q

/-- The chunks of the rest; `seen` holds the characters of the present one, the last first. -/
def split? : Mode → List Char → List Char → Option (List Chunk)
  | .data, seen, [] => some [.data seen.reverse]
  | _, _, [] => none
  | .data, seen, '<' :: '!' :: '-' :: '-' :: cs =>
    (split? .comment [] cs).map (.data seen.reverse :: ·)
  | .data, seen, '<' :: '!' :: '[' :: 'C' :: 'D' :: 'A' :: 'T' :: 'A' :: '[' :: cs =>
    (split? .literal [] cs).map (.data seen.reverse :: ·)
  | .data, seen, '<' :: '?' :: cs => (split? .instruction [] cs).map (.data seen.reverse :: ·)
  | .data, seen, '<' :: cs => (split? (.tag none) [] cs).map (.data seen.reverse :: ·)
  | .literal, seen, ']' :: ']' :: '>' :: cs => (split? .data [] cs).map (.literal seen.reverse :: ·)
  | .comment, seen, '-' :: '-' :: '>' :: cs => (split? .data [] cs).map (.comment seen.reverse :: ·)
  | .instruction, seen, '?' :: '>' :: cs =>
    (split? .data [] cs).map (.instruction seen.reverse :: ·)
  | .tag none, seen, '>' :: cs => (split? .data [] cs).map (.tag seen.reverse :: ·)
  | .declaration none, seen, '?' :: '>' :: cs =>
    (split? .data [] cs).map (.declaration seen.reverse :: ·)
  | .tag quote, seen, c :: cs => split? (.tag (quoteAfter quote c)) (c :: seen) cs
  | .declaration quote, seen, c :: cs => split? (.declaration (quoteAfter quote c)) (c :: seen) cs
  | mode, seen, c :: cs => split? mode (c :: seen) cs

/-- The chunks of a document. Only at its very start is there a declaration. -/
def ofDocument? : List Char → Option (List Chunk)
  | '<' :: '?' :: 'x' :: 'm' :: 'l' :: ' ' :: cs => split? (.declaration none) [' '] cs
  | cs => split? .data [] cs

end Chunk

end Typescribe.Xml
