/-! Characters of YAML and places in its text. -/
namespace Typescribe.Yaml

/-- Characters that a text may hold. -/
def isReadable (c : Char) : Bool :=
  let n := c.toNat
  c = '\t' || c = '\n' || c = '\r' || (0x20 ≤ n && n ≤ 0x7E) || n == 0x85 ||
    (0xA0 ≤ n && n != 0xFFFE && n != 0xFFFF)

/-- All line ends but the separators U+2028 and U+2029 become line feeds. -/
def normalizeBreaks : List Char → List Char
  | [] => []
  | '\r' :: '\n' :: cs => '\n' :: normalizeBreaks cs
  | c :: cs => (if c = '\r' ∨ c = '\x85' then '\n' else c) :: normalizeBreaks cs

def isBreak (c : Char) : Bool :=
  c = '\n' || c = '\u2028' || c = '\u2029'

def isBlank (c : Char) : Bool :=
  c = ' ' || c = '\t'

/-- Whether a word is over here: at a blank, a line end or the end. -/
def endsWord : List Char → Bool
  | [] => true
  | c :: _ => isBlank c || isBreak c

/-- The marker that starts a document. -/
def isStartMarker : List Char → Bool
  | '-' :: '-' :: '-' :: cs => endsWord cs
  | _ => false

/-- The marker that ends a document. -/
def isEndMarker : List Char → Bool
  | '.' :: '.' :: '.' :: cs => endsWord cs
  | _ => false

def isMarker (cs : List Char) : Bool :=
  isStartMarker cs || isEndMarker cs

/-- A place in a text: how many lines are above it, how many characters before it on its line, and
what follows. -/
structure Cursor where
  line : Nat
  column : Nat
  rest : List Char
  deriving DecidableEq, Repr

namespace Cursor

def start (cs : List Char) : Cursor := ⟨0, 0, cs⟩

/-- Steps over characters of the line. -/
def advance (p : Cursor) (count : Nat) : Cursor :=
  ⟨p.line, p.column + count, p.rest.drop count⟩

/-- What stands between two tokens is passed over: blanks, comments and line ends, and a byte order
mark where a line starts. A tab counts as a blank if `tabs` says so; in a flow mapping it always
does, elsewhere not on a new line. -/
def skip (flow tabs comment : Bool) (line column : Nat) : List Char → Cursor
  | [] => ⟨line, column, []⟩
  | c :: cs =>
    if isBreak c then skip flow flow false (line + 1) 0 cs
    else if comment || c = ' ' || (c = '\t' && tabs) || (c = '\ufeff' && column == 0) then
      skip flow tabs comment line (column + 1) cs
    else if c = '#' then skip flow tabs true line (column + 1) cs
    else ⟨line, column, c :: cs⟩

/-- The next token outside of flow mappings. -/
def next (tabs : Bool) (p : Cursor) : Cursor :=
  skip false tabs false p.line p.column p.rest

/-- The next token in a flow mapping. -/
def nextInFlow (p : Cursor) : Cursor :=
  skip true true false p.line p.column p.rest

end Cursor

end Typescribe.Yaml
