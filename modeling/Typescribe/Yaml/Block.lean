import Typescribe.Yaml.Scalar

/-! Block scalars. -/
namespace Typescribe.Yaml

/-- What becomes of the line ends behind the last line. -/
inductive Chomping where
  | strip
  | clip
  | keep
  deriving DecidableEq, Repr

def isBlockMark (c : Char) : Bool :=
  c = '|' || c = '>'

structure BlockHeader where
  style : Style
  chomping : Chomping
  /-- By how much the text is indented, if that is told. -/
  increment : Option Nat
  deriving DecidableEq, Repr

namespace BlockHeader

def chomping? : List Char → Option (Chomping × List Char)
  | '+' :: cs => some (.keep, cs)
  | '-' :: cs => some (.strip, cs)
  | _ => none

/-- A digit other than zero. -/
def increment? : List Char → Option (Nat × List Char)
  | c :: cs => if '1' ≤ c ∧ c ≤ '9' then some (c.toNat - '0'.toNat, cs) else none
  | [] => none

/-- Chomping and increment stand in either order. -/
def hints (cs : List Char) : Chomping × Option Nat × List Char :=
  match chomping? cs with
  | some (chomping, cs) =>
    match increment? cs with
    | some (n, cs) => (chomping, some n, cs)
    | none => (chomping, none, cs)
  | none =>
    match increment? cs with
    | some (n, cs) =>
      match chomping? cs with
      | some (chomping, cs) => (chomping, some n, cs)
      | none => (.clip, some n, cs)
    | none => (.clip, none, cs)

/-- What follows a header: nothing but blanks and a comment up to the line end, which is passed
over. -/
def afterLine? (cs : List Char) : Option (List Char) :=
  let cs := cs.dropWhile isBlank
  let cs := if cs.head? = some '#' then cs.dropWhile fun c => !isBreak c else cs
  match cs with
  | [] => some []
  | c :: cs => if isBreak c then some cs else none

/-- The header at the front, and the text from the next line on. -/
def read? : List Char → Option (BlockHeader × List Char)
  | [] => none
  | c :: cs => do
    let style ← [('|', Style.literal), ('>', Style.folded)].lookup c
    let (chomping, increment, cs) := hints cs
    let cs ← afterLine? cs
    return (⟨style, chomping, increment⟩, cs)

end BlockHeader

/-- The column of the first character that is not a space, or the greatest column of the blank lines
above it if that is greater. A tab may not stand before it. -/
def detectIndent? (deepest column : Nat) : List Char → Option Nat
  | [] => some (max deepest column)
  | c :: cs =>
    if c = ' ' then detectIndent? deepest (column + 1) cs
    else if isBreak c then detectIndent? (max deepest column) 0 cs
    else if c = '\t' then none
    else some (max deepest column)

/-- A block scalar that is being read; the last character comes first. -/
structure BlockText where
  text : List Char
  /-- The end of the last line, if it is over. -/
  lineEnd : Option Char
  /-- The ends of empty lines since. -/
  emptyEnds : List Char
  /-- Whether the last line starts with a blank. -/
  blankStart : Bool
  deriving DecidableEq, Repr

namespace BlockText

def empty : BlockText := ⟨[], none, [], false⟩

/-- Line ends between two lines: folding makes a space of a single line feed and drops the first of
several, unless one of the lines starts with a blank. -/
def joined (folded : Bool) (t : BlockText) (blankStart : Bool) : List Char :=
  if folded && t.lineEnd = some '\n' && !t.blankStart && !blankStart then
    if t.emptyEnds.isEmpty then ' ' :: t.text else t.emptyEnds ++ t.text
  else t.emptyEnds ++ (t.lineEnd.toList ++ t.text)

def startLine (folded : Bool) (t : BlockText) (blankStart : Bool) : BlockText :=
  ⟨t.joined folded blankStart, none, [], blankStart⟩

def push (t : BlockText) (c : Char) : BlockText :=
  { t with text := c :: t.text }

def chomped (t : BlockText) : Chomping → List Char
  | .strip => t.text.reverse
  | .clip => (t.lineEnd.toList ++ t.text).reverse
  | .keep => (t.emptyEnds ++ (t.lineEnd.toList ++ t.text)).reverse

end BlockText

/-- Reads lines that are indented to column `indent`; `inLine` behind the indentation of one. -/
def blockLines (folded : Bool) (indent line column : Nat) (inLine : Bool) (t : BlockText) :
    List Char → Option (BlockText × Cursor)
  | [] => some (t, ⟨line, column, []⟩)
  | c :: cs =>
    if isBreak c then
      blockLines folded indent (line + 1) 0 false
        (if inLine then { t with lineEnd := some c }
          else { t with emptyEnds := c :: t.emptyEnds }) cs
    else if inLine then blockLines folded indent line (column + 1) true (t.push c) cs
    else if column < indent then
      if c = ' ' then blockLines folded indent line (column + 1) false t cs
      else if c = '\t' then none
      else some (t, ⟨line, column, c :: cs⟩)
    else
      blockLines folded indent line (column + 1) true ((t.startLine folded (isBlank c)).push c) cs

/-- The block scalar at a place, within a mapping whose keys stand at column `parent`. -/
def block? (parent : Nat) (p : Cursor) : Option (Style × Reading) := do
  let (header, cs) ← BlockHeader.read? p.rest
  let indent ←
    match header.increment with
    | some n => some (parent + n)
    | none => (detectIndent? 0 0 cs).map fun column => max column (parent + 1)
  let (t, next) ← blockLines (header.style = .folded) indent (p.line + 1) 0 false .empty cs
  return (header.style, ⟨t.chomped header.chomping, true, next⟩)

end Typescribe.Yaml
