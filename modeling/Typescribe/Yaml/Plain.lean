import Typescribe.Yaml.Scalar

/-! Plain scalars. -/
namespace Typescribe.Yaml

/-- Characters that mean something else where a plain scalar might start. -/
def indicators : List Char := "-?:,[]\x7b\x7d#&*!|>'\"%@`".toList

def flowIndicators : List Char := ",[]\x7b\x7d".toList

/-- A hyphen, and outside of flow mappings a question mark or a colon, may start one if a word goes
on behind it. -/
def startsPlain (flow : Bool) : List Char → Bool
  | [] => false
  | c :: cs =>
    if isBlank c || isBreak c then false
    else if c = '-' then !endsWord cs
    else if c = '?' ∨ c = ':' then !flow && !endsWord cs
    else !indicators.contains c

/-- A colon that a flow mapping does not allow within a plain scalar. -/
def isMisplacedColon : List Char → Bool
  | ':' :: c :: _ => flowIndicators.contains c || c = '?'
  | _ => false

/-- Where a plain scalar ends at a character that is neither a blank nor a line end. -/
def endsPlain (flow : Bool) (indent column : Nat) (spacing : Spacing) : List Char → Bool
  | [] => true
  | c :: cs =>
    (spacing.isBreaks && !flow && column < indent) || (column == 0 && isMarker (c :: cs)) ||
      (spacing != .nothing && c = '#') || (c = ':' && endsWord cs) ||
        (flow && flowIndicators.contains c)

/-- Reads on in a plain scalar. Its later lines start at column `indent` or behind it, and no tab
stands before that. -/
def plain (flow : Bool) (indent line column : Nat) (spacing : Spacing) (text : List Char) :
    List Char → Option Reading
  | [] => some ⟨text.reverse, spacing.isBreaks, ⟨line, column, []⟩⟩
  | c :: cs =>
    if isBreak c then plain flow indent (line + 1) 0 (spacing.lineBreak c) text cs
    else if isBlank c then
      if spacing.isBreaks && column < indent && c = '\t' then none
      else plain flow indent line (column + 1) (spacing.blank c) text cs
    else if endsPlain flow indent column spacing (c :: cs) then
      some ⟨text.reverse, spacing.isBreaks, ⟨line, column, c :: cs⟩⟩
    else if flow && isMisplacedColon (c :: cs) then none
    else plain flow indent line (column + 1) .nothing (c :: spacing.onto text) cs

def plain? (flow : Bool) (indent : Nat) (p : Cursor) : Option Reading :=
  if startsPlain flow p.rest then plain flow indent p.line p.column .nothing [] p.rest else none

end Typescribe.Yaml
