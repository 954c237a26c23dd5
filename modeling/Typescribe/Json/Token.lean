import Typescribe.Json.Number

/-! Tokens of JSON text, read by a machine that takes one character at a time. -/
namespace Typescribe.Json

/-- A literal without a value carries `none`. -/
inductive Token where
  | openBrace
  | closeBrace
  | openBracket
  | closeBracket
  | comma
  | colon
  | null
  | bool (value : Bool)
  | number (value : Option Decimal)
  | string (value : Option String)
  deriving DecidableEq, Repr

namespace Token

/-- Joins surrogate pairs; an unpaired surrogate makes the text worthless. -/
def textOfUnits : List Nat → Option (List Char)
  | [] => some []
  | u :: us =>
    if 0xD800 ≤ u ∧ u < 0xDC00 then
      match us with
      | [] => none
      | v :: vs =>
        if 0xDC00 ≤ v ∧ v < 0xE000 then
          (textOfUnits vs).map (Char.ofNat (0x10000 + (u - 0xD800) * 0x400 + (v - 0xDC00)) :: ·)
        else none
    else if 0xDC00 ≤ u ∧ u < 0xE000 then none
    else (textOfUnits us).map (Char.ofNat u :: ·)

/-- What the machine is in the middle of. The parts read so far stand in reverse. -/
inductive Mode where
  | between
  | word (letters : List Char)
  | number (chars : List Char)
  | text (units : List Nat)
  | escape (units : List Nat)
  | hex (units : List Nat) (digits : List Nat)
  deriving DecidableEq, Repr

def isSpace (c : Char) : Bool :=
  c = ' ' || c = '\t' || c = '\n' || c = '\r'

def isWordChar (c : Char) : Bool :=
  'a' ≤ c && c ≤ 'z'

def isNumberChar (c : Char) : Bool :=
  ('0' ≤ c && c ≤ '9') || c = '-' || c = '+' || c = '.' || c = 'e' || c = 'E'

def ofWord (letters : List Char) : Option Token :=
  if letters = ['n', 'u', 'l', 'l'] then some .null
  else if letters = ['t', 'r', 'u', 'e'] then some (.bool true)
  else if letters = ['f', 'a', 'l', 's', 'e'] then some (.bool false)
  else none

def ofNumber (chars : List Char) : Option Token :=
  (numberLiteral? chars).map fun l => .number (if l.isFinite then some l.decimal else none)

def ofUnits (units : List Nat) : Token :=
  .string ((textOfUnits units).map String.ofList)

/-- The character that a one-letter escape stands for. -/
def escaped? (c : Char) : Option Char :=
  match c with
  | '"' => some '"'
  | '\\' => some '\\'
  | '/' => some '/'
  | 'b' => some '\x08'
  | 'f' => some '\x0c'
  | 'n' => some '\n'
  | 'r' => some '\r'
  | 't' => some '\t'
  | _ => none

/-- A character between tokens: the tokens it completes and what it begins. -/
def begin? (c : Char) : Option (List Token × Mode) :=
  if isSpace c then some ([], .between)
  else if c = '\x7b' then some ([.openBrace], .between)
  else if c = '\x7d' then some ([.closeBrace], .between)
  else if c = '[' then some ([.openBracket], .between)
  else if c = ']' then some ([.closeBracket], .between)
  else if c = ',' then some ([.comma], .between)
  else if c = ':' then some ([.colon], .between)
  else if c = '"' then some ([], .text [])
  else if isWordChar c then some ([], .word [c])
  else if isNumberChar c then some ([], .number [c])
  else none

/-- One character in any mode. -/
def step? (mode : Mode) (c : Char) : Option (List Token × Mode) :=
  match mode with
  | .between => begin? c
  | .word letters =>
    if isWordChar c then some ([], .word (c :: letters))
    else do
      let token ← ofWord letters.reverse
      let (tokens, mode) ← begin? c
      return (token :: tokens, mode)
  | .number chars =>
    if isNumberChar c then some ([], .number (c :: chars))
    else do
      let token ← ofNumber chars.reverse
      let (tokens, mode) ← begin? c
      return (token :: tokens, mode)
  | .text units =>
    if c = '"' then some ([ofUnits units.reverse], .between)
    else if c = '\\' then some ([], .escape units)
    else if c.toNat < 0x20 then none
    else some ([], .text (c.toNat :: units))
  | .escape units =>
    if c = 'u' then some ([], .hex units [])
    else (escaped? c).map fun e => ([], .text (e.toNat :: units))
  | .hex units digits => do
    let d ← Text.digit? 16 c
    match digits with
    | [x, y, z] => some ([], .text ((((z * 16 + y) * 16 + x) * 16 + d) :: units))
    | _ => some ([], .hex units (d :: digits))

/-- The tokens that the end of the text completes. -/
def finish? : Mode → Option (List Token)
  | .between => some []
  | .word letters => (ofWord letters.reverse).map fun t => [t]
  | .number chars => (ofNumber chars.reverse).map fun t => [t]
  | _ => none

def readFrom? (mode : Mode) : List Char → Option (List Token)
  | [] => finish? mode
  | c :: cs => do
    let (tokens, mode) ← step? mode c
    let rest ← readFrom? mode cs
    return tokens ++ rest

def read? (cs : List Char) : Option (List Token) :=
  readFrom? .between cs

end Token

end Typescribe.Json
