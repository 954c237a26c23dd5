import Typescribe.Text.Numeral
import Typescribe.Yaml.Scalar

/-! Quoted scalars, from behind the opening quote. Texts that are being read stand with the last
character first. -/
namespace Typescribe.Yaml

/-- In single quotes only the quote is written twice; `closing` says that one has been read. -/
def singleQuoted (line column : Nat) (spacing : Spacing) (closing : Bool) (text : List Char) :
    List Char → Option Reading
  | [] => if closing then some ⟨text.reverse, false, ⟨line, column, []⟩⟩ else none
  | c :: cs =>
    if closing then
      if c = '\'' then singleQuoted line (column + 1) .nothing false ('\'' :: text) cs
      else some ⟨text.reverse, false, ⟨line, column, c :: cs⟩⟩
    else if isBreak c then singleQuoted (line + 1) 0 (spacing.lineBreak c) false text cs
    else if isBlank c then singleQuoted line (column + 1) (spacing.blank c) false text cs
    else if column == 0 && isMarker (c :: cs) then none
    else if c = '\'' then singleQuoted line (column + 1) .nothing true (spacing.onto text) cs
    else singleQuoted line (column + 1) .nothing false (c :: spacing.onto text) cs

/-- The characters with an escape of one letter, by that letter. -/
def escapes : List (Char × Char) :=
  [('0', '\x00'), ('a', '\x07'), ('b', '\x08'), ('t', '\t'), ('\t', '\t'), ('n', '\n'),
    ('v', '\x0b'), ('f', '\x0c'), ('r', '\r'), ('e', '\x1b'), (' ', ' '), ('"', '"'), ('/', '/'),
    ('\\', '\\'), ('N', '\x85'), ('_', '\xa0'), ('L', '\u2028'), ('P', '\u2029')]

/-- How many digits the code of a character has, by the letter in front. -/
def codeLengths : List (Char × Nat) := [('x', 2), ('u', 4), ('U', 8)]

/-- Where in an escape the next character stands. -/
inductive Escape where
  | outside
  | letter
  /-- In a code with so many digits to come and this value so far. -/
  | code (digits value : Nat)
  deriving DecidableEq, Repr

/-- In double quotes a backslash escapes characters and line ends. -/
def doubleQuoted (line column : Nat) (spacing : Spacing) (escape : Escape) (text : List Char) :
    List Char → Option Reading
  | [] => none
  | c :: cs =>
    match escape with
    | .outside =>
      if isBreak c then doubleQuoted (line + 1) 0 (spacing.lineBreak c) .outside text cs
      else if isBlank c then doubleQuoted line (column + 1) (spacing.blank c) .outside text cs
      else if column == 0 && isMarker (c :: cs) then none
      else if c = '"' then some ⟨(spacing.onto text).reverse, false, ⟨line, column + 1, cs⟩⟩
      else if c = '\\' then doubleQuoted line (column + 1) .nothing .letter (spacing.onto text) cs
      else doubleQuoted line (column + 1) .nothing .outside (c :: spacing.onto text) cs
    | .letter =>
      if isBreak c then doubleQuoted (line + 1) 0 (.breaks none []) .outside text cs
      else
        match escapes.lookup c, codeLengths.lookup c with
        | some e, _ => doubleQuoted line (column + 1) .nothing .outside (e :: text) cs
        | none, some digits => doubleQuoted line (column + 1) .nothing (.code digits 0) text cs
        | none, none => none
    | .code digits value =>
      match Text.digit? 16 c with
      | none => none
      | some d =>
        let value := value * 16 + d
        if digits ≤ 1 then
          if value.isValidChar then doubleQuoted line (column + 1) .nothing .outside
            (Char.ofNat value :: text) cs
          else none
        else doubleQuoted line (column + 1) .nothing (.code (digits - 1) value) text cs

/-- The quoted scalar at a place where a quote stands. -/
def quoted? (p : Cursor) : Option (Style × Reading) :=
  match p.rest with
  | '\'' :: cs =>
    (singleQuoted p.line (p.column + 1) .nothing false [] cs).map fun r => (.singleQuoted, r)
  | '"' :: cs =>
    (doubleQuoted p.line (p.column + 1) .nothing .outside [] cs).map fun r => (.doubleQuoted, r)
  | _ => none

end Typescribe.Yaml
