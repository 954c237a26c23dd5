import Typescribe.Text.Numeral
import Typescribe.Yaml.Plain

/-! Writing a text as the value of a key at column 0, in the least noisy style that reads back as
this text. -/
namespace Typescribe.Yaml

/-! Texts that would be taken for something else if they were plain. -/

def nullWords : List String := ["null", "Null", "NULL", "~"]

def boolWords : List (String × Bool) :=
  [("true", true), ("True", true), ("TRUE", true), ("false", false), ("False", false),
    ("FALSE", false)]

def infinityWords : List String :=
  [".inf", ".Inf", ".INF", "+.inf", "+.Inf", "+.INF", "-.inf", "-.Inf", "-.INF", ".nan", ".NaN",
    ".NAN"]

def dropSign : List Char → List Char
  | '+' :: cs => cs
  | '-' :: cs => cs
  | cs => cs

/-- Whether it is a number with a marked base that fits 128 bits. -/
def isRadixNumber (cs : List Char) : Bool :=
  let limit := if cs.head? = some '-' then Nat.pow 2 127 + 1 else Nat.pow 2 128
  match dropSign cs with
  | '0' :: mark :: digits =>
    match [('x', 16), ('o', 8), ('b', 2)].lookup mark with
    | some base => ((Text.number? base digits).map fun n => decide (n < limit)).getD false
    | none => false
  | _ => false

/-- The digits of a decimal number before and after its point, and the exponent. -/
def decimal? (cs : List Char) : Option (List Nat × List Nat × Int) :=
  let (whole, rest) := Text.spanDigits (dropSign cs)
  let (fraction, rest) :=
    match rest with
    | '.' :: rest => Text.spanDigits rest
    | rest => ([], rest)
  if whole.isEmpty && fraction.isEmpty then none else (Text.exponent? rest).map fun e =>
    (whole, fraction, e)

/-- Whether it is a decimal number in the range of doubles. The power of ten is taken only near the
end of the range. -/
def isDecimalNumber (cs : List Char) : Bool :=
  match decimal? cs with
  | none => false
  | some (whole, fraction, exponent) =>
    let digits := (whole ++ fraction).dropWhile fun d => d == 0
    let n := Text.ofDigits 10 digits
    let exponent := exponent - fraction.length
    let magnitude := digits.length + exponent
    digits.isEmpty || magnitude ≤ 308 ||
      (magnitude = 309 && n * Nat.pow 10 exponent.toNat <
        Text.doubleLimit * Nat.pow 10 (-exponent).toNat)

/-- Whether it is more than one digit from a zero on, which looks like an octal number. -/
def isZeroLed (cs : List Char) : Bool :=
  match dropSign cs with
  | '0' :: d :: ds => (d :: ds).all Char.isDigit
  | _ => false

def isAmbiguous (text : String) : Bool :=
  text.isEmpty || nullWords.contains text || (boolWords.lookup text).isSome ||
    infinityWords.contains text ||
    isRadixNumber text.toList || isZeroLed text.toList || isDecimalNumber text.toList

/-! Styles. -/

/-- Characters that are written as they are. -/
def isPrintable (c : Char) : Bool :=
  let n := c.toNat
  c = '\n' || (0x20 ≤ n && n ≤ 0x7E) || (0xA0 ≤ n && n != 0xFEFF && n != 0xFFFE && n != 0xFFFF)

/-- Whether the text starts with something other than a plain scalar. -/
def startsOther : List Char → Bool
  | '-' :: '-' :: '-' :: _ => true
  | '.' :: '.' :: '.' :: _ => true
  | c :: cs =>
    if c = '-' ∨ c = '?' ∨ c = ':' then endsWord cs else indicators.contains c
  | [] => false

/-- Whether a colon or a hash behind the first character ends a plain scalar. -/
def isCut : List Char → Bool
  | [] => false
  | c :: cs =>
    match cs with
    | [] => false
    | d :: ds => (d = ':' && endsWord ds) || (d = '#' && (isBlank c || isBreak c)) || isCut cs

def isSpaceOrBreak (c : Char) : Bool :=
  c = ' ' || isBreak c

def atEdge (p : Char → Bool) (cs : List Char) : Bool :=
  (cs.head?.map p).getD false || (cs.getLast?.map p).getD false

/-- Whether a character of one kind is followed by one of the other. -/
def hasPair (p q : Char → Bool) : List Char → Bool
  | [] => false
  | c :: cs =>
    match cs with
    | [] => false
    | d :: _ => (p c && q d) || hasPair p q cs

def isSpace (c : Char) : Bool := c = ' '

/-- No style but double quotes keeps a space in front of a line end. -/
def needsDoubleQuotes (cs : List Char) : Bool :=
  !cs.all isPrintable || hasPair isSpace isBreak cs

def allowsPlain (cs : List Char) : Bool :=
  !needsDoubleQuotes cs && !cs.any isBreak && !atEdge isSpace cs && !startsOther cs && !isCut cs

def allowsSingleQuotes (cs : List Char) : Bool :=
  !needsDoubleQuotes cs && !hasPair isBreak isSpace cs

def allowsLiteral (cs : List Char) : Bool :=
  !needsDoubleQuotes cs && cs.getLast? != some ' '

def styleOf (text : String) : Style :=
  let cs := text.toList
  if cs.contains '\n' then if allowsLiteral cs then .literal else .doubleQuoted
  else if !isAmbiguous text && allowsPlain cs then .plain
  else if allowsSingleQuotes cs then .singleQuoted
  else .doubleQuoted

/-! Texts in each style. -/

/-- How far the later lines of a value are indented. -/
def margin : List Char := [' ', ' ']

/-- The margin is written only where a character follows on the line. -/
def withMargin (lineStart : Bool) : List Char → List Char
  | [] => []
  | c :: cs =>
    if isBreak c then c :: withMargin true cs
    else (if lineStart then margin else []) ++ c :: withMargin false cs

/-- The text between single quotes. -/
def singleQuotedBody (lineStart : Bool) : List Char → List Char
  | [] => if lineStart then margin else []
  | c :: cs =>
    if isBreak c then c :: singleQuotedBody true cs
    else (if lineStart then margin else []) ++ (if c = '\'' then ['\'', '\''] else [c]) ++
      singleQuotedBody false cs

/-- The letters of escapes that are written. -/
def escapeLetters : List (Char × Char) :=
  [('\x00', '0'), ('\x07', 'a'), ('\x08', 'b'), ('\t', 't'), ('\n', 'n'), ('\x0b', 'v'),
    ('\x0c', 'f'), ('\r', 'r'), ('\x1b', 'e'), ('"', '"'), ('\\', '\\'), ('\x85', 'N'),
    ('\u2028', 'L'), ('\u2029', 'P')]

def doubleQuotedChar (c : Char) : List Char :=
  match escapeLetters.lookup c with
  | some letter => ['\\', letter]
  | none =>
    if isPrintable c then [c]
    else if c.toNat ≤ 0xFF then '\\' :: 'x' :: Text.lastDigits 16 'A' 2 c.toNat
    else if c.toNat ≤ 0xFFFF then '\\' :: 'u' :: Text.lastDigits 16 'A' 4 c.toNat
    else '\\' :: 'U' :: Text.lastDigits 16 'A' 8 c.toNat

/-- A literal tells its indentation where the first character does not show it, and how its last
line ends unless that is one line end. -/
def literalHints (cs : List Char) : List Char :=
  (if (cs.head?.map isSpaceOrBreak).getD false then ['2'] else []) ++
    match cs.reverse with
    | [] => ['-']
    | last :: others =>
      if !isBreak last then ['-']
      else if others.isEmpty || (others.head?.map isBreak).getD false then ['+']
      else []

/-- The value with the end of its line. -/
def writeScalar (text : String) : List Char :=
  let cs := text.toList
  match styleOf text with
  | .singleQuoted => '\'' :: singleQuotedBody false cs ++ ['\'', '\n']
  | .doubleQuoted => '"' :: cs.flatMap doubleQuotedChar ++ ['"', '\n']
  | .literal =>
    '|' :: literalHints cs ++ '\n' :: withMargin true cs ++
      if (cs.getLast?.map isBreak).getD false then [] else ['\n']
  | _ => cs ++ ['\n']

end Typescribe.Yaml
