import Typescribe.Json.Value
import Typescribe.Text.Numeral

/-! Writing JSON text, on one line or with an indentation of two spaces. -/
namespace Typescribe.Json

/-- Only quotes, backslashes and the characters below U+0020 are escaped. -/
def escape (c : Char) : List Char :=
  if c = '"' then ['\\', '"']
  else if c = '\\' then ['\\', '\\']
  else if c = '\x08' then ['\\', 'b']
  else if c = '\t' then ['\\', 't']
  else if c = '\n' then ['\\', 'n']
  else if c = '\x0c' then ['\\', 'f']
  else if c = '\r' then ['\\', 'r']
  else if c.toNat < 0x20 then '\\' :: 'u' :: Text.lastDigits 16 'a' 4 c.toNat
  else [c]

def quote (s : String) : List Char :=
  '"' :: s.toList.flatMap escape ++ ['"']

/-- An integer, and an exponent unless it is zero. -/
def writeDecimal (n : Decimal) : List Char :=
  (toString n.significand).toList ++
    if n.exponent = 0 then [] else 'e' :: (toString n.exponent).toList

mutual

/-- One line without blanks. What has no value is written as null. -/
def write : Json → List Char
  | .null => "null".toList
  | .bool true => "true".toList
  | .bool false => "false".toList
  | .number n => writeDecimal n
  | .string s => quote s
  | .array items => '[' :: writeItems items ++ [']']
  | .object members => '\x7b' :: writeMembers members ++ ['\x7d']
  | .unvalued => "null".toList

def writeItems : List Json → List Char
  | [] => []
  | [v] => write v
  | v :: w :: vs => write v ++ ',' :: writeItems (w :: vs)

def writeMembers : List (String × Json) → List Char
  | [] => []
  | [(k, v)] => quote k ++ ':' :: write v
  | (k, v) :: m :: ms => quote k ++ ':' :: write v ++ ',' :: writeMembers (m :: ms)

end

/-- A new line with two spaces for each enclosing array or object. -/
def newLine (level : Nat) : List Char :=
  '\n' :: List.replicate (2 * level) ' '

mutual

/-- One item or member a line; an empty array or object stays on its line. -/
def writeIndented (level : Nat) : Json → List Char
  | .array [] => ['[', ']']
  | .array (v :: vs) => '[' :: writeIndentedItems (level + 1) (v :: vs) ++ newLine level ++ [']']
  | .object [] => ['\x7b', '\x7d']
  | .object (m :: ms) =>
    '\x7b' :: writeIndentedMembers (level + 1) (m :: ms) ++ newLine level ++ ['\x7d']
  | v => write v

def writeIndentedItems (level : Nat) : List Json → List Char
  | [] => []
  | [v] => newLine level ++ writeIndented level v
  | v :: w :: vs =>
    newLine level ++ writeIndented level v ++ ',' :: writeIndentedItems level (w :: vs)

def writeIndentedMembers (level : Nat) : List (String × Json) → List Char
  | [] => []
  | [(k, v)] => newLine level ++ quote k ++ ':' :: ' ' :: writeIndented level v
  | (k, v) :: m :: ms =>
    newLine level ++ quote k ++ ':' :: ' ' :: writeIndented level v ++ ',' ::
      writeIndentedMembers level (m :: ms)

end

def compact (v : Json) : String :=
  String.ofList v.write

def pretty (v : Json) : String :=
  String.ofList (v.writeIndented 0)

end Typescribe.Json
