import Typescribe.Yaml.Block
import Typescribe.Yaml.Quoted

/-! Tags, their handles, and the directives in front of a document. -/
namespace Typescribe.Yaml

def isWordChar (c : Char) : Bool :=
  ('0' ≤ c && c ≤ '9') || ('A' ≤ c && c ≤ 'Z') || ('a' ≤ c && c ≤ 'z') || c = '_' || c = '-'

def isUriChar (c : Char) : Bool :=
  isWordChar c || ";/?:@&=+$.!~*'()%".toList.contains c

/-- Where a tag is written between angle brackets, and in directives, the URI has some more
characters. -/
def isVerbatimChar (c : Char) : Bool :=
  isUriChar c || ",[]".toList.contains c

/-- How many octets follow the first one of a character. -/
def followers? (octet : Nat) : Option Nat :=
  if octet < 0x80 then some 0
  else if octet / 0x20 = 6 then some 1
  else if octet / 0x10 = 14 then some 2
  else if octet / 0x08 = 30 then some 3
  else none

/-- The octets of a URI, some of which are written as a percent sign and two digits. Of a character
with several octets all are written so; `pending` tells how many are to come. -/
def octets? (pending : Nat) : List Char → Option (List UInt8)
  | [] => if pending = 0 then some [] else none
  | '%' :: a :: b :: cs => do
    let octet := (← Text.digit? 16 a) * 16 + (← Text.digit? 16 b)
    let pending ←
      if pending = 0 then followers? octet
      else if octet / 0x40 = 2 then some (pending - 1)
      else none
    return octet.toUInt8 :: (← octets? pending cs)
  | c :: cs =>
    if pending = 0 && c != '%' then do
      return c.toNat.toUInt8 :: (← octets? 0 cs)
    else none

/-- A URI at the front, which has at least one character, and the rest. What comes behind a NUL
octet does not count. -/
def uri? (isPart : Char → Bool) (cs : List Char) : Option (List UInt8 × List Char) := do
  let octets ← octets? 0 (cs.takeWhile isPart)
  if octets.isEmpty then none
  else some (octets.takeWhile fun octet => octet != 0, cs.dropWhile isPart)

/-- Octets that make up no text name nothing. -/
def Tag.ofOctets (octets : List UInt8) : Tag :=
  match String.fromUTF8? ⟨octets.toArray⟩ with
  | some s =>
    match s.toList with
    | ['!'] => .named "!"
    | '!' :: name => .named (String.ofList name)
    | _ => .global s
  | none => .global ""

/-- Handles and what they stand for. -/
abbrev Handles := List (List Char × List UInt8)

def octetsOf (s : String) : List UInt8 :=
  s.toUTF8.toList

def standardHandles : Handles :=
  [(['!'], octetsOf "!"), (['!', '!'], octetsOf "tag:yaml.org,2002:")]

/-- The tag at the front, from its exclamation mark, and the rest. -/
def tag? (handles : Handles) : List Char → Option (Tag × List Char)
  | '!' :: '<' :: cs => do
    let (uri, cs) ← uri? isVerbatimChar cs
    match cs with
    | '>' :: cs => some (Tag.ofOctets uri, cs)
    | _ => none
  | '!' :: cs =>
    let word := cs.takeWhile isWordChar
    match cs.dropWhile isWordChar with
    | '!' :: behind => do
      let (suffix, rest) ← uri? isUriChar behind
      return (Tag.ofOctets ((← handles.lookup ('!' :: word ++ ['!'])) ++ suffix), rest)
    | rest =>
      if !(cs.head?.map isUriChar).getD false then some (.named "!", rest)
      else do
        let (suffix, rest) ← uri? isUriChar cs
        if suffix.isEmpty then return (.named "!", rest)
        else return (Tag.ofOctets ((← handles.lookup ['!']) ++ suffix), rest)
  | _ => none

/-- What the directives of a document have said so far. -/
structure Directives where
  versioned : Bool
  handles : Handles
  deriving DecidableEq, Repr

namespace Directives

/-- A number of at most nine digits at the front, and the rest. -/
def number? (cs : List Char) : Option (Nat × List Char) :=
  match Text.spanDigits cs with
  | ([], _) => none
  | (digits, rest) => if digits.length ≤ 9 then some (Text.ofDigits 10 digits, rest) else none

/-- Versions 1.1 and 1.2 are read. -/
def version? (d : Directives) (cs : List Char) : Option (Directives × List Char) := do
  match ← number? (cs.dropWhile isBlank) with
  | (1, '.' :: cs) =>
    let (minor, cs) ← number? cs
    if !d.versioned && (minor = 1 || minor = 2) then some ({ d with versioned := true }, cs)
    else none
  | _ => none

/-- A handle is one exclamation mark, or two with a word between them if one likes. -/
def handle? : List Char → Option (List Char × List Char)
  | '!' :: cs =>
    match cs.takeWhile isWordChar, cs.dropWhile isWordChar with
    | word, '!' :: rest => some ('!' :: word ++ ['!'], rest)
    | [], rest => some (['!'], rest)
    | _, _ => none
  | _ => none

def addHandle? (d : Directives) (cs : List Char) : Option (Directives × List Char) := do
  let (handle, cs) ← handle? (cs.dropWhile isBlank)
  if (cs.head?.map isBlank).getD false && (d.handles.lookup handle).isNone then
    let (uri, cs) ← uri? isVerbatimChar (cs.dropWhile isBlank)
    if endsWord cs then some ({ d with handles := (handle, uri) :: d.handles }, cs) else none
  else none

/-- The directive behind a percent sign, and the text from the next line on. -/
def read? (d : Directives) (cs : List Char) : Option (Directives × List Char) := do
  let rest := cs.dropWhile isWordChar
  if endsWord rest then
    let (d, rest) ←
      match String.ofList (cs.takeWhile isWordChar) with
      | "YAML" => d.version? rest
      | "TAG" => d.addHandle? rest
      | _ => none
    return (d, ← BlockHeader.afterLine? rest)
  else none

/-- All directives from a place on, and the next token. -/
def readAll? (d : Directives) (p : Cursor) : Nat → Option (Directives × Cursor)
  | 0 => none
  | fuel + 1 =>
    match p.column, p.rest with
    | 0, '%' :: cs => do
      let (d, cs) ← d.read? cs
      d.readAll? (Cursor.next true ⟨p.line + 1, 0, cs⟩) fuel
    | _, _ => some (d, p)

end Directives

end Typescribe.Yaml
