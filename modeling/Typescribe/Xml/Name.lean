/-! Characters and qualified names of XML. -/
namespace Typescribe.Xml

/-- Characters that a document may hold. -/
def isChar (c : Char) : Bool :=
  let n := c.toNat
  n == 0x9 || n == 0xA || n == 0xD || (0x20 ≤ n && n != 0xFFFE && n != 0xFFFF)

def isSpace (c : Char) : Bool :=
  c = ' ' || c = '\t' || c = '\n' || c = '\r'

def isNameStart (c : Char) : Bool :=
  let n := c.toNat
  ('A' ≤ c && c ≤ 'Z') || ('a' ≤ c && c ≤ 'z') || c = ':' || c = '_' || (0xC0 ≤ n && n ≤ 0xD6) ||
    (0xD8 ≤ n && n ≤ 0xF6) || (0xF8 ≤ n && n ≤ 0x2FF) || (0x370 ≤ n && n ≤ 0x37D) ||
      (0x37F ≤ n && n ≤ 0x1FFF) ||
    (0x200C ≤ n && n ≤ 0x200D) || (0x2070 ≤ n && n ≤ 0x218F) || (0x2C00 ≤ n && n ≤ 0x2FEF) ||
    (0x3001 ≤ n && n ≤ 0xD7FF) || (0xF900 ≤ n && n ≤ 0xFDCF) || (0xFDF0 ≤ n && n ≤ 0xFFFD) ||
    (0x10000 ≤ n && n ≤ 0xEFFFF)

def isNameChar (c : Char) : Bool :=
  let n := c.toNat
  isNameStart c || ('0' ≤ c && c ≤ '9') || c = '-' || c = '.' || n == 0xB7 ||
    (0x300 ≤ n && n ≤ 0x36F) ||
    (0x203F ≤ n && n ≤ 0x2040)

/-- A name with the qualifier before its colon, empty if there is none. -/
structure Name where
  qualifier : String
  simple : String
  deriving DecidableEq, Repr, Inhabited

def startsName : List Char → Bool
  | c :: _ => isNameStart c
  | [] => false

/-- Reads a name from its characters, which are all name characters. -/
def Name.ofChars? (cs : List Char) : Option Name :=
  match cs.splitOn ':' with
  | [simple] => if startsName simple then some ⟨"", String.ofList simple⟩ else none
  | [qualifier, simple] =>
    if (qualifier.isEmpty || startsName qualifier) && startsName simple then
      some ⟨String.ofList qualifier, String.ofList simple⟩
    else none
  | _ => none

end Typescribe.Xml
