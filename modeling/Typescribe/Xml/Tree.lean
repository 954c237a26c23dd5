import Typescribe.Xml.Chunk
import Typescribe.Xml.Tag

/-! Documents as trees of elements and texts. -/
namespace Typescribe.Xml

inductive Node where
  | text (value : String)
  | element (name : Name) (attributes : List Attribute) (children : List Node)
  deriving Repr, Inhabited

namespace Chunk

/-- A comment has no two hyphens in a row and no hyphen at its end. -/
def isComment : List Char → Bool
  | [] => true
  | ['-'] => false
  | '-' :: '-' :: _ => false
  | _ :: cs => isComment cs

/-- An instruction starts with a name, and not with the first word of a declaration. -/
def isInstruction (cs : List Char) : Bool :=
  startsName cs && !"xml ".toList.isPrefixOf cs

/-- The end of a literal section does not occur outside of one. -/
def hasLiteralEnd : List Char → Bool
  | [] => false
  | ']' :: ']' :: '>' :: _ => true
  | _ :: cs => hasLiteralEnd cs

/-- Whether names begin with words out of a list, in its order. -/
def follow : List String → List (List Char) → Bool
  | _, [] => true
  | [], _ :: _ => false
  | word :: words, name :: names =>
    if word.toList.isPrefixOf name then follow words names else follow words (name :: names)

/-- A declaration gives the version first, then the encoding and whether the document stands alone
if it likes. -/
def isDeclaration (cs : List Char) : Bool :=
  match WrittenAttribute.readAll? (.gap false) cs with
  | some (version :: others, []) =>
    (version :: others).all (fun a => (Name.ofChars? a.name).isSome) &&
      "version".toList.isPrefixOf version.name &&
      follow ["encoding", "standalone"] (others.map WrittenAttribute.name)
  | _ => false

end Chunk

/-- An element whose end has not been read, with its children so far, the last first. -/
structure OpenElement where
  name : Name
  attributes : List Attribute
  children : List Node
  deriving Repr

namespace OpenElement

def add (e : OpenElement) (child : Node) : OpenElement :=
  { e with children := child :: e.children }

def close (e : OpenElement) : Node :=
  .element e.name e.attributes e.children.reverse

end OpenElement

/-- How far a document has been read. -/
inductive Progress where
  | before
  /-- Within elements, the innermost first. -/
  | inside (inner : OpenElement) (outer : List OpenElement)
  | after (root : Node)
  deriving Repr

namespace Progress

/-- Puts a finished element into the one around it. -/
def finish (element : Node) : List OpenElement → Progress
  | [] => .after element
  | e :: outer => .inside (e.add element) outer

def tag? (p : Progress) (tag : Tag) : Option Progress :=
  match p, tag with
  | .before, .start name attributes => some (.inside ⟨name, attributes, []⟩ [])
  | .before, .empty name attributes => some (.after (.element name attributes []))
  | .inside inner outer, .start name attributes =>
    some (.inside ⟨name, attributes, []⟩ (inner :: outer))
  | .inside inner outer, .empty name attributes =>
    some (.inside (inner.add (.element name attributes [])) outer)
  | .inside inner outer, .finish name =>
    if name = inner.name then some (finish inner.close outer) else none
  | _, _ => none

/-- Only blanks stand outside of the root. -/
def data? (p : Progress) (cs : List Char) : Option Progress :=
  match p with
  | .inside inner outer =>
    if cs.isEmpty then some p
    else if Chunk.hasLiteralEnd cs then none
    else (content? cs).map fun text => .inside (inner.add (.text text)) outer
  | _ => if cs.all isSpace then some p else none

def literal? (p : Progress) (cs : List Char) : Option Progress :=
  match p with
  | .inside inner outer => some (.inside (inner.add (.text (literalContent cs))) outer)
  | _ => none

def step? (p : Progress) : Chunk → Option Progress
  | .data cs => p.data? cs
  | .literal cs => p.literal? cs
  | .comment cs => if Chunk.isComment cs then some p else none
  | .instruction cs => if Chunk.isInstruction cs then some p else none
  | .declaration cs => if Chunk.isDeclaration cs then some p else none
  | .tag cs => (Tag.read? cs).bind p.tag?

end Progress

/-- The root of the document that the chunks make up. -/
def Node.ofChunks? (chunks : List Chunk) : Option Node :=
  match chunks.foldlM Progress.step? .before with
  | some (.after root) => some root
  | _ => none

end Typescribe.Xml
