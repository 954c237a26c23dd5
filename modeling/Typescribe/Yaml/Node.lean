import Typescribe.Dictionary
import Typescribe.Yaml.Plain
import Typescribe.Yaml.Tag

/-! Nodes: scalars with their anchors and tags, and aliases of them. -/
namespace Typescribe.Yaml

inductive Node where
  | scalar (s : Scalar)
  | alias (number : Nat)
  deriving DecidableEq, Repr

/-- Anchors are numbered by how many names there have been. A name that comes again leaves this
count as it is, so that the next new name has the same number and takes the aliases over. A mapping
is noted as `none`. -/
structure Anchors where
  numbers : Dictionary Nat
  nodes : List (Nat × Option Scalar)
  deriving Repr

namespace Anchors

def empty : Anchors := ⟨.empty, []⟩

def add (a : Anchors) (name : Option String) (node : Option Scalar) : Anchors :=
  match name with
  | some name => ⟨a.numbers.insert name a.numbers.size, (a.numbers.size, node) :: a.nodes⟩
  | none => a

/-- The scalar that a node is or stands for. -/
def resolve? (a : Anchors) : Node → Option Scalar
  | .scalar s => some s
  | .alias number => (a.nodes.lookup number).join

end Anchors

/-- What stands in front of a node. -/
structure Properties where
  anchor : Option String
  tag : Option Tag
  deriving DecidableEq, Repr

namespace Properties

def nothing : Properties := ⟨none, none⟩

def isNothing (props : Properties) : Bool :=
  props.anchor.isNone && props.tag.isNone

/-- Both together, if they do not give one thing twice. -/
def both? (a b : Properties) : Option Properties :=
  if (a.anchor.isSome && b.anchor.isSome) || (a.tag.isSome && b.tag.isSome) then none
  else some ⟨a.anchor.or b.anchor, a.tag.or b.tag⟩

end Properties

/-- The name of an anchor or an alias at the front, and the rest. -/
def anchorName? (cs : List Char) : Option (String × List Char) :=
  let rest := cs.dropWhile isWordChar
  if !(cs.takeWhile isWordChar).isEmpty &&
      (endsWord rest || (rest.head?.map "?:,]\x7d%@`".toList.contains).getD false) then
    some (String.ofList (cs.takeWhile isWordChar), rest)
  else none

/-- Goes on where `rest` starts, which is on the same line. -/
def Cursor.to (p : Cursor) (rest : List Char) : Cursor :=
  p.advance (p.rest.length - rest.length)

def startsProperty (p : Cursor) : Bool :=
  p.rest.head? = some '&' || p.rest.head? = some '!'

/-- The anchor or the tag at a place. -/
def property? (handles : Handles) (flow : Bool) (p : Cursor) : Option (Properties × Cursor) :=
  match p.rest with
  | '&' :: cs => (anchorName? cs).map fun (name, rest) => (⟨some name, none⟩, p.to rest)
  | '!' :: cs => do
    let (tag, rest) ← tag? handles ('!' :: cs)
    if endsWord rest || (flow && rest.head? = some ',') then some (⟨none, some tag⟩, p.to rest)
    else none
  | _ => none

/-- Where a node stands: in a flow mapping, or in a block mapping whose keys stand at column
`parent`. -/
structure Place where
  flow : Bool
  parent : Nat
  deriving DecidableEq, Repr

namespace Place

/-- The next token behind a property. -/
def next (place : Place) (p : Cursor) : Cursor :=
  if place.flow then p.nextInFlow else p.next true

/-- Whether a token is outside of the node. A block scalar cannot be a key, so its mark may stand at
the column of the keys. -/
def isOver (place : Place) (p : Cursor) : Bool :=
  match p.rest with
  | [] => true
  | c :: _ =>
    if place.flow then c = ',' || c = '\x7d' || c = ':'
    else p.column < place.parent || (p.column == place.parent && !isBlockMark c)

end Place

/-- Up to two properties, and the next token. -/
def properties? (handles : Handles) (place : Place) (p : Cursor) : Option (Properties × Cursor) :=
  if startsProperty p then do
    let (first, p) ← property? handles place.flow p
    let p := place.next p
    if startsProperty p && !place.isOver p then
      let (second, p) ← property? handles place.flow p
      return (← first.both? second, place.next p)
    else some (first, p)
  else some (.nothing, p)

/-- The text of a scalar. -/
def content? (place : Place) (p : Cursor) : Option (Style × Reading) :=
  match p.rest with
  | [] => none
  | c :: _ =>
    if place.flow && p.column == 0 && isMarker p.rest then none
    else if c = '\'' ∨ c = '"' then quoted? p
    else if !place.flow && isBlockMark c then block? place.parent p
    else (plain? place.flow (if place.flow then 0 else place.parent + 1) p).map fun r => (.plain, r)

/-- A node that has been read, with all anchors so far. -/
structure NodeReading where
  node : Node
  anchors : Anchors
  /-- Whether a line has ended since. -/
  fresh : Bool
  next : Cursor
  deriving Repr

/-- The node at a place where a token stands. -/
def node? (handles : Handles) (place : Place) (anchors : Anchors) (p : Cursor) :
    Option NodeReading :=
  match p.rest with
  | '*' :: cs => do
    let (name, rest) ← anchorName? cs
    return ⟨.alias (← anchors.numbers.get? name), anchors, false, p.to rest⟩
  | _ => do
    let (props, q) ← properties? handles place p
    if !props.isNothing && place.isOver q then
      let s := Scalar.absent props.tag
      return ⟨.scalar s, anchors.add props.anchor s, true, q⟩
    else
      let (style, r) ← content? place q
      let s : Scalar := ⟨String.ofList r.text, style, props.tag⟩
      return ⟨.scalar s, anchors.add props.anchor s, r.fresh, r.next⟩

namespace NodeReading

/-- The next token behind a node outside of flow mappings. -/
def after (r : NodeReading) : Cursor :=
  r.next.next !r.fresh

/-- Whether that token stands on a line of its own. -/
def isSeparate (r : NodeReading) : Bool :=
  r.fresh || r.next.line < r.after.line

end NodeReading

/-- A node that may be absent. -/
def optionalNode? (handles : Handles) (place : Place) (anchors : Anchors) (p : Cursor) :
    Option NodeReading :=
  if place.isOver p then some ⟨.scalar (.absent none), anchors, true, p⟩
  else node? handles place anchors p

end Typescribe.Yaml
