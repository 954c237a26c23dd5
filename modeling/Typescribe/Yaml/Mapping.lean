import Typescribe.Yaml.Node

/-! Documents that hold one mapping from scalars to scalars. Anything nested is refused. -/
namespace Typescribe.Yaml

abbrev Entry := Node × Node

/-- How far behind its start a key is found by the colon after it, which must stand on the same
line. -/
def maxKeyLength : Nat := 1024

def isKeyEnd (key colon : Cursor) : Bool :=
  colon.line == key.line && colon.column ≤ key.column + maxKeyLength

/-- An entry with the anchors so far and the next token. -/
structure EntryReading where
  entry : Entry
  anchors : Anchors
  /-- Whether the next token stands on a line of its own. -/
  separate : Bool
  next : Cursor
  deriving Repr

/-- Whether a mark that is a word of its own stands here. -/
def isWord (mark : Char) : List Char → Bool
  | c :: cs => c = mark && endsWord cs
  | [] => false

/-- The value behind a colon. -/
def blockValue? (handles : Handles) (column : Nat) (key : NodeReading) (tabs : Bool) (p : Cursor) :
    Option EntryReading := do
  let value ← optionalNode? handles ⟨false, column⟩ key.anchors (p.next tabs)
  return ⟨(key.node, value.node), value.anchors, value.isSeparate, value.after⟩

/-- An entry of a block mapping: a key with a colon on its line, or a question mark with the key
behind it and then perhaps a colon below it. -/
def blockEntry? (handles : Handles) (anchors : Anchors) (p : Cursor) : Option EntryReading := do
  let place : Place := ⟨false, p.column⟩
  if isWord '?' p.rest then
    let q := (p.advance 1).next false
    if place.isOver q then none
    else
      let key ← node? handles place anchors q
      let q := key.after
      if key.isSeparate && q.column = p.column && isWord ':' q.rest then
        blockValue? handles p.column key false (q.advance 1)
      else some ⟨(key.node, .scalar (.absent none)), key.anchors, key.isSeparate, q⟩
  else
    let key ← node? handles place anchors p
    let q := key.next.next true
    if isKeyEnd p q && isWord ':' q.rest then blockValue? handles p.column key true (q.advance 1)
    else none

/-- Whether the document is over. -/
def isDocumentOver (p : Cursor) : Bool :=
  p.rest.isEmpty || (p.column == 0 && isMarker p.rest)

/-- The entries of a block mapping, all on lines of their own and at the column of the first, and
the next token. -/
def blockEntries? (handles : Handles) (anchors : Anchors) (p : Cursor) :
    Nat → Option (List Entry × Anchors × Cursor)
  | 0 => none
  | fuel + 1 => do
    let r ← blockEntry? handles anchors p
    if isDocumentOver r.next then some ([r.entry], r.anchors, r.next)
    else if r.separate && r.next.column = p.column then
      let (entries, anchors, next) ← blockEntries? handles r.anchors r.next fuel
      return (r.entry :: entries, anchors, next)
    else none

/-- The value behind a colon in a flow mapping. -/
def flowValue? (handles : Handles) (key : NodeReading) (p : Cursor) : Option EntryReading := do
  let value ← optionalNode? handles ⟨true, 0⟩ key.anchors p.nextInFlow
  return ⟨(key.node, value.node), value.anchors, false, value.next.nextInFlow⟩

/-- An entry of a flow mapping: a key, which may stand behind a question mark, and perhaps a colon
and a value. -/
def flowEntry? (handles : Handles) (anchors : Anchors) (p : Cursor) : Option EntryReading := do
  let explicit := p.rest.head? = some '?'
  let key ← node? handles ⟨true, 0⟩ anchors (if explicit then (p.advance 1).nextInFlow else p)
  let q := key.next.nextInFlow
  if q.rest.head? = some ':' then
    if explicit || isKeyEnd p q then flowValue? handles key (q.advance 1) else none
  else some ⟨(key.node, .scalar (.absent none)), key.anchors, false, q⟩

/-- The entries of a flow mapping from behind its brace or a comma, and what follows it. -/
def flowEntries? (handles : Handles) (anchors : Anchors) (p : Cursor) :
    Nat → Option (List Entry × Anchors × Cursor)
  | 0 => none
  | fuel + 1 => do
    let p := p.nextInFlow
    if p.rest.head? = some '\x7d' then some ([], anchors, p.advance 1)
    else
      let r ← flowEntry? handles anchors p
      match r.next.rest.head? with
      | some '\x7d' => some ([r.entry], r.anchors, r.next.advance 1)
      | some ',' =>
        let (entries, anchors, next) ← flowEntries? handles r.anchors (r.next.advance 1) fuel
        return (r.entry :: entries, anchors, next)
      | _ => none

/-- The properties of the document's own node. Those on a line of their own belong to it, and those
in front of a brace; others belong to the first key, except on the line of a start marker, where
there is no key. -/
def rootProperties? (handles : Handles) (onMarkerLine : Bool) (props : Properties) (p : Cursor) :
    Nat → Option (Properties × Cursor)
  | 0 => some (props, p)
  | fuel + 1 =>
    if startsProperty p then do
      let (own, q) ← property? handles false p
      let q := q.next true
      let (own, q) ←
        if startsProperty q && q.line == p.line then do
          let (second, q) ← property? handles false q
          pure (← own.both? second, q.next true)
        else pure (own, q)
      if onMarkerLine || q.rest.isEmpty || q.line != p.line || q.rest.head? = some '\x7b' then
        rootProperties? handles (onMarkerLine && q.line == p.line) (← props.both? own) q fuel
      else some (props, p)
    else some (props, p)

/-- Only end markers and comments follow a document. -/
def isFinished (p : Cursor) : Nat → Bool
  | 0 => false
  | fuel + 1 =>
    p.rest.isEmpty ||
      (p.column == 0 && isEndMarker p.rest && isFinished ((p.advance 3).next true) fuel)

/-- The entries of the document's own node, which may be left out. -/
def rootEntries? (handles : Handles) (markerLine : Option Nat) (p : Cursor) :
    Option (List Entry × Anchors) := do
  let fuel := p.rest.length + 1
  let (props, q) ← rootProperties? handles (markerLine = some p.line) .nothing p 3
  let anchors := Anchors.empty.add props.anchor none
  if isDocumentOver q then
    if isFinished q fuel then some ([], anchors) else none
  else if q.rest.head? = some '\x7b' then
    let (entries, anchors, next) ← flowEntries? handles anchors (q.advance 1) fuel
    if isFinished (next.next true) fuel then some (entries, anchors) else none
  else if markerLine = some q.line then none
  else
    let (entries, anchors, next) ← blockEntries? handles anchors q fuel
    if isFinished next fuel then some (entries, anchors) else none

/-- The document of a text: directives and a start marker, or neither, and the entries. -/
def document? (cs : List Char) : Option (List Entry × Anchors) := do
  let p := (Cursor.start cs).next false
  let (directives, q) ← Directives.readAll? ⟨false, []⟩ p (cs.length + 1)
  let handles := directives.handles ++ standardHandles
  if q.column = 0 && isStartMarker q.rest then
    rootEntries? handles (some q.line) ((q.advance 3).next true)
  else if p = q && !(q.column = 0 && isEndMarker q.rest) then rootEntries? handles none q
  else none

/-- The entries of the mapping that a text holds. An empty document counts as an empty mapping. -/
def readMapping? (text : String) : Option (List (Scalar × Scalar)) := do
  let cs := text.toList
  if cs.all isReadable then
    let (entries, anchors) ← document? (normalizeBreaks cs)
    entries.mapM fun (key, value) => do
      return (← anchors.resolve? key, ← anchors.resolve? value)
  else none

end Typescribe.Yaml
