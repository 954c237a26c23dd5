import Typescribe.Error
import Typescribe.Json.Value
import Typescribe.Text.Blank
import Typescribe.TypeExpr

/-! Type expressions in documents. A string is a keyword or a full name; an object has one key that
names the shape, and `arguments` beside it if the shape is `generic`. -/
namespace Typescribe.TypeExpr

inductive Shape where
  | reference
  | array
  | map
  | nullable
  | generic
  | parameter
  | unresolved
  deriving DecidableEq, Repr

namespace Shape

def key : Shape → String
  | .reference => "reference"
  | .array => "array"
  | .map => "map"
  | .nullable => "nullable"
  | .generic => "generic"
  | .parameter => "parameter"
  | .unresolved => "unresolved"

def all : List Shape :=
  [.reference, .array, .map, .nullable, .generic, .parameter, .unresolved]

/-- Whether a key may stand in an object of this shape. -/
def admits (shape : Shape) (key : String) : Bool :=
  key = shape.key || (shape = .generic && key = "arguments")

/-- The shape of an object: the one key of a shape that it has, with no key that the shape does not
admit. -/
def ofMembers (location : Location) (members : List (String × Json)) : Except Error Shape :=
  match all.filter fun shape => (members.lookup shape.key).isSome with
  | [shape] =>
    match members.find? fun m => !shape.admits m.1 with
    | some m => .error (.invalidModel location (.unexpectedKey m.1))
    | none => .ok shape
  | _ => .error (.invalidModel location (.expectedOneOf (all.map key)))

end Shape

/-- A text that is not blank, trimmed. -/
def readName (location : Location) : Json → Except Error String
  | .string s =>
    let name := Text.trimmed s
    if name.isEmpty then .error (.invalidModel location .expectedNonEmptyString) else .ok name
  | _ => .error (.invalidModel location .expectedNonEmptyString)

def readWord (location : Location) (s : String) : Except Error TypeExpr :=
  let word := Text.trimmed s
  if word.isEmpty then .error (.invalidModel location .emptyTypeName) else .ok (ofWord word)

theorem sizeOf_lookup {members : List (String × Json)} {key : String} {v : Json}
    (h : members.lookup key = some v) : sizeOf v < sizeOf members := by
  induction members with
  | nil => simp at h
  | cons m ms ih =>
    obtain ⟨k, w⟩ := m
    rw [List.lookup_cons] at h
    split at h
    · obtain rfl := Option.some.inj h
      simp
      omega
    · have := ih h
      simp
      omega

mutual

def read (location : Location) (v : Json) : Except Error TypeExpr :=
  match v with
  | .string s => readWord location s
  | .object members =>
    match Shape.ofMembers location members with
    | .error e => .error e
    | .ok shape =>
      let inner := location.key shape.key
      match _h : members.lookup shape.key with
      | none => .error (.invalidModel location (.missingKey shape.key))
      | some value =>
        match shape with
        | .reference => do
          let name ← readName inner value
          return .reference (TypeName.parse name)
        | .array => do
          let element ← read inner value
          return .array element
        | .map => readMap inner value
        | .nullable => do
          let type ← read inner value
          return .nullable type
        | .generic => do
          let name ← readName inner value
          match _ha : members.lookup "arguments" with
          | some (.array items) =>
            let arguments ← readAll (location.key "arguments") 0 items
            return .generic (TypeName.parse name) arguments
          | _ => .error (.invalidModel (location.key "arguments") .expectedArray)
        | .parameter => do
          let name ← readName inner value
          return .parameter name
        | .unresolved => do
          let description ← readName inner value
          return .unresolved description
  | _ => .error (.invalidModel location .expectedStringOrObject)
termination_by sizeOf v
decreasing_by
  · have := sizeOf_lookup _h
    simp only [Json.object.sizeOf_spec]
    omega
  · have := sizeOf_lookup _h
    simp only [Json.object.sizeOf_spec]
    omega
  · have := sizeOf_lookup _h
    simp only [Json.object.sizeOf_spec]
    omega
  · have := sizeOf_lookup _ha
    simp only [Json.array.sizeOf_spec, Json.object.sizeOf_spec] at this ⊢
    omega

/-- An object with the keys `key` and `value` and no others. -/
def readMap (location : Location) (v : Json) : Except Error TypeExpr :=
  match v with
  | .object members =>
    match members.find? fun m => m.1 != "key" && m.1 != "value" with
    | some m => .error (.invalidModel location (.unexpectedKey m.1))
    | none =>
      match _hk : members.lookup "key", _hv : members.lookup "value" with
      | none, _ => .error (.invalidModel location (.missingKey "key"))
      | some _, none => .error (.invalidModel location (.missingKey "value"))
      | some k, some w => do
        let key ← read (location.key "key") k
        let value ← read (location.key "value") w
        return .map key value
  | _ => .error (.invalidModel location (.missingKey "key"))
termination_by sizeOf v
decreasing_by
  · have := sizeOf_lookup _hk
    simp only [Json.object.sizeOf_spec]
    omega
  · have := sizeOf_lookup _hv
    simp only [Json.object.sizeOf_spec]
    omega

def readAll (location : Location) (i : Nat) (items : List Json) : Except Error (List TypeExpr) :=
  match items with
  | [] => .ok []
  | v :: vs => do
    let type ← read (location.index i) v
    let types ← readAll location (i + 1) vs
    return type :: types
termination_by sizeOf items

end

end Typescribe.TypeExpr
