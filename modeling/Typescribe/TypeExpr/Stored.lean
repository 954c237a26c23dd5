import Typescribe.Json.Record
import Typescribe.TypeExpr

/-! Stored form of type names, type expressions and type descriptors. -/
namespace Typescribe

namespace TypeName

def toJson (t : TypeName) : Json :=
  .object [("namespace", (t.qualifier.map Json.string).getD .null), ("name", .string t.simple)]

/-- A qualifier is kept as it is, also when it is empty. -/
def ofJson? (v : Json) : Option TypeName := do
  match ← v.fields? false ["namespace", "name"] with
  | [qualifier, some simple] =>
    let qualifier ←
      match qualifier with
      | none => some none
      | some .null => some none
      | some v => v.string?.map some
    return ⟨qualifier, ← simple.string?⟩
  | _ => none

end TypeName

namespace ScalarKind

def variantName : ScalarKind → String
  | .number => "Number"
  | .boolean => "Boolean"
  | .text => "Text"
  | .dateTime => "DateTime"

def all : List ScalarKind := [.number, .boolean, .text, .dateTime]

def ofJson? (v : Json) : Option ScalarKind := do
  let name ← v.unitVariant?
  all.find? fun kind => kind.variantName = name

end ScalarKind

namespace TypeExpr

mutual

def toJson : TypeExpr → Json
  | .scalar kind => .object [("Scalar", .string kind.variantName)]
  | .reference name => .object [("Reference", name.toJson)]
  | .array element => .object [("Array", element.toJson)]
  | .map key value => .object [("Map", .object [("key", key.toJson), ("value", value.toJson)])]
  | .nullable inner => .object [("Nullable", inner.toJson)]
  | .generic definition arguments =>
    .object [("Generic", .object [("definition", definition.toJson),
      ("arguments", .array (allToJson arguments))])]
  | .parameter name => .object [("Parameter", .string name)]
  | .unresolved description => .object [("Unresolved", .string description)]
  | .any => .string "Any"

def allToJson : List TypeExpr → List Json
  | [] => []
  | t :: ts => t.toJson :: allToJson ts

end

/-- Reads a type expression that nests at most `n` deep. -/
def ofJsonWithin? : Nat → Json → Option TypeExpr
  | 0, _ => none
  | n + 1, v => do
    match ← v.variant? with
    | ("Any", payload) => if payload matches none | some .null then some .any else none
    | (_, none) => none
    | (name, some payload) =>
      match name with
      | "Scalar" => (ScalarKind.ofJson? payload).map .scalar
      | "Reference" => (TypeName.ofJson? payload).map .reference
      | "Array" => (ofJsonWithin? n payload).map .array
      | "Nullable" => (ofJsonWithin? n payload).map .nullable
      | "Map" =>
        match ← payload.payloadFields? ["key", "value"] with
        | [some key, some value] => return .map (← ofJsonWithin? n key) (← ofJsonWithin? n value)
        | _ => none
      | "Generic" =>
        match ← payload.payloadFields? ["definition", "arguments"] with
        | [some definition, some arguments] =>
          let items ← arguments.array?
          return .generic (← TypeName.ofJson? definition) (← items.mapM (ofJsonWithin? n))
        | _ => none
      | "Parameter" => payload.string?.map .parameter
      | "Unresolved" => payload.string?.map .unresolved
      | _ => none

def ofJson? (v : Json) : Option TypeExpr :=
  ofJsonWithin? (v.depth + 1) v

end TypeExpr

namespace Property

def toJson (p : Property) : Json :=
  .object [("name", .string p.name), ("type_ref", p.type.toJson)]

def ofJson? (v : Json) : Option Property := do
  match ← v.fields? false ["name", "type_ref"] with
  | [some name, some type] => return ⟨← name.string?, ← TypeExpr.ofJson? type⟩
  | _ => none

end Property

namespace TypeDescriptor

def toJson (t : TypeDescriptor) : Json :=
  .object [("name", t.name.toJson), ("properties", .array (t.properties.map Property.toJson))]

def ofJson? (v : Json) : Option TypeDescriptor := do
  match ← v.fields? false ["name", "properties"] with
  | [some name, some properties] =>
    let items ← properties.array?
    return ⟨← TypeName.ofJson? name, ← items.mapM Property.ofJson?⟩
  | _ => none

end TypeDescriptor

end Typescribe
