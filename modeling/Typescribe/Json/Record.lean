import Typescribe.Json.Value

/-! Records and variants in stored form. A record is an object, or an array of its fields in order;
a variant is its name, or an object with the name as its only key and the payload as its value. -/
namespace Typescribe.Json

/-- The values of the given fields, in their order. No field may occur twice. With `closed`, other
fields are refused. -/
def fieldsOf? (closed : Bool) (names : List String) (members : List (String × Json)) :
    Option (List (Option Json)) :=
  if closed && members.any fun m => !names.contains m.1 then none
  else
    names.mapM fun name =>
      match valuesOf name members with
      | [] => some none
      | [v] => some (some v)
      | _ => none

/-- The values of the fields of a record. Those that an array leaves off are absent. -/
def fields? (closed : Bool) (names : List String) : Json → Option (List (Option Json))
  | .object members => fieldsOf? closed names members
  | .array items =>
    if items.length ≤ names.length then
      some (items.map some ++ List.replicate (names.length - items.length) none)
    else none
  | _ => none

/-- The values of the fields of a payload, which is always an object. -/
def payloadFields? (names : List String) : Json → Option (List (Option Json))
  | .object members => fieldsOf? false names members
  | _ => none

/-- The name of a variant and its payload. -/
def variant? : Json → Option (String × Option Json)
  | .string name => some (name, none)
  | .object [(name, payload)] => some (name, some payload)
  | _ => none

/-- The name of a variant without payload, which may be written with null as payload. -/
def unitVariant? (v : Json) : Option String :=
  match variant? v with
  | some (name, none) => some name
  | some (name, some .null) => some name
  | _ => none

def string? : Json → Option String
  | .string s => some s
  | _ => none

def bool? : Json → Option Bool
  | .bool b => some b
  | _ => none

def array? : Json → Option (List Json)
  | .array items => some items
  | _ => none

def strings? (v : Json) : Option (List String) := do
  let items ← v.array?
  items.mapM string?

end Typescribe.Json
