import Typescribe.Json.Reader
import Typescribe.Json.Record
import Typescribe.Rendering
import Typescribe.Text.Words

/-! Settings of a run. -/
namespace Typescribe

inductive PropertyNaming where
  | preserve
  | camelCase
  deriving DecidableEq, Repr, Inhabited

def PropertyNaming.apply (naming : PropertyNaming) (name : String) : String :=
  match naming with
  | .preserve => name
  | .camelCase => String.ofList (Text.camelCase name.toList)

structure Settings where
  /-- Whether documentation comments are written. -/
  documented : Bool := true
  naming : PropertyNaming := .preserve
  unresolved : UnresolvedPolicy := .fail
  /-- What stands in front of each line of the properties. -/
  indent : String := "    "
  deriving DecidableEq, Repr, Inhabited

def PropertyNaming.variantName : PropertyNaming → String
  | .preserve => "Preserve"
  | .camelCase => "CamelCase"

def PropertyNaming.ofName? (name : String) : Option PropertyNaming :=
  [.preserve, .camelCase].find? fun naming => naming.variantName = name

def UnresolvedPolicy.variantName : UnresolvedPolicy → String
  | .fail => "Fail"
  | .any => "Any"

def UnresolvedPolicy.ofName? (name : String) : Option UnresolvedPolicy :=
  [.fail, .any].find? fun policy => policy.variantName = name

namespace Settings

/-- The names of the fields in stored form. -/
def fieldNames : List String :=
  ["generate_docs", "property_naming", "unresolved_types", "indent"]

def toJson (s : Settings) : Json :=
  .object [("generate_docs", .bool s.documented), ("property_naming", .string s.naming.variantName),
    ("unresolved_types", .string s.unresolved.variantName), ("indent", .string s.indent)]

/-- A field that is given must be readable; one that is absent keeps its value. -/
def field {α : Type} (read : Json → Option α) (value : α) : Option Json → Option α
  | some v => read v
  | none => some value

/-- Absent fields have their defaults, and other fields are refused. -/
def ofJson? (v : Json) : Option Settings := do
  let standard : Settings := {}
  match ← v.fields? true fieldNames with
  | [documented, naming, unresolved, indent] =>
    return {
      documented := ← field Json.bool? standard.documented documented
      naming := ← field (fun v => v.unitVariant?.bind PropertyNaming.ofName?) standard.naming naming
      unresolved := ← field (fun v => v.unitVariant?.bind UnresolvedPolicy.ofName?)
        standard.unresolved unresolved
      indent := ← field Json.string? standard.indent indent }
  | _ => none

def readJson? (text : String) : Option Settings := do
  let v ← Json.read? text
  ofJson? v

end Settings

end Typescribe
