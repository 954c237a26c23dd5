import Typescribe.Documentation
import Typescribe.Json.Reader
import Typescribe.TypeExpr.Document
import Typescribe.TypeModel

/-! Type models in documents: an object whose key `types` has an array of types with their
properties, each with a text of documentation if it wants one. -/
namespace Typescribe.TypeModel

/-- The types of a document and what it says about them. -/
structure Documented where
  model : TypeModel
  documentation : Documentation
  deriving Repr, Inhabited

/-- Adds documentation, which wins over what is there. -/
def Documented.addDocumentation (source : Documented)
    (documentation : Documentation) : Documented :=
  { source with documentation := source.documentation.merge documentation }

/-- A text that may be absent or null. -/
def optionalText (location : Location) (members : List (String × Json)) (key : String) :
    Except Error (Option String) :=
  match members.lookup key with
  | none => .ok none
  | some .null => .ok none
  | some (.string s) => .ok (some s)
  | some _ => .error (.invalidModel (location.key key) .expectedString)

/-- A text that is not blank. -/
def requiredText (location : Location) (members : List (String × Json)) (key : String) :
    Except Error String := do
  match ← optionalText location members key with
  | some s =>
    if Text.allBlank s.toList then .error (.invalidModel location (.missingKey key)) else .ok s
  | none => .error (.invalidModel location (.missingKey key))

/-- A property, and the documentation with its own text added. -/
def readProperty (owner : TypeName) (location : Location) (docs : Documentation) :
    Json → Except Error (Property × Documentation)
  | .object members => do
    let name ← requiredText location members "name"
    match members.lookup "type" with
    | none => .error (.invalidModel location (.missingKey "type"))
    | some v =>
      let type ← TypeExpr.read (location.key "type") v
      let text ← optionalText location members "documentation"
      return (⟨name, type⟩, docs.insertMember? (.property owner name) text)
  | _ => .error (.invalidModel location .expectedObject)

def readProperties (owner : TypeName) (location : Location) (i : Nat) (docs : Documentation) :
    List Json → Except Error (List Property × Documentation)
  | [] => .ok ([], docs)
  | v :: vs => do
    let (property, docs) ← readProperty owner (location.index i) docs v
    let (properties, docs) ← readProperties owner location (i + 1) docs vs
    return (property :: properties, docs)

/-- The items under `properties`, which may be absent or null. -/
def propertyItems (location : Location) (members : List (String × Json)) :
    Except Error (List Json) :=
  match members.lookup "properties" with
  | none => .ok []
  | some .null => .ok []
  | some (.array items) => .ok items
  | some _ => .error (.invalidModel (location.key "properties") .expectedArray)

/-- A type, and the documentation with its own text and those of its properties added. -/
def readType (location : Location) (docs : Documentation) :
    Json → Except Error (TypeDescriptor × Documentation)
  | .object members => do
    let simple ← requiredText location members "name"
    let qualifier ← optionalText location members "namespace"
    let name := TypeName.make qualifier simple
    let text ← optionalText location members "documentation"
    let items ← propertyItems location members
    let (properties, docs) ←
      readProperties name (location.key "properties") 0 (docs.insertMember? (.type name) text) items
    return (⟨name, properties⟩, docs)
  | _ => .error (.invalidModel location .expectedObject)

def readTypes (location : Location) (i : Nat) (read : Documented) :
    List Json → Except Error Documented
  | [] => .ok read
  | v :: vs => do
    let (type, documentation) ← readType (location.index i) read.documentation v
    let model ← read.model.extend type
    readTypes location (i + 1) ⟨model, documentation⟩ vs

/-- The types of a document in order. -/
def ofDocument (document : Json) : Except Error Documented :=
  let location : Location := ⟨"types", []⟩
  match document.get? "types" with
  | some (.array items) => readTypes location 0 ⟨.empty, .empty⟩ items
  | _ => .error (.invalidModel location .expectedArray)

def ofText (text : String) : Except Error Documented :=
  match Json.readDocument? text with
  | some document => ofDocument document
  | none => .error .malformedJson

end Typescribe.TypeModel
