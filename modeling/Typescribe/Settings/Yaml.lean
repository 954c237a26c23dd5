import Typescribe.Error
import Typescribe.Settings
import Typescribe.Yaml.Mapping
import Typescribe.Yaml.Writer

/-! Settings in YAML. -/
namespace Typescribe

namespace Yaml.Scalar

/-- A truth value is plain, or a literal that is tagged as one. -/
def bool? (s : Scalar) : Option Bool :=
  if s.style = .plain ∨ (s.style = .literal ∧ s.tag = some (.global "tag:yaml.org,2002:bool")) then
    boolWords.lookup s.text
  else none

/-- Nothing is written as nothing or as one of the words for it, in both cases without quotes. -/
def isNull (s : Scalar) : Bool :=
  s.style = .plain && (s.text.isEmpty || nullWords.contains s.text)

/-- The name of a variant: the text, or a tag of nothing. -/
def variant? (s : Scalar) : Option String :=
  match s.tag with
  | some (.named name) => if s.isNull then some name else none
  | _ => some s.text

end Yaml.Scalar

namespace Settings

/-- The value that a field is given; each may be given once. -/
def valueOf? (entries : List (Yaml.Scalar × Yaml.Scalar)) (name : String) :
    Option (Option Yaml.Scalar) :=
  match entries.filter fun e => e.1.text = name with
  | [] => some none
  | [e] => some (some e.2)
  | _ => none

/-- Reads a field that is given, and keeps its value otherwise. -/
def scalarField? {α : Type} (entries : List (Yaml.Scalar × Yaml.Scalar)) (name : String)
    (read : Yaml.Scalar → Option α) (value : α) : Option α := do
  match ← valueOf? entries name with
  | some s => read s
  | none => some value

/-- Absent fields have their defaults, and other keys are refused. -/
def ofEntries? (entries : List (Yaml.Scalar × Yaml.Scalar)) : Option Settings :=
  let standard : Settings := {}
  if entries.all fun e => fieldNames.contains e.1.text then do
    return {
      documented := ← scalarField? entries "generate_docs" Yaml.Scalar.bool? standard.documented
      naming := ← scalarField? entries "property_naming"
        (fun s => s.variant?.bind PropertyNaming.ofName?) standard.naming
      unresolved := ← scalarField? entries "unresolved_types"
        (fun s => s.variant?.bind UnresolvedPolicy.ofName?) standard.unresolved
      indent := ← scalarField? entries "indent" (fun s => some s.text) standard.indent }
  else none

def readYaml (text : String) : Except Error Settings :=
  match (Yaml.readMapping? text).bind ofEntries? with
  | some s => .ok s
  | none => .error .malformedYaml

/-- One line for each field, except that an indent with line ends takes several. -/
def writeYaml (s : Settings) : String :=
  "generate_docs: " ++ (if s.documented then "true" else "false") ++ "\n" ++
    "property_naming: " ++ s.naming.variantName ++ "\n" ++
    "unresolved_types: " ++ s.unresolved.variantName ++ "\n" ++
    "indent: " ++ String.ofList (Yaml.writeScalar s.indent)

end Settings

end Typescribe
