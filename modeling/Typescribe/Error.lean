/-! What can go wrong, and how it is told. -/
namespace Typescribe

/-- One step into a JSON value. -/
inductive Step where
  | key (name : String)
  | index (i : Nat)
  deriving DecidableEq, Repr

/-- A place in a document: the steps from the value that the root names. -/
structure Location where
  root : String
  steps : List Step
  deriving DecidableEq, Repr

namespace Location

def key (l : Location) (name : String) : Location :=
  { l with steps := l.steps ++ [.key name] }

def index (l : Location) (i : Nat) : Location :=
  { l with steps := l.steps ++ [.index i] }

/-- Written like `types[0].properties[2].type`. -/
def text (l : Location) : String :=
  l.steps.foldl
    (fun text step =>
      match step with
      | .key name => text ++ "." ++ name
      | .index i => text ++ "[" ++ toString i ++ "]")
    l.root

end Location

/-- What is wrong with the value at a place. -/
inductive Fault where
  | expectedArray
  | expectedObject
  | expectedString
  | expectedNonEmptyString
  | expectedStringOrObject
  | expectedOneOf (keys : List String)
  | emptyTypeName
  | missingKey (key : String)
  | unexpectedKey (key : String)
  deriving DecidableEq, Repr

def Fault.text : Fault → String
  | .expectedArray => "expected an array"
  | .expectedObject => "expected an object"
  | .expectedString => "expected a string"
  | .expectedNonEmptyString => "expected a non-empty string"
  | .expectedStringOrObject => "expected a string or an object"
  | .expectedOneOf keys => "expected exactly one of " ++ ", ".intercalate keys
  | .emptyTypeName => "empty type name"
  | .missingKey key => "missing '" ++ key ++ "'"
  | .unexpectedKey key => "unexpected key '" ++ key ++ "'"

/-- Why a type has no rendering. -/
inductive UnresolvedReason where
  | noArguments
  | unboundParameter
  | notResolved
  deriving DecidableEq, Repr

def UnresolvedReason.text : UnresolvedReason → String
  | .noArguments => "generic type without arguments"
  | .unboundParameter => "unbound generic parameter"
  | .notResolved => "type could not be resolved"

structure UnresolvedType where
  name : String
  reason : UnresolvedReason
  deriving DecidableEq, Repr

def UnresolvedType.message (u : UnresolvedType) : String :=
  "Cannot translate type reference " ++ u.name ++ ": " ++ u.reason.text

inductive Error where
  | missingTemplate (name : String)
  | unresolvedType (cause : UnresolvedType)
  | property (typeName propertyName : String) (cause : UnresolvedType)
  | invalidModel (location : Location) (fault : Fault)
  | duplicateType (fullName : String)
  | unknownType (name : String)
  | outputCollision (file first second : String)
  | malformedXml
  | malformedJson
  | malformedYaml
  /-- A file or directory could not be read or written. -/
  | inaccessible
  deriving DecidableEq, Repr

def Error.message : Error → String
  | .missingTemplate name => "Template not registered: " ++ name
  | .unresolvedType cause => cause.message
  | .property typeName propertyName cause =>
    "Property " ++ typeName ++ "." ++ propertyName ++ ": " ++ cause.message
  | .invalidModel location fault => "Invalid type model: " ++ location.text ++ ": " ++ fault.text
  | .duplicateType fullName => "Type defined more than once: " ++ fullName
  | .unknownType name => "Type not found in model: " ++ name
  | .outputCollision file first second =>
    "Fragments " ++ first ++ " and " ++ second ++ " would both be written to " ++ file
  | .malformedXml => "Documentation XML error"
  | .malformedJson => "JSON error"
  | .malformedYaml => "YAML error"
  | .inaccessible => "IO error"

end Typescribe
