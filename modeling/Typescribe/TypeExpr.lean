import Typescribe.TypeName

/-! Declared types of properties, and the types that declare them. -/
namespace Typescribe

inductive ScalarKind where
  | number
  | boolean
  | text
  | dateTime
  deriving DecidableEq, Repr, Inhabited

namespace ScalarKind

def numberKeywords : List String :=
  ["byte", "sbyte", "short", "ushort", "int", "uint", "long", "ulong", "int8", "uint8", "int16",
    "uint16", "int32", "uint32", "int64", "uint64", "float", "single", "double", "decimal",
    "number"]

def booleanKeywords : List String := ["bool", "boolean"]

def textKeywords : List String := ["string", "char", "guid"]

def dateTimeKeywords : List String := ["datetime", "datetimeoffset", "date", "time", "timespan"]

/-- The kind that a word names; only ASCII letters compare without case. -/
def ofKeyword? (word : String) : Option ScalarKind :=
  let word := String.ofList (word.toList.map Char.toLower)
  if word ∈ numberKeywords then some .number
  else if word ∈ booleanKeywords then some .boolean
  else if word ∈ textKeywords then some .text
  else if word ∈ dateTimeKeywords then some .dateTime
  else none

end ScalarKind

inductive TypeExpr where
  | scalar (kind : ScalarKind)
  | reference (name : TypeName)
  | array (element : TypeExpr)
  | map (key value : TypeExpr)
  | nullable (inner : TypeExpr)
  /-- A generic type with what it is applied to. -/
  | generic (definition : TypeName) (arguments : List TypeExpr)
  /-- A generic parameter that nothing is bound to. -/
  | parameter (name : String)
  /-- A type that the model could not resolve, by what was found in its place. -/
  | unresolved (description : String)
  | any
  deriving Repr, Inhabited

namespace TypeExpr

def anyKeywords : List String := ["object", "any", "dynamic"]

/-- A keyword, or else a reference by full name. -/
def ofWord (word : String) : TypeExpr :=
  match ScalarKind.ofKeyword? word with
  | some kind => .scalar kind
  | none =>
    if String.ofList (word.toList.map Char.toLower) ∈ anyKeywords then .any
    else .reference (TypeName.parse word)

end TypeExpr

structure Property where
  name : String
  type : TypeExpr
  deriving Repr, Inhabited

/-- A type with its properties in the order of declaration. -/
structure TypeDescriptor where
  name : TypeName
  properties : List Property
  deriving Repr, Inhabited

end Typescribe
