import Typescribe.Error
import Typescribe.Fragment
import Typescribe.TypeExpr

/-! TypeScript spelling of type expressions, and the types that a spelling mentions. -/
namespace Typescribe

/-- What stands for a type that is not resolved: nothing, or `any`. -/
inductive UnresolvedPolicy where
  | fail
  | any
  deriving DecidableEq, Repr, Inhabited

/-- A spelled type with the fragments that it mentions. -/
structure Rendering where
  text : String
  dependencies : List FragmentId
  deriving DecidableEq, Repr

def ScalarKind.spelling : ScalarKind → String
  | .number => "number"
  | .boolean => "boolean"
  | .text => "string"
  | .dateTime => "Date"

namespace Rendering

/-- Whether a bar stands outside all brackets; `depth` counts the brackets that are open. The count
has no bound: one of 32 bits answers the same until 2 ^ 31 more brackets are open than closed, or
closed than open. -/
def hasOpenBar (depth : Int) : List Char → Bool
  | [] => false
  | c :: cs =>
    if c = '<' ∨ c = '\x7b' ∨ c = '(' ∨ c = '[' then hasOpenBar (depth + 1) cs
    else if c = '>' ∨ c = '\x7d' ∨ c = ')' ∨ c = ']' then hasOpenBar (depth - 1) cs
    else if c = '|' ∧ depth = 0 then true
    else hasOpenBar depth cs

def isUnion (text : String) : Bool :=
  hasOpenBar 0 text.toList

/-- A union is put in parentheses. -/
def arrayOf (element : String) : String :=
  if isUnion element then "(" ++ element ++ ")[]" else element ++ "[]"

/-- Index signatures have number or string keys. -/
def indexKey : TypeExpr → String
  | .scalar .number => "number"
  | _ => "string"

def mapOf (key : TypeExpr) (value : String) : String :=
  "\x7b [key: " ++ indexKey key ++ "]: " ++ value ++ " \x7d"

def nullableOf (inner : String) : String :=
  inner ++ " | null"

def applied (name : String) (arguments : List String) : String :=
  name ++ "<" ++ ", ".intercalate arguments ++ ">"

def unresolved (policy : UnresolvedPolicy) (name : String) (reason : UnresolvedReason) :
    Except UnresolvedType Rendering :=
  match policy with
  | .fail => .error ⟨name, reason⟩
  | .any => .ok ⟨"any", []⟩

end Rendering

namespace TypeExpr

mutual

/-- The spelling with every mention in order, repeated ones included. Keys of maps are not looked
into. -/
def spell (policy : UnresolvedPolicy) : TypeExpr → Except UnresolvedType Rendering
  | .scalar kind => .ok ⟨kind.spelling, []⟩
  | .any => .ok ⟨"any", []⟩
  | .reference name => .ok ⟨name.simple, [FragmentId.ofType name]⟩
  | .array element => do
    let e ← element.spell policy
    return ⟨Rendering.arrayOf e.text, e.dependencies⟩
  | .map key value => do
    let v ← value.spell policy
    return ⟨Rendering.mapOf key v.text, v.dependencies⟩
  | .nullable inner => do
    let i ← inner.spell policy
    return ⟨Rendering.nullableOf i.text, i.dependencies⟩
  | .generic definition [] => Rendering.unresolved policy definition.fullName .noArguments
  | .generic definition (argument :: arguments) => do
    let as ← spellAll policy (argument :: arguments)
    return ⟨Rendering.applied definition.simple (as.map Rendering.text),
      FragmentId.ofType definition :: as.flatMap Rendering.dependencies⟩
  | .parameter name => Rendering.unresolved policy name .unboundParameter
  | .unresolved description => Rendering.unresolved policy description .notResolved

def spellAll (policy : UnresolvedPolicy) : List TypeExpr → Except UnresolvedType (List Rendering)
  | [] => .ok []
  | t :: ts => do
    let r ← t.spell policy
    let rs ← spellAll policy ts
    return r :: rs

end

/-- The spelling with each mentioned fragment once. -/
def render (policy : UnresolvedPolicy) (t : TypeExpr) : Except UnresolvedType Rendering := do
  let r ← t.spell policy
  return ⟨r.text, FragmentId.distinct r.dependencies⟩

end TypeExpr

end Typescribe
