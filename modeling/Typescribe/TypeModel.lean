import Typescribe.Dictionary
import Typescribe.Error
import Typescribe.TypeExpr

/-! A registry of types in the order in which they were added. Full names are unique; a simple name
finds a type while only one has it. -/
namespace Typescribe

structure TypeModel where
  types : List TypeDescriptor
  /-- Positions by full name. -/
  byFullName : Dictionary Nat
  /-- Positions by simple name, `none` once two types share it. -/
  bySimpleName : Dictionary (Option Nat)
  deriving Repr, Inhabited

namespace TypeModel

def empty : TypeModel := ⟨[], .empty, .empty⟩

/-- Adds a type to the registry, unless its full name is taken. -/
def add (t : TypeDescriptor) : ExceptT Error (StateM TypeModel) Unit := do
  let fullName := t.name.fullName
  if (← get).byFullName.contains fullName then throw (.duplicateType fullName)
  let position := (← get).types.length
  modify fun m =>
    let slot := if m.bySimpleName.contains t.name.simple then none else some position
    { m with bySimpleName := m.bySimpleName.insert t.name.simple slot }
  modify fun m => { m with byFullName := m.byFullName.insert fullName position }
  modify fun m => { m with types := m.types ++ [t] }

/-- The registry with one more type. -/
def extend (m : TypeModel) (t : TypeDescriptor) : Except Error TypeModel :=
  match (add t).run.run m with
  | (.ok (), m') => .ok m'
  | (.error e, _) => .error e

/-- Where a full name, or else a simple name that only one type has, is to be found. -/
def position? (m : TypeModel) (name : String) : Option Nat :=
  match m.byFullName.get? name with
  | some position => some position
  | none => (m.bySimpleName.get? name).join

def get? (m : TypeModel) (name : String) : Option TypeDescriptor :=
  (m.position? name).bind fun i => m.types[i]?

/-- The named types in the order of the names. -/
def select (m : TypeModel) (names : List String) : Except Error (List TypeDescriptor) :=
  names.mapM fun name =>
    match m.get? name with
    | some t => .ok t
    | none => .error (.unknownType name)

/-- All types if no names are given. -/
def selectOrAll (m : TypeModel) (names : List String) : Except Error (List TypeDescriptor) :=
  if names.isEmpty then .ok m.types else m.select names

end TypeModel

end Typescribe
