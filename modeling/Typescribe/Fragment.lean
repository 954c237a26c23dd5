import Typescribe.Json.Reader
import Typescribe.Json.Record
import Typescribe.Json.Writer
import Typescribe.TypeName

/-! Code fragments with the fragments that their code refers to. -/
namespace Typescribe

/-- A fragment has the full name of its type as identity. -/
abbrev FragmentId := String

namespace FragmentId

def ofType (name : TypeName) : FragmentId :=
  name.fullName

/-- The first occurrence of each. -/
def distinct : List FragmentId → List FragmentId
  | [] => []
  | x :: xs => x :: (distinct xs).filter fun y => y != x

theorem nodup_distinct (xs : List FragmentId) : (distinct xs).Nodup := by
  induction xs with
  | nil => exact List.nodup_nil
  | cons x xs ih =>
    rw [distinct, List.nodup_cons]
    exact ⟨by simp, ih.sublist List.filter_sublist⟩

end FragmentId

structure Fragment where
  id : FragmentId
  /-- In the order of their first mention. -/
  dependencies : List FragmentId
  code : String
  nodup_dependencies : dependencies.Nodup
  deriving DecidableEq, Repr

namespace Fragment

def make (id : FragmentId) (dependencies : List FragmentId) (code : String) : Fragment where
  id := id
  dependencies := FragmentId.distinct dependencies
  code := code
  nodup_dependencies := FragmentId.nodup_distinct dependencies

def isSelfReferencing (f : Fragment) : Bool :=
  f.dependencies.contains f.id

def toJson (f : Fragment) : Json :=
  .object [("id", .string f.id), ("dependencies", .array (f.dependencies.map Json.string)),
    ("code", .string f.code)]

/-- An absent list of dependencies is empty. -/
def ofJson? (v : Json) : Option Fragment := do
  match ← v.fields? false ["id", "dependencies", "code"] with
  | [some id, dependencies, some code] =>
    let dependencies ←
      match dependencies with
      | some list => list.strings?
      | none => some []
    return make (← id.string?) dependencies (← code.string?)
  | _ => none

end Fragment

/-- The fragments of a run, one for each of its types and in their order. -/
structure Fragments where
  list : List Fragment
  deriving DecidableEq, Repr

namespace Fragments

/-- The first fragment with an identity. -/
def get? (fs : Fragments) (id : FragmentId) : Option Fragment :=
  fs.list.find? fun f => f.id = id

/-- Each fragment with each of its dependencies. -/
def edges (fs : Fragments) : List (FragmentId × FragmentId) :=
  fs.list.flatMap fun f => f.dependencies.map fun d => (f.id, d)

def toJson (fs : Fragments) : Json :=
  .object [("code_fragments", .array (fs.list.map Fragment.toJson))]

def ofJson? (v : Json) : Option Fragments := do
  match ← v.fields? false ["code_fragments"] with
  | [some list] =>
    let items ← list.array?
    return ⟨← items.mapM Fragment.ofJson?⟩
  | _ => none

def write (fs : Fragments) : String :=
  fs.toJson.compact

def read? (text : String) : Option Fragments := do
  let v ← Json.read? text
  ofJson? v

end Fragments

end Typescribe
