import Typescribe.Error
import Typescribe.FileSystem
import Typescribe.Fragment
import Typescribe.Text.Split
import Typescribe.Text.Words

/-! Fragments in a directory: a file for each, and a manifest of all. -/
namespace Typescribe.Output

/-- The words of the simple name, joined by hyphens. -/
def fileName (id : FragmentId) : String :=
  String.ofList (Text.kebabCase (Text.afterLast '.' id.toList)) ++ ".ts"

def manifestName : String := "manifest.json"

/-- The file names of the fragments, none of which may repeat; `owners` tells whose the earlier ones
are. -/
def assign (owners : List (String × FragmentId)) : List Fragment → Except Error (List String)
  | [] => .ok []
  | f :: fs =>
    match owners.lookup (fileName f.id) with
    | some first => .error (.outputCollision (fileName f.id) first f.id)
    | none => do
      let files ← assign ((fileName f.id, f.id) :: owners) fs
      return fileName f.id :: files

/-- What the manifest says of a fragment and its file. -/
def manifestEntry (e : Fragment × String) : Json :=
  .object [("id", .string e.1.id), ("file", .string e.2),
    ("dependencies", .array (e.1.dependencies.map Json.string))]

def manifest (es : List (Fragment × String)) : String :=
  Json.pretty (.array (es.map manifestEntry))

variable {m : Type → Type} [Monad m]

def writeFile (files : FileSystem m) (path text : String) : ExceptT Error m Unit := do
  if ← files.writeText path text then return () else throw .inaccessible

/-- Writes the fragments to their files in order. The answer tells the paths of these files. -/
def writeFragments (files : FileSystem m) (directory : String) :
    List (Fragment × String) → ExceptT Error m (List String)
  | [] => return []
  | (f, name) :: es => do
    let path := FileSystem.join directory name
    writeFile files path f.code
    let paths ← writeFragments files directory es
    return path :: paths

/-- Writes the fragments in order and then the manifest. The file names are checked before anything
is touched. -/
def write (files : FileSystem m) (directory : String) (fs : Fragments) :
    ExceptT Error m (List String) := do
  let names ← ExceptT.mk (pure (assign [] fs.list))
  let es := fs.list.zip names
  if ← files.createDirectories directory then
    let paths ← writeFragments files directory es
    writeFile files (FileSystem.join directory manifestName) (manifest es)
    return paths
  else throw .inaccessible

end Typescribe.Output
