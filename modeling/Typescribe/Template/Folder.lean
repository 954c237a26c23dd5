import Typescribe.FileSystem
import Typescribe.Template

/-! Templates in a directory, one a file. -/
namespace Typescribe.Templates

/-- The extension of files that hold templates. -/
def extension : String := "template"

/-- The template that a file is named for. A file with another extension holds none, and a stem that
is no text names none. -/
def nameOfFile? (file : FileName) : Option String := do
  let (stem, ext) ← file.cut?
  if ext.text? = some extension then stem.text? else none

/-- The file of a template. -/
def fileOf (name : String) : String :=
  name ++ "." ++ extension

variable {m : Type → Type} [Monad m]

/-- Adds the templates of the named files, and their number to `count`. -/
def loadFiles (fs : FileSystem m) (directory : String) (templates : Templates) (count : Nat) :
    List FileName → ExceptT Error m (Templates × Nat)
  | [] => return (templates, count)
  | file :: files =>
    match nameOfFile? file with
    | none => loadFiles fs directory templates count files
    | some name => do
      match ← fs.readText (FileSystem.join directory (fileOf name)) with
      | some text => loadFiles fs directory (templates.insert name text) (count + 1) files
      | none => throw .inaccessible

/-- Adds the templates of a directory; the number tells how many there are. -/
def load (fs : FileSystem m) (directory : String) (templates : Templates) :
    ExceptT Error m (Templates × Nat) := do
  match ← fs.list directory with
  | some files => loadFiles fs directory templates 0 files
  | none => throw .inaccessible

/-- The standard templates with those of a directory over them. -/
def ofDirectory (fs : FileSystem m) (directory : String) : ExceptT Error m Templates := do
  let (templates, _) ← load fs directory standard
  return templates

end Typescribe.Templates
