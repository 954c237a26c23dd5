import Typescribe.Declaration
import Typescribe.Documentation.Summary
import Typescribe.Output
import Typescribe.Template.Folder
import Typescribe.TypeModel.Document

/-! A run from files to files, stage by stage. -/
namespace Typescribe

inductive Stage where
  | readingSettings (path : String)
  | parsingSettings (path : String)
  | readingModel (path : String)
  | parsingModel (path : String)
  | readingDocumentation (path : String)
  | parsingDocumentation (path : String)
  | loadingTemplates (directory : String)
  | declaring
  | writing (directory : String)
  deriving DecidableEq, Repr

def Stage.text : Stage → String
  | .readingSettings path => "reading config " ++ path
  | .parsingSettings path => "parsing config " ++ path
  | .readingModel path => "reading type model " ++ path
  | .parsingModel path => "parsing type model " ++ path
  | .readingDocumentation path => "reading documentation " ++ path
  | .parsingDocumentation path => "parsing documentation " ++ path
  | .loadingTemplates directory => "loading templates from " ++ directory
  | .declaring => "transpiling types"
  | .writing directory => "writing output to " ++ directory

/-- What went wrong in which stage. -/
structure Failure where
  stage : Stage
  error : Error
  deriving DecidableEq, Repr

/-- What to read, which types to declare, and how. -/
structure Job where
  model : String
  documentation : List String
  /-- A directory of templates, or none for the standard ones. -/
  templates : Option String
  /-- The types by name, or none for all. -/
  types : List String
  settings : Settings
  deriving DecidableEq, Repr

/-- What a generator makes of a model's types, selected by name. -/
def TypeModel.Documented.generate (source : TypeModel.Documented) (g : Generator)
    (types : List String) :
    Except Error Fragments := do
  let types ← source.model.selectOrAll types
  g.fragments types

/-- The declarations of a model's types, selected by name, under the templates and the settings. -/
def TypeModel.Documented.declare (source : TypeModel.Documented) (templates : Templates)
    (settings : Settings) (types : List String) : Except Error Fragments :=
  source.generate (Generator.make templates source.documentation.source settings) types

namespace Job

variable {m : Type → Type} [Monad m]

/-- Says in which stage an error arises. -/
def within {α : Type} (stage : Stage) (x : ExceptT Error m α) : ExceptT Failure m α :=
  ExceptT.adapt (Failure.mk stage) x

/-- A step without files. -/
def lift {α : Type} (x : Except Error α) : ExceptT Error m α :=
  ExceptT.mk (pure x)

def readFile (fs : FileSystem m) (path : String) : ExceptT Error m String := do
  match ← fs.readText path with
  | some text => return text
  | none => throw .inaccessible

def readModel (fs : FileSystem m) (path : String) : ExceptT Failure m TypeModel.Documented := do
  let text ← within (.readingModel path) (readFile fs path)
  within (.parsingModel path) (lift (TypeModel.ofText text))

/-- Adds the documentation files in order; later ones win. -/
def readDocumentation (fs : FileSystem m) (source : TypeModel.Documented) :
    List String → ExceptT Failure m TypeModel.Documented
  | [] => return source
  | path :: paths => do
    let text ← within (.readingDocumentation path) (readFile fs path)
    let documentation ← within (.parsingDocumentation path) (lift (Documentation.ofXml text))
    readDocumentation fs (source.addDocumentation documentation) paths

def loadTemplates (fs : FileSystem m) : Option String → ExceptT Failure m Templates
  | some directory => within (.loadingTemplates directory) (Templates.ofDirectory fs directory)
  | none => return Templates.standard

/-- Everything before the writing. -/
def declare (job : Job) (fs : FileSystem m) : ExceptT Failure m Fragments := do
  let source ← readModel fs job.model
  let source ← readDocumentation fs source job.documentation
  let templates ← loadTemplates fs job.templates
  within .declaring (lift (source.declare templates job.settings job.types))

/-- Declares the types and writes the fragments to a directory. -/
def run (job : Job) (fs : FileSystem m) (directory : String) : ExceptT Failure m Fragments := do
  let fragments ← job.declare fs
  let _ ← within (.writing directory) (Output.write fs directory fragments)
  return fragments

end Job

end Typescribe
