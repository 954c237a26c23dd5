import Typescribe.Documentation
import Typescribe.Documentation.Comment
import Typescribe.Fragment
import Typescribe.Settings
import Typescribe.Template
import Typescribe.Text.Lines

/-! Declarations of types, one fragment for each type. -/
namespace Typescribe

/-- What a declaration is made with. -/
structure Generator where
  templates : Templates
  documentation : DocumentationSource
  render : TypeExpr → Except UnresolvedType Rendering
  settings : Settings

/-- A text with the fragments that it mentions. -/
structure Snippet where
  text : String
  dependencies : List FragmentId
  deriving DecidableEq, Repr

namespace Generator

/-- A generator that renders types as the settings say. -/
def make (templates : Templates) (documentation : DocumentationSource) (settings : Settings) :
    Generator where
  templates := templates
  documentation := documentation
  render := TypeExpr.render settings.unresolved
  settings := settings

/-- The comment of a member, or nothing. -/
def comment (g : Generator) (member : Member) : String :=
  if g.settings.documented then ((g.documentation member).bind Documentation.comment?).getD ""
  else ""

def propertyError (owner : TypeName) (p : Property) (cause : UnresolvedType) : Error :=
  .property owner.fullName p.name cause

def property (g : Generator) (owner : TypeName) (p : Property) : Except Error Snippet := do
  let type ← (g.render p.type).mapError (propertyError owner p)
  let text ← g.templates.fill Templates.propertyName (Dictionary.ofList [
    ("PropertyName", g.settings.naming.apply p.name),
    ("Documentation", g.comment (.property owner p.name)),
    ("PropertyType", type.text)])
  return ⟨text, type.dependencies⟩

/-- The code of a type around the texts of its properties. -/
def declaration (g : Generator) (name : TypeName) (properties : List String) :
    Except Error String :=
  g.templates.fill Templates.declarationName (Dictionary.ofList [
    ("ClassDeclaration", name.simple),
    ("Documentation", g.comment (.type name)),
    ("Properties", Text.indented g.settings.indent ("\n".intercalate properties))])

def fragment (g : Generator) (t : TypeDescriptor) : Except Error Fragment := do
  let snippets ← t.properties.mapM (g.property t.name)
  let dependencies := FragmentId.distinct (snippets.flatMap Snippet.dependencies)
  let code ← g.declaration t.name (snippets.map Snippet.text)
  return Fragment.make (FragmentId.ofType t.name) dependencies code

/-- The fragments of the types in order. -/
def fragments (g : Generator) (types : List TypeDescriptor) : Except Error Fragments := do
  let list ← types.mapM g.fragment
  return ⟨list⟩

end Generator

end Typescribe
