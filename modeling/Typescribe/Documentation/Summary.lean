import Typescribe.Documentation
import Typescribe.Error
import Typescribe.Text.Lines
import Typescribe.Text.Split
import Typescribe.Xml.Document

/-! Documentation out of XML: every element `member` with a `name` gives that name the text of its
first `summary`. -/
namespace Typescribe

namespace Xml

/-- The first value of an attribute without qualifier. -/
def attributeValue (name : String) (attributes : List Attribute) : Option String :=
  (attributes.find? fun a => a.name = ⟨"", name⟩).map Attribute.value

end Xml

namespace Documentation

open Xml (Node)

/-- The simple name in a reference such as `T:Shop.Order`. -/
def referencedName (reference : String) : String :=
  String.ofList (Text.afterLast '.' (Text.afterFirst ':' reference.toList))

/-- What an element says by itself: a cross reference says the name of its target. -/
def mention (tag : Xml.Name) (attributes : List Xml.Attribute) : String :=
  if tag.simple = "see" ∨ tag.simple = "seealso" then
    ((Xml.attributeValue "cref" attributes).map referencedName).getD ""
  else ""

mutual

/-- The texts below a node in order. -/
def summaryText : Node → String
  | .text value => value
  | .element tag attributes children => mention tag attributes ++ summaryTexts children

def summaryTexts : List Node → String
  | [] => ""
  | n :: ns => summaryText n ++ summaryTexts ns

end

/-- Trims the text, and then every line of it. -/
def normalize (cs : List Char) : List Char :=
  Text.joinLines ((Text.lines (Text.trim cs)).map Text.trim)

def isSummary : Node → Bool
  | .element tag _ _ => tag.simple = "summary"
  | .text _ => false

/-- The entry that an element gives by itself. -/
def memberEntry (tag : Xml.Name) (attributes : List Xml.Attribute) (children : List Node) :
    Option (String × String) :=
  if tag.simple = "member" then
    match Xml.attributeValue "name" attributes, children.find? isSummary with
    | some key, some summary => some (key, String.ofList (normalize (summaryText summary).toList))
    | _, _ => none
  else none

mutual

/-- The entries of a node and of all below it, in order. -/
def entries : Node → List (String × String)
  | .text _ => []
  | .element tag attributes children =>
    (memberEntry tag attributes children).toList ++ entriesOfAll children

def entriesOfAll : List Node → List (String × String)
  | [] => []
  | n :: ns => entries n ++ entriesOfAll ns

end

/-- The documentation of an XML document; later entries win. -/
def ofXml (text : String) : Except Error Documentation :=
  match Xml.read? text with
  | some root => .ok (Dictionary.ofList (entries root))
  | none => .error .malformedXml

end Documentation

end Typescribe
