import Typescribe.Xml.Tree

/-! Namespaces: every qualifier is bound around its use, and no attribute occurs twice under one
expanded name. -/
namespace Typescribe.Xml

/-- The namespace that the qualifier `xml` always has. -/
def xmlNamespace : String := "http://www.w3.org/XML/1998/namespace"

/-- The namespace of bindings, which nothing may be bound to. -/
def bindingNamespace : String := "http://www.w3.org/2000/xmlns/"

/-- Qualifiers and what they are bound to, inner bindings first. -/
abbrev Scope := List (String × String)

namespace Attribute

def isQualifierBinding (a : Attribute) : Bool :=
  a.name.qualifier = "xmlns"

def isDefaultBinding (a : Attribute) : Bool :=
  !a.isQualifierBinding && a.name.simple = "xmlns"

def isBinding (a : Attribute) : Bool :=
  a.isQualifierBinding || a.isDefaultBinding

/-- A binding does not touch the two reserved namespaces, except that `xml` may be bound to its
own. -/
def isProperBinding (a : Attribute) : Bool :=
  a.value != bindingNamespace &&
    if a.isQualifierBinding then (a.name.simple == "xml") == (a.value == xmlNamespace)
    else a.value != xmlNamespace

/-- The namespace of an attribute, if its qualifier is bound. -/
def uri? (scope : Scope) (a : Attribute) : Option (Option String) :=
  if a.name.qualifier = "" then some none
  else if a.name.qualifier = "xml" then some (some xmlNamespace)
  else (scope.lookup a.name.qualifier).map some

end Attribute

/-- The qualifiers that the attributes bind. -/
def ownScope (attributes : List Attribute) : Scope :=
  (attributes.filter fun a => a.isQualifierBinding && a.value != xmlNamespace).map fun a =>
    (a.name.simple, a.value)

/-- The expanded names of the attributes that bind nothing, if all their qualifiers are bound. -/
def expandedNames? (scope : Scope) (attributes : List Attribute) :
    Option (List (Option String × String)) :=
  (attributes.filter fun a => !a.isBinding).mapM fun a =>
    (a.uri? scope).map fun uri => (uri, a.name.simple)

def boundName (scope : Scope) (name : Name) : Bool :=
  name.qualifier = "" || (name.qualifier != "xmlns" && (scope.lookup name.qualifier).isSome)

def properAttributes (outer : Scope) (attributes : List Attribute) : Bool :=
  (attributes.filter Attribute.isBinding).all Attribute.isProperBinding &&
    decide ((ownScope attributes).map Prod.fst).Nodup &&
    match expandedNames? (ownScope attributes ++ outer) attributes with
    | some names => decide names.Nodup
    | none => false

mutual

/-- Whether all names below a node are bound. -/
def Node.isBound (scope : Scope) : Node → Bool
  | .text _ => true
  | .element name attributes children =>
    properAttributes scope attributes && boundName (ownScope attributes ++ scope) name &&
      areBound (ownScope attributes ++ scope) children

def areBound (scope : Scope) : List Node → Bool
  | [] => true
  | n :: ns => n.isBound scope && areBound scope ns

end

end Typescribe.Xml
