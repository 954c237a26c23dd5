import Typescribe.Dictionary
import Typescribe.TypeName

/-! Documentation texts by member. A type has the key `T:` and its full name, a property the key
`P:`, the full name of the type that declares it, a dot and its own name. -/
namespace Typescribe

inductive Member where
  | type (name : TypeName)
  | property (declaring : TypeName) (name : String)
  deriving DecidableEq, Repr

def Member.key : Member → String
  | .type name => "T:" ++ name.fullName
  | .property declaring name => "P:" ++ declaring.fullName ++ "." ++ name

/-- What is known about members. -/
abbrev DocumentationSource := Member → Option String

/-- Texts by key. -/
abbrev Documentation := Dictionary String

namespace Documentation

def insertMember (d : Documentation) (member : Member) (text : String) : Documentation :=
  d.insert member.key text

/-- Adds a text if there is one. -/
def insertMember? (d : Documentation) (member : Member) (text : Option String) : Documentation :=
  match text with
  | some text => d.insertMember member text
  | none => d

def source (d : Documentation) : DocumentationSource :=
  fun member => d.get? member.key

/-- Nothing is known about any member. -/
def silent : DocumentationSource :=
  fun _ => none

end Documentation

end Typescribe
