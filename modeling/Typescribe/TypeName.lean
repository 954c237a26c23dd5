import Typescribe.Text.Split

/-! Names of types: an optional dotted qualifier and a simple name. -/
namespace Typescribe

structure TypeName where
  qualifier : Option String
  simple : String
  deriving DecidableEq, Repr, Inhabited

namespace TypeName

/-- An empty qualifier counts as none. -/
def make (qualifier : Option String) (simple : String) : TypeName :=
  ⟨qualifier.filter fun q => !q.isEmpty, simple⟩

/-- Cuts a full name at its last dot. -/
def parse (fullName : String) : TypeName :=
  match Text.splitLast '.' fullName.toList with
  | some (qualifier, simple) => make (some (String.ofList qualifier)) (String.ofList simple)
  | none => make none fullName

def fullName (t : TypeName) : String :=
  match t.qualifier with
  | some q => q ++ "." ++ t.simple
  | none => t.simple

/-- By qualifier, an absent one first, and then by simple name; texts compare by code point. -/
def le (a b : TypeName) : Bool :=
  match a.qualifier, b.qualifier with
  | none, some _ => true
  | some _, none => false
  | none, none => decide (a.simple ≤ b.simple)
  | some p, some q => if p = q then decide (a.simple ≤ b.simple) else decide (p ≤ q)

def sort (names : List TypeName) : List TypeName :=
  names.mergeSort le

end TypeName

end Typescribe
