/-! JSON values. Members of an object keep the order and the repetitions of the text they were read
from; `document` gives the form in which an object has each key once and its keys in order. -/
namespace Typescribe

/-- The number `significand * 10 ^ exponent`. -/
structure Decimal where
  significand : Int
  exponent : Int
  deriving DecidableEq, Repr, Inhabited

/-- A value, or `unvalued` for what the grammar admits and that stands for nothing: a number beyond
the range of a double, a string with an unpaired surrogate escape, or an object with such a key. -/
inductive Json where
  | null
  | bool (value : Bool)
  | number (value : Decimal)
  | string (value : String)
  | array (items : List Json)
  | object (members : List (String × Json))
  | unvalued
  deriving Repr, Inhabited

namespace Json

/-- The members with the given key. -/
def valuesOf (key : String) (members : List (String × Json)) : List Json :=
  members.filterMap fun m => if m.1 = key then some m.2 else none

/-- The value under a key of an object. -/
def get? (key : String) : Json → Option Json
  | .object members => members.lookup key
  | _ => none

mutual

/-- Whether nothing in it is without a value. -/
def isValued : Json → Bool
  | .unvalued => false
  | .array items => areValued items
  | .object members => areMembersValued members
  | _ => true

def areValued : List Json → Bool
  | [] => true
  | v :: vs => v.isValued && areValued vs

def areMembersValued : List (String × Json) → Bool
  | [] => true
  | (_, v) :: ms => v.isValued && areMembersValued ms

end

mutual

/-- How many arrays and objects enclose each other at most. -/
def depth : Json → Nat
  | .array items => depthOfItems items + 1
  | .object members => depthOfMembers members + 1
  | _ => 0

def depthOfItems : List Json → Nat
  | [] => 0
  | v :: vs => max v.depth (depthOfItems vs)

def depthOfMembers : List (String × Json) → Nat
  | [] => 0
  | (_, v) :: ms => max v.depth (depthOfMembers ms)

end

/-- Puts a member at its place among members in key order, unless a later one of the text has taken
it. -/
def insertMember (member : String × Json) : List (String × Json) → List (String × Json)
  | [] => [member]
  | m :: ms =>
    if member.1 < m.1 then member :: m :: ms
    else if member.1 = m.1 then m :: ms
    else m :: insertMember member ms

mutual

/-- Every object with its keys in order, and for each key the last of its values. -/
def inKeyOrder : Json → Json
  | .array items => .array (itemsInKeyOrder items)
  | .object members => .object (membersInKeyOrder members)
  | v => v

def itemsInKeyOrder : List Json → List Json
  | [] => []
  | v :: vs => v.inKeyOrder :: itemsInKeyOrder vs

def membersInKeyOrder : List (String × Json) → List (String × Json)
  | [] => []
  | (k, v) :: ms => insertMember (k, v.inKeyOrder) (membersInKeyOrder ms)

end

/-- The deepest nesting that a document may have. -/
def maxDepth : Nat := 127

/-- The document that a value read from text stands for. -/
def document? (v : Json) : Option Json :=
  if v.isValued && v.depth ≤ maxDepth then some v.inKeyOrder else none

end Json

end Typescribe
