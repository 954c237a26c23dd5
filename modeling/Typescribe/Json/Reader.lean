import Typescribe.Json.Token

/-! Reading JSON text. A machine takes one token at a time and keeps the open arrays and objects on
a stack, so that no depth of nesting is special. -/
namespace Typescribe.Json

/-- An array or object that is still open, with what it holds so far in reverse. -/
inductive Frame where
  | array (items : List Json)
  | object (members : List (Option String × Json))
  /-- An object whose next member has its key but not its value. -/
  | member (members : List (Option String × Json)) (key : Option String)
  deriving Repr

/-- What may come next. -/
inductive Awaited where
  | value
  | itemOrEnd
  | key
  | keyOrEnd
  | colon
  | commaOrEnd
  deriving DecidableEq, Repr

inductive Machine where
  | reading (awaited : Awaited) (stack : List Frame)
  | done (value : Json)
  deriving Repr

namespace Machine

/-- An object with the members in reverse. If a key is no text, the whole object has no value. -/
def objectOf (members : List (Option String × Json)) : Json :=
  match members.reverse.mapM fun m => m.1.map fun key => (key, m.2) with
  | some members => .object members
  | none => .unvalued

/-- Hands a finished value to what encloses it. -/
def put? (v : Json) : List Frame → Option Machine
  | [] => some (.done v)
  | .array items :: stack => some (.reading .commaOrEnd (.array (v :: items) :: stack))
  | .member members key :: stack =>
    some (.reading .commaOrEnd (.object ((key, v) :: members) :: stack))
  | .object _ :: _ => none

/-- A token where a value may begin. -/
def value? (stack : List Frame) : Token → Option Machine
  | .null => put? .null stack
  | .bool b => put? (.bool b) stack
  | .number (some n) => put? (.number n) stack
  | .string (some s) => put? (.string s) stack
  | .number none => put? .unvalued stack
  | .string none => put? .unvalued stack
  | .openBracket => some (.reading .itemOrEnd (.array [] :: stack))
  | .openBrace => some (.reading .keyOrEnd (.object [] :: stack))
  | _ => none

def key? : List Frame → Token → Option Machine
  | .object members :: stack, .string key => some (.reading .colon (.member members key :: stack))
  | _, _ => none

def close? : List Frame → Token → Option Machine
  | .array items :: stack, .closeBracket => put? (.array items.reverse) stack
  | .object members :: stack, .closeBrace => put? (objectOf members) stack
  | _, _ => none

def separate? : List Frame → Option Machine
  | .array items :: stack => some (.reading .value (.array items :: stack))
  | .object members :: stack => some (.reading .key (.object members :: stack))
  | _ => none

def step? (m : Machine) (t : Token) : Option Machine :=
  match m with
  | .done _ => none
  | .reading .value stack => value? stack t
  | .reading .itemOrEnd stack => if t = .closeBracket then close? stack t else value? stack t
  | .reading .key stack => key? stack t
  | .reading .keyOrEnd stack => if t = .closeBrace then close? stack t else key? stack t
  | .reading .colon stack => if t = .colon then some (.reading .value stack) else none
  | .reading .commaOrEnd stack => if t = .comma then separate? stack else close? stack t

def run? (m : Machine) : List Token → Option Machine
  | [] => some m
  | t :: ts => do
    let m ← m.step? t
    m.run? ts

end Machine

def ofTokens? (tokens : List Token) : Option Json :=
  match Machine.run? (.reading .value []) tokens with
  | some (.done v) => some v
  | _ => none

/-- The value of a JSON text, as written. -/
def read? (text : String) : Option Json := do
  let tokens ← Token.read? text.toList
  ofTokens? tokens

/-- The document of a JSON text. -/
def readDocument? (text : String) : Option Json := do
  let v ← read? text
  v.document?

end Typescribe.Json
