/-! Sets of code points as lists of spans, and maps on code points as lists of shifts. -/
namespace Typescribe.Text

/-- Every `step`-th code point from `first` to `last`. -/
structure Span where
  first : Nat
  last : Nat
  step : Nat
  deriving DecidableEq, Repr

def Span.contains (s : Span) (n : Nat) : Bool :=
  s.first ≤ n && n ≤ s.last && (n - s.first) % s.step == 0

/-- Whether some span of the list contains the code point. -/
def Span.anyContains (spans : List Span) (n : Nat) : Bool :=
  spans.any fun s => s.contains n

/-- Every `step`-th code point from `first` to `last`, sent to the code point as far after
`target`. -/
structure Shift where
  first : Nat
  last : Nat
  step : Nat
  target : Nat
  deriving DecidableEq, Repr

def Shift.apply? (s : Shift) (n : Nat) : Option Nat :=
  if s.first ≤ n && n ≤ s.last && (n - s.first) % s.step == 0 then some (s.target + (n - s.first))
  else none

/-- The form of a character: its expansion if it has one, else its shift, else itself. -/
def caseForm (expansions : List (Nat × List Nat)) (shifts : List Shift) (c : Char) : List Char :=
  match expansions.lookup c.toNat with
  | some points => points.map Char.ofNat
  | none =>
    match shifts.findSome? fun s => s.apply? c.toNat with
    | some point => [Char.ofNat point]
    | none => [c]

end Typescribe.Text
