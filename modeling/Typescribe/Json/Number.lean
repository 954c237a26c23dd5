import Typescribe.Json.Value
import Typescribe.Text.Numeral

/-! Number literals: their grammar, their value, and whether a double can hold them. -/
namespace Typescribe.Json

/-- The parts of a number literal. -/
structure NumberLiteral where
  negative : Bool
  whole : List Nat
  fraction : List Nat
  exponent : Int
  deriving DecidableEq, Repr

/-- The whole part has no leading zero, and a point has digits on both sides. -/
def numberLiteral? (cs : List Char) : Option NumberLiteral :=
  let (negative, cs) :=
    match cs with
    | '-' :: cs => (true, cs)
    | cs => (false, cs)
  match Text.spanDigits cs with
  | ([], _) => none
  | (0 :: _ :: _, _) => none
  | (whole, '.' :: cs) =>
    match Text.spanDigits cs with
    | ([], _) => none
    | (fraction, cs) => (Text.exponent? cs).map fun e => ⟨negative, whole, fraction, e⟩
  | (whole, cs) => (Text.exponent? cs).map fun e => ⟨negative, whole, [], e⟩

def NumberLiteral.decimal (l : NumberLiteral) : Decimal :=
  let n : Int := Text.ofDigits 10 (l.whole ++ l.fraction)
  ⟨if l.negative then -n else n, l.exponent - l.fraction.length⟩

/-- Digits are gathered while they fit 64 bits; the second part counts those left over. -/
def gather (n : Nat) : List Nat → Nat × List Nat
  | [] => (n, [])
  | d :: ds => if n * 10 + d < Nat.pow 2 64 then gather (n * 10 + d) ds else (n, d :: ds)

/-- Rounds to 53 significant bits, a half to the even neighbour. -/
def roundToDouble (n : Nat) : Nat :=
  let unit := Nat.pow 2 (n.log2 + 1 - 53)
  let low := n / unit
  let twice := 2 * (n % unit)
  (if twice < unit ∨ (twice = unit ∧ low % 2 = 0) then low else low + 1) * unit

/-- Whether the double nearest to the literal, computed as a significand of 64 bits times a power of
ten, is finite. -/
def NumberLiteral.isFinite (l : NumberLiteral) : Bool :=
  let (n, left) := gather 0 l.whole
  let (n, unused) := gather n l.fraction
  let exponent : Int := l.exponent + left.length - (l.fraction.length - unused.length)
  if n = 0 ∨ exponent < 0 then true
  else if exponent > 308 then false
  else roundToDouble n * roundToDouble (Nat.pow 10 exponent.toNat) < Text.doubleLimit

end Typescribe.Json
