/-! Numerals: digits to a base, the exponent of a decimal number, and the range of doubles. -/
namespace Typescribe.Text

/-- The value of a digit; letters of either case count on from ten. -/
def digit? (base : Nat) (c : Char) : Option Nat :=
  let value :=
    if '0' ≤ c ∧ c ≤ '9' then c.toNat - '0'.toNat
    else if 'a' ≤ c ∧ c ≤ 'z' then c.toNat - 'a'.toNat + 10
    else if 'A' ≤ c ∧ c ≤ 'Z' then c.toNat - 'A'.toNat + 10
    else base
  if value < base then some value else none

/-- The digit of a value below 36; `ten` is the letter for ten. -/
def digitChar (ten : Char) (value : Nat) : Char :=
  if value < 10 then Char.ofNat ('0'.toNat + value) else Char.ofNat (ten.toNat + (value - 10))

theorem digit?_digitChar {ten : Char} (h : ten = 'a' ∨ ten = 'A') :
    ∀ d < 16, digit? 16 (digitChar ten d) = some d := by
  rcases h with rfl | rfl <;> decide

/-- The digits of a number to a base, so many of them from the last. -/
def lastDigits (base : Nat) (ten : Char) : Nat → Nat → List Char
  | 0, _ => []
  | count + 1, n => lastDigits base ten count (n / base) ++ [digitChar ten (n % base)]

def ofDigits (base : Nat) (ds : List Nat) : Nat :=
  ds.foldl (fun n d => n * base + d) 0

/-- The number that one or more digits write. -/
def number? (base : Nat) (cs : List Char) : Option Nat :=
  if cs.isEmpty then none else (cs.mapM (digit? base)).map (ofDigits base)

/-- The decimal digits at the front, and the rest. -/
def spanDigits : List Char → List Nat × List Char
  | [] => ([], [])
  | c :: cs =>
    match digit? 10 c with
    | some d => let (ds, rest) := spanDigits cs; (d :: ds, rest)
    | none => ([], c :: cs)

/-- The exponent part: absent, or a mark, an optional sign and digits to the end. -/
def exponent? : List Char → Option Int
  | [] => some 0
  | c :: cs =>
    if c = 'e' ∨ c = 'E' then
      let (negative, digits) :=
        match cs with
        | '+' :: ds => (false, ds)
        | '-' :: ds => (true, ds)
        | ds => (false, ds)
      match spanDigits digits with
      | (d :: ds, []) => let n := (ofDigits 10 (d :: ds) : Int); some (if negative then -n else n)
      | _ => none
    else none

/-- Half a unit above the largest double, from where on rounding gives infinity. -/
def doubleLimit : Nat := (Nat.pow 2 54 - 1) * Nat.pow 2 970

end Typescribe.Text
