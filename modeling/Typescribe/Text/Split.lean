/-! Cutting a list at the first or the last occurrence of an item. -/
namespace Typescribe.Text

/-- What stands before and after the first `sep`. -/
def splitFirst (sep : Char) : List Char → Option (List Char × List Char)
  | [] => none
  | c :: cs =>
    if c = sep then some ([], cs)
    else (splitFirst sep cs).map fun (before, after) => (c :: before, after)

/-- What stands before and after the last `sep`. -/
def splitLast {α : Type} [DecidableEq α] (sep : α) : List α → Option (List α × List α)
  | [] => none
  | c :: cs =>
    match splitLast sep cs with
    | some (before, after) => some (c :: before, after)
    | none => if c = sep then some ([], cs) else none

/-- What stands after the first `sep`, or all of it. -/
def afterFirst (sep : Char) (cs : List Char) : List Char :=
  match splitFirst sep cs with
  | some (_, after) => after
  | none => cs

/-- What stands after the last `sep`, or all of it. -/
def afterLast (sep : Char) (cs : List Char) : List Char :=
  match splitLast sep cs with
  | some (_, after) => after
  | none => cs

end Typescribe.Text
