import Typescribe.Text.Alphanumeric
import Typescribe.Text.CaseMap
import Typescribe.Text.LetterCase

/-! Words of an identifier, and the spellings built from them. A word ends where an alphanumeric
piece ends, where a lowercase letter meets an uppercase one, and before the last of several
uppercase letters that a lowercase one follows: `XMLHttpRequest` has the words `XML`, `Http` and
`Request`. -/
namespace Typescribe.Text

/-- The case of the last cased letter of the word being read. -/
inductive WordMode where
  | boundary
  | lower
  | upper
  deriving DecidableEq, Repr

def WordMode.next (mode : WordMode) (c : Char) : WordMode :=
  if isLowercase c then .lower else if isUppercase c then .upper else mode

/-- The words of the rest of a piece, where `word` has been read of the current one. -/
def wordsFrom (mode : WordMode) (word : List Char) : List Char → List (List Char)
  | [] => []
  | [c] => [word ++ [c]]
  | c :: d :: rest =>
    if mode.next c = .lower ∧ isUppercase d then
      (word ++ [c]) :: wordsFrom .boundary [] (d :: rest)
    else if mode = .upper ∧ isUppercase c ∧ isLowercase d then
      word :: wordsFrom .boundary [c] (d :: rest)
    else
      wordsFrom (mode.next c) (word ++ [c]) (d :: rest)

def words (cs : List Char) : List (List Char) :=
  (cs.splitOnP fun c => !isAlphanumeric c).flatMap (wordsFrom .boundary [])

/-- A capital sigma that ends the word has a form of its own. -/
def lowercaseWord : List Char → List Char
  | [] => []
  | [c] => if c = 'Σ' then ['ς'] else lowercaseForm c
  | c :: d :: rest => lowercaseForm c ++ lowercaseWord (d :: rest)

def capitalizeWord : List Char → List Char
  | [] => []
  | c :: cs => uppercaseForm c ++ lowercaseWord cs

/-- Makes `order-line` of `OrderLine`. -/
def kebabCase (cs : List Char) : List Char :=
  ['-'].intercalate ((words cs).map lowercaseWord)

/-- Makes `orderLine` of `OrderLine`. -/
def camelCase (cs : List Char) : List Char :=
  match words cs with
  | [] => []
  | w :: ws => lowercaseWord w ++ ws.flatMap capitalizeWord

end Typescribe.Text
