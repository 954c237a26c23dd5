import Mathlib
import Typescribe.Documentation.Comment
import Typescribe.Proofs.Lines

/-!
# Documentation comments end where they should

A comment keeps its form under indentation: `indentLines_comment`. Whatever the documented text is,
the signs that end a comment stand at its end and nowhere else: `isComment_block`.
-/
namespace Typescribe.Documentation

/-- The signs that end a comment. -/
def terminator : List Char := ['*', '/']

/-- A comment that is read as one: nothing in it ends it early. -/
structure IsComment (cs : List Char) : Prop where
  opens : ['/', '*', '*', '\n'] <+: cs
  closes : ['*', '/', '\n'] <:+ cs
  once : ∀ before after, cs = before ++ terminator ++ after → after = ['\n']

lemma terminator_infix_cons {c : Char} {cs : List Char} :
    terminator <:+: c :: cs ↔ (c = '*' ∧ cs.head? = some '/') ∨ terminator <:+: cs := by
  rw [List.infix_cons_iff]
  refine or_congr_left ?_
  cases cs with
  | nil => simp [terminator]
  | cons d cs =>
    simp only [terminator, List.cons_prefix_cons, List.nil_prefix, and_true, List.head?_cons,
      Option.some.injEq]
    constructor <;> rintro ⟨rfl, rfl⟩ <;> exact ⟨rfl, rfl⟩

/-- Where two texts meet, a terminator arises only from a star and a slash. -/
lemma terminator_not_infix_append {a b : List Char} (ha : ¬ terminator <:+: a)
    (hb : ¬ terminator <:+: b) (h : a.getLast? ≠ some '*' ∨ b.head? ≠ some '/') :
    ¬ terminator <:+: a ++ b := by
  induction a with
  | nil => exact hb
  | cons c a ih =>
    rw [terminator_infix_cons, not_or] at ha
    rw [List.cons_append, terminator_infix_cons, not_or]
    cases a with
    | nil =>
      refine ⟨?_, hb⟩
      rintro ⟨rfl, hh⟩
      rcases h with h | h
      · exact h rfl
      · exact h hh
    | cons d a => exact ⟨ha.1, ih ha.2 (by simpa using h)⟩

lemma terminator_not_infix_of_notMem {cs : List Char} (h : '*' ∉ cs) : ¬ terminator <:+: cs := by
  intro hi
  exact h (hi.subset (by simp [terminator]))

/-- The terminator behind a text without terminator is the only one. -/
lemma after_terminator {a before after : List Char} (ha : ¬ terminator <:+: a)
    (h : a ++ terminator ++ ['\n'] = before ++ terminator ++ after) : after = ['\n'] := by
  induction a generalizing before with
  | nil =>
    match before with
    | [] => simpa [terminator, eq_comm] using h
    | [_] => simp [terminator] at h
    | [_, _] => simp [terminator] at h
    | _ :: _ :: _ :: _ => simp [terminator] at h
  | cons c a ih =>
    rw [terminator_infix_cons, not_or] at ha
    cases before with
    | nil =>
      cases a with
      | nil => simp [terminator] at h
      | cons d a =>
        obtain ⟨rfl, rfl, -⟩ : c = '*' ∧ d = '/' ∧ _ := by simpa [terminator] using h
        exact absurd ⟨rfl, rfl⟩ ha.1
    | cons d before =>
      obtain ⟨rfl, ht⟩ := List.cons.inj h
      exact ih ha.2 ht

lemma head_protect (cs : List Char) : (protect cs).head? = cs.head? := by
  fun_cases protect cs <;> rfl

lemma terminator_not_infix_protect (cs : List Char) : ¬ terminator <:+: protect cs := by
  fun_induction protect cs with
  | case1 cs ih => simp [terminator_infix_cons, ih]
  | case2 c cs hc ih =>
    rw [terminator_infix_cons, not_or, head_protect]
    refine ⟨?_, ih⟩
    rintro ⟨rfl, hh⟩
    obtain ⟨ds, rfl⟩ := List.head?_eq_some_iff.mp hh
    exact hc ds rfl rfl
  | case3 => simp [terminator]

lemma mem_of_mem_protect {c : Char} {cs : List Char} (h : c ∈ protect cs) : c ∈ cs ∨ c = '\\' := by
  fun_induction protect cs with
  | case1 cs ih => simp only [List.mem_cons] at h ⊢; tauto
  | case2 d cs hd ih => simp only [List.mem_cons] at h ⊢; tauto
  | case3 => simp at h

/-- A line of the comment without its end. -/
def lineBody (line : List Char) : List Char :=
  if line.isEmpty then [' ', '*'] else ' ' :: '*' :: ' ' :: protect line

lemma commentLine_eq : commentLine = fun line => lineBody line ++ ['\n'] := by
  funext line
  unfold commentLine lineBody
  split <;> simp

lemma newline_notMem_lineBody {line : List Char} (h : '\n' ∉ line) : '\n' ∉ lineBody line := by
  unfold lineBody
  split
  · simp
  · have hp : '\n' ∉ protect line := by
      intro hn
      rcases mem_of_mem_protect hn with hn | hn
      · exact h hn
      · simp at hn
    simp [hp]

lemma allBlank_lineBody (line : List Char) : Text.allBlank (lineBody line) = false := by
  have hb : Text.isBlank '*' = false := by decide
  unfold lineBody
  split <;> simp [Text.allBlank, hb]

lemma terminator_not_infix_lineBody (line : List Char) :
    ¬ terminator <:+: lineBody line ++ ['\n'] := by
  unfold lineBody
  split
  · decide
  · have hn : ¬ terminator <:+: ['\n'] := by decide
    have hp := terminator_not_infix_append (terminator_not_infix_protect line) hn (.inr (by simp))
    simpa [terminator_infix_cons] using hp

/-- The lines of a comment. -/
def outline (text : List Char) : List (List Char) :=
  "/**".toList :: ((Text.lines text).map lineBody ++ [" */".toList])

lemma commentLines_eq_outline (text : List Char) :
    commentLines text = (outline text).flatMap (· ++ ['\n']) := by
  simp [outline, commentLines, commentLine_eq, List.flatMap_map]

lemma mem_outline {text line : List Char} (h : line ∈ outline text) :
    '\n' ∉ line ∧ Text.allBlank line = false := by
  simp only [outline, List.mem_cons, List.mem_append, List.mem_map, List.not_mem_nil, or_false] at h
  rcases h with rfl | ⟨source, hs, rfl⟩ | rfl
  · decide
  · exact ⟨newline_notMem_lineBody (Text.notMem_of_mem_lines hs), allBlank_lineBody source⟩
  · decide

/-- The comment of a text up to its terminator, with every line but the first indented. -/
def blockStart (indent text : List Char) : List Char :=
  ['/', '*', '*', '\n'] ++
    (Text.lines text).flatMap (fun line => indent ++ lineBody line ++ ['\n']) ++
    indent ++ [' ']

def block (indent text : List Char) : List Char :=
  blockStart indent text ++ terminator ++ ['\n']

lemma commentLines_eq_block (text : List Char) : commentLines text = block [] text := by
  simp [commentLines, block, blockStart, commentLine_eq, terminator]

/-- An indented comment is a comment behind one more indent. -/
theorem indentLines_comment (indent text rest : List Char) :
    Text.indentLines indent (commentLines text ++ rest) =
      indent ++ block indent text ++ Text.indentLines indent rest := by
  rw [commentLines_eq_outline, Text.indentLines_ended rest fun _ => mem_outline]
  simp [outline, block, blockStart, List.flatMap_map, terminator]

lemma terminator_not_infix_lines {indent : List Char} (hi : '*' ∉ indent) (ls : List (List Char)) :
    ¬ terminator <:+: ls.flatMap fun line => indent ++ lineBody line ++ ['\n'] := by
  induction ls with
  | nil => simp [terminator]
  | cons line ls ih =>
    have hline : ¬ terminator <:+: indent ++ lineBody line ++ ['\n'] := by
      rw [List.append_assoc]
      refine terminator_not_infix_append (terminator_not_infix_of_notMem hi)
        (terminator_not_infix_lineBody line) (.inl fun hl => hi (List.mem_of_getLast? hl))
    rw [List.flatMap_cons]
    exact terminator_not_infix_append hline ih (.inl (by simp))

lemma terminator_not_infix_blockStart {indent : List Char} (hs : '*' ∉ indent) (hd : '/' ∉ indent)
    (text : List Char) : ¬ terminator <:+: blockStart indent text := by
  have hopen : ¬ terminator <:+: ['/', '*', '*', '\n'] := by decide
  have hlines := terminator_not_infix_append hopen (terminator_not_infix_lines hs (Text.lines text))
    (.inl (by simp))
  have hindent := terminator_not_infix_append hlines (terminator_not_infix_of_notMem hs)
    (.inr fun hh => hd (List.mem_of_head? hh))
  exact terminator_not_infix_append hindent (terminator_not_infix_of_notMem (by simp))
    (.inr (by simp))

/-- Whatever the text, its comment is a comment, at any indent without a star or slash. -/
theorem isComment_block {indent : List Char} (hs : '*' ∉ indent) (hd : '/' ∉ indent)
    (text : List Char) : IsComment (block indent text) where
  opens := by simp [block, blockStart]
  closes := ⟨blockStart indent text, by simp [block, terminator]⟩
  once before after h := after_terminator (terminator_not_infix_blockStart hs hd text) h

end Typescribe.Documentation
