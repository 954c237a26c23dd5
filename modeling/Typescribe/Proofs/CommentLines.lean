import Mathlib
import Typescribe.Proofs.Comments

/-!
# Comments keep the lines of their text

`lineText?` reads what a line of a comment says, and `restore` undoes the protection of what would
end the comment. Read so, the lines between the first and the last of a comment are the lines of the
documented text.
-/
namespace Typescribe.Documentation

/-- What a protected terminator looks like. -/
def protectedTerminator : List Char := ['*', '\\', '/']

/-- Puts the terminators back. -/
def restore : List Char → List Char
  | '*' :: '\\' :: '/' :: cs => '*' :: '/' :: restore cs
  | c :: cs => c :: restore cs
  | [] => []

/-- What a line of a comment says; nothing if it is no such line. -/
def lineText? : List Char → Option (List Char)
  | [' ', '*'] => some []
  | ' ' :: '*' :: ' ' :: line => some (restore line)
  | _ => none

lemma restore_cons {c : Char} {cs : List Char} (h : ¬ protectedTerminator <+: c :: cs) :
    restore (c :: cs) = c :: restore cs := by
  rw [restore]
  rintro ds rfl rfl
  exact h ⟨ds, rfl⟩

/-- Protection moves no backslash and no slash to another place: what it makes of the rest of a text
begins with them only if the rest does. -/
lemma prefix_of_prefix_protect {c : Char} {cs : List Char}
    (h : protectedTerminator <+: c :: protect cs) : protectedTerminator <+: c :: cs := by
  obtain ⟨rest, hr⟩ := h
  obtain ⟨rfl, hp⟩ := List.cons.inj hr
  have hb : cs.head? = some '\\' := by rw [← head_protect, ← hp]; rfl
  obtain ⟨ds, rfl⟩ := List.head?_eq_some_iff.mp hb
  have hd : protect ('\\' :: ds) = '\\' :: protect ds := by
    rw [protect]
    rintro es ⟨⟩
  rw [hd] at hp
  have hs : ds.head? = some '/' := by rw [← head_protect, ← (List.cons.inj hp).2]; rfl
  obtain ⟨es, rfl⟩ := List.head?_eq_some_iff.mp hs
  exact ⟨es, rfl⟩

/-- Where nothing looks protected to begin with, protection is undone. -/
theorem restore_protect {cs : List Char} (h : ¬ protectedTerminator <:+: cs) :
    restore (protect cs) = cs := by
  fun_induction protect cs with
  | case1 cs ih =>
    have hcs : ¬ protectedTerminator <:+: cs := fun hi => h (hi.trans ⟨['*', '/'], [], by simp⟩)
    rw [restore, ih hcs]
  | case2 c cs _ ih =>
    have hcs : ¬ protectedTerminator <:+: cs :=
      fun hi => h (hi.trans (List.suffix_cons c cs).isInfix)
    have hc : ¬ protectedTerminator <+: c :: protect cs :=
      fun hp => h (prefix_of_prefix_protect hp).isInfix
    rw [restore_cons hc, ih hcs]
  | case3 => rfl

lemma lineText?_lineBody {line : List Char} (h : ¬ protectedTerminator <:+: line) :
    lineText? (lineBody line) = some line := by
  unfold lineBody
  split
  · next he =>
    obtain rfl : line = [] := by simpa using he
    rfl
  · exact congrArg some (restore_protect h)

lemma splitLines_commentLines (text : List Char) :
    Text.splitLines (commentLines text) = outline text ++ [[]] := by
  have h := Text.splitLines_ended [] fun line (hl : line ∈ outline text) => (mem_outline hl).1
  rw [List.append_nil] at h
  rw [commentLines_eq_outline, h]
  rfl

/-- The comment of a text, cut at its line feeds, says the lines of the text between its first and
its last line. A blank text has no comment. -/
theorem comment_says_every_line (text : String) :
    (Text.allBlank text.toList = true → comment? text = none) ∧
    (Text.allBlank text.toList = false → ¬ protectedTerminator <:+: text.toList →
      ∃ comment between ls, comment? text = some comment ∧
        Text.splitLines comment.toList = "/**".toList :: between ++ [" */".toList, []] ∧
        between.map lineText? = ls.map some ∧
          ∀ other, Text.HasLines text.toList other ↔ other = ls) := by
  refine ⟨fun hb => if_pos hb, fun hb hp => ?_⟩
  have hc : comment? text = some (String.ofList (commentLines text.toList)) := if_neg (by simp [hb])
  refine ⟨_, (Text.lines text.toList).map lineBody, Text.lines text.toList, hc, ?_, ?_,
    fun _ => Text.hasLines_iff⟩
  · rw [String.toList_ofList, splitLines_commentLines, outline]
    simp
  · rw [List.map_map]
    refine List.map_congr_left fun line hline => ?_
    have hline := (Text.hasLines_lines text.toList).isInfix line hline
    exact lineText?_lineBody fun hi => hp (hi.trans hline)

/-- Terminators after stars, an empty line, and carriage returns in front of and without a line
feed. -/
def crowdedText : String := "Ends */ here\r\n\n**/ */\\/ \r\r\n *\r"

theorem crowdedText_says_every_line :
    Text.allBlank crowdedText.toList = false ∧ ¬ protectedTerminator <:+: crowdedText.toList ∧
      ∃ comment between ls, comment? crowdedText = some comment ∧
        comment = "/**\n * Ends *\\/ here\n *\n * **\\/ *\\/\\/ \r\n *  *\r\n */\n" ∧
        Text.splitLines comment.toList = "/**".toList :: between ++ [" */".toList, []] ∧
        between.map lineText? = ls.map some ∧ Text.HasLines crowdedText.toList ls := by
  have hb : Text.allBlank crowdedText.toList = false := by decide
  have hp : ¬ protectedTerminator <:+: crowdedText.toList := by decide
  obtain ⟨comment, between, ls, hc, hs, hl, hu⟩ := (comment_says_every_line crowdedText).2 hb hp
  have he : comment? crowdedText =
    some "/**\n * Ends *\\/ here\n *\n * **\\/ *\\/\\/ \r\n *  *\r\n */\n" := by decide
  exact ⟨hb, hp, comment, between, ls, hc, Option.some.inj (hc.symm.trans he), hs, hl,
    (hu ls).mpr rfl⟩

end Typescribe.Documentation
