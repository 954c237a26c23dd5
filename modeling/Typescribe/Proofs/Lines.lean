import Mathlib
import Typescribe.Text.Lines

/-! Laws of lines: cutting, joining and indenting go line by line, and indents add up. -/
namespace Typescribe.Text

lemma eq_false_of_mem_splitOnP {p : Char → Bool} {cs piece : List Char}
    (h : piece ∈ cs.splitOnP p) : ∀ c ∈ piece, p c = false := by
  induction cs generalizing piece with
  | nil =>
    obtain rfl : piece = [] := by simpa using h
    simp
  | cons c cs ih =>
    rw [List.splitOnP_cons_eq_if_modifyHead] at h
    obtain ⟨l, ls, hl⟩ := List.exists_cons_of_ne_nil (List.splitOnP_ne_nil p cs)
    rw [hl] at h
    have hs : ∀ l' ∈ l :: ls, ∀ d ∈ l', p d = false := fun l' hl' => ih (by rwa [hl])
    by_cases hc : p c = true
    · rw [if_pos hc] at h
      rcases List.mem_cons.mp h with rfl | h
      · simp
      · exact hs piece h
    · rw [if_neg hc, List.modifyHead_cons] at h
      rcases List.mem_cons.mp h with rfl | h
      · simpa [hc] using hs l (by simp)
      · exact hs piece (by simp [h])

lemma notMem_of_mem_splitLines {cs line : List Char} (h : line ∈ splitLines cs) : '\n' ∉ line := by
  rw [splitLines, List.splitOn_eq_splitOnP] at h
  intro hn
  simpa using eq_false_of_mem_splitOnP h '\n' hn

lemma mem_of_mem_dropReturn {c : Char} {line : List Char} (h : c ∈ dropReturn line) : c ∈ line := by
  fun_induction dropReturn line with
  | case1 => exact h
  | case2 => simp at h
  | case3 d line _ ih =>
    rcases List.mem_cons.mp h with rfl | h
    · simp
    · simp [ih h]

lemma notMem_of_mem_lines {cs line : List Char} (h : line ∈ lines cs) : '\n' ∉ line := by
  rcases List.mem_append.mp h with h | h
  · obtain ⟨part, hp, rfl⟩ := List.mem_map.mp h
    exact fun hn =>
      notMem_of_mem_splitLines (List.mem_of_mem_dropLast hp) (mem_of_mem_dropReturn hn)
  · have hne : splitLines cs ≠ [] := List.splitOn_ne_nil '\n' cs
    rw [List.getLastD_eq_getLast?, List.getLast?_eq_some_getLast hne, Option.getD_some] at h
    have hl : line = (splitLines cs).getLast hne := by
      split at h
      · simp at h
      · simpa using h
    rw [hl]
    exact notMem_of_mem_splitLines (List.getLast_mem hne)

lemma joinLines_cons {ls : List (List Char)} (l : List Char) (h : ls ≠ []) :
    joinLines (l :: ls) = l ++ '\n' :: joinLines ls := by
  rw [joinLines, List.intercalate_cons_of_ne_nil h, List.append_assoc]
  rfl

lemma joinLines_append {ls ms : List (List Char)} (hl : ls ≠ []) (hm : ms ≠ []) :
    joinLines (ls ++ ms) = joinLines ls ++ '\n' :: joinLines ms := by
  induction ls with
  | nil => exact absurd rfl hl
  | cons l ls ih =>
    by_cases hls : ls = []
    · subst hls
      rw [List.singleton_append, joinLines_cons l hm]
      simp [joinLines]
    · rw [List.cons_append, joinLines_cons l (by simp [hls]), joinLines_cons l hls, ih hls,
        List.append_assoc, List.cons_append]

lemma joinLines_splitLines (cs : List Char) : joinLines (splitLines cs) = cs :=
  List.intercalate_splitOn '\n'

lemma splitLines_joinLines {ls : List (List Char)} (hne : ls ≠ []) (h : ∀ l ∈ ls, '\n' ∉ l) :
    splitLines (joinLines ls) = ls :=
  List.splitOn_intercalate '\n' h hne

/-- What is done to each line is seen on each line, if it makes no new ones. -/
lemma splitLines_joinLines_map {f : List Char → List Char} (cs : List Char)
    (h : ∀ line, '\n' ∉ line → '\n' ∉ f line) :
    splitLines (joinLines ((splitLines cs).map f)) = (splitLines cs).map f := by
  refine splitLines_joinLines (by simp [splitLines]) fun l hl => ?_
  obtain ⟨line, hline, rfl⟩ := List.mem_map.mp hl
  exact h line (notMem_of_mem_splitLines hline)

lemma splitLines_append_newline {line : List Char} (rest : List Char) (hn : '\n' ∉ line) :
    splitLines (line ++ '\n' :: rest) = line :: splitLines rest :=
  List.splitOn_append_cons_self_of_not_mem hn rest

lemma length_splitLines (cs : List Char) : (splitLines cs).length = cs.count '\n' + 1 := by
  rw [splitLines]
  induction cs with
  | nil => simp
  | cons c cs ih =>
    rw [List.splitOn_cons_eq_if_modifyHead, List.count_cons]
    split
    · rw [List.length_cons, ih]
    · rw [List.length_modifyHead, ih, Nat.add_zero]

/-- Indentation goes line by line. -/
theorem indentLines_append_newline (indent a b : List Char) :
    indentLines indent (a ++ '\n' :: b) = indentLines indent a ++ '\n' :: indentLines indent b := by
  have hs : splitLines (a ++ '\n' :: b) = splitLines a ++ splitLines b :=
    List.splitOn_append_cons_self a b
  rw [indentLines, hs, List.map_append, joinLines_append]
  · rfl
  · simp [splitLines]
  · simp [splitLines]

lemma indentLines_of_notMem (indent : List Char) {line : List Char} (hn : '\n' ∉ line) :
    indentLines indent line = if allBlank line then [] else indent ++ line := by
  simp [indentLines, splitLines, List.splitOn_eq_singleton hn, joinLines]

lemma indentLines_line {indent line : List Char} (hn : '\n' ∉ line) (hb : allBlank line = false) :
    indentLines indent line = indent ++ line := by
  rw [indentLines_of_notMem indent hn, if_neg (by simp [hb])]

/-- Indenting joined texts is joining the indented ones. -/
theorem indentLines_joinLines (indent : List Char) (texts : List (List Char)) :
    indentLines indent (joinLines texts) = joinLines (texts.map (indentLines indent)) := by
  induction texts with
  | nil => simp [indentLines, joinLines, splitLines, allBlank]
  | cons t ts ih =>
    by_cases hts : ts = []
    · simp [hts, joinLines]
    · rw [joinLines_cons t hts, List.map_cons, joinLines_cons _ (by simpa using hts),
        indentLines_append_newline, ih]

/-- Lines that are ended one by one are indented one by one. -/
theorem indentLines_ended {indent : List Char} {lines : List (List Char)} (rest : List Char)
    (h : ∀ line ∈ lines, '\n' ∉ line ∧ allBlank line = false) :
    indentLines indent (lines.flatMap (· ++ ['\n']) ++ rest) =
      lines.flatMap (fun line => indent ++ line ++ ['\n']) ++ indentLines indent rest := by
  induction lines with
  | nil => rfl
  | cons line lines ih =>
    obtain ⟨hn, hb⟩ := h line (by simp)
    rw [List.flatMap_cons, List.append_assoc, List.append_assoc, List.singleton_append,
      indentLines_append_newline, indentLines_line hn hb, ih fun l hl => h l (by simp [hl])]
    simp

/-- Lines that are ended one by one are cut apart again. -/
theorem splitLines_ended {lines : List (List Char)} (rest : List Char)
    (h : ∀ line ∈ lines, '\n' ∉ line) :
    splitLines (lines.flatMap (· ++ ['\n']) ++ rest) = lines ++ splitLines rest := by
  induction lines with
  | nil => rfl
  | cons line lines ih =>
    have hrest := ih fun l hl => h l (by simp [hl])
    rw [List.flatMap_cons, List.append_assoc, List.append_assoc, List.singleton_append,
      splitLines_append_newline _ (h line (by simp)), hrest, List.cons_append]

/-- An indent without a line feed keeps the lines apart as they were. -/
lemma splitLines_indentLines {indent : List Char} (cs : List Char) (h : '\n' ∉ indent) :
    splitLines (indentLines indent cs) =
      (splitLines cs).map fun line => if allBlank line then [] else indent ++ line := by
  refine splitLines_joinLines_map cs fun line hn => ?_
  split
  · simp
  · simp [h, hn]

/-- A line is blank after indentation exactly if it was before, so the second indent goes where the
first went. -/
lemma indentLines_indentLines {inner : List Char} (outer cs : List Char) (h : '\n' ∉ inner) :
    indentLines outer (indentLines inner cs) = indentLines (outer ++ inner) cs := by
  rw [indentLines, splitLines_indentLines cs h, List.map_map, indentLines]
  congr 1
  refine List.map_congr_left fun line _ => ?_
  rw [Function.comp_apply]
  by_cases hb : allBlank line = true
  · rw [if_pos hb, if_pos hb]
    rfl
  · have hi : ¬ allBlank (inner ++ line) = true := by
      rw [allBlank, List.all_append, Bool.and_eq_true]
      exact fun hall => hb hall.2
    rw [if_neg hb, if_neg hb, if_neg hi, List.append_assoc]

lemma toList_indented (indent s : String) :
    (indented indent s).toList = indentLines indent.toList s.toList :=
  String.toList_ofList

/-- Indentation is what it does to one line, line by line, and two indents in turn are one
indent. -/
theorem indentation_by_lines_adds_up (indent : String) :
    (∀ a b, indented indent (a ++ "\n" ++ b) = indented indent a ++ "\n" ++ indented indent b) ∧
    (∀ line : String, '\n' ∉ line.toList →
      indented indent line = if allBlank line.toList then "" else indent ++ line) ∧
    ('\n' ∉ indent.toList →
      ∀ outer text, indented outer (indented indent text) = indented (outer ++ indent) text) := by
  refine ⟨fun a b => ?_, fun line hn => ?_, fun hn outer text => ?_⟩
  · have h := indentLines_append_newline indent.toList a.toList b.toList
    apply String.toList_injective
    simpa [toList_indented] using h
  · apply String.toList_injective
    rw [toList_indented, indentLines_of_notMem _ hn]
    split <;> simp
  · apply String.toList_injective
    rw [toList_indented, toList_indented, indentLines_indentLines _ _ hn, toList_indented,
      String.toList_append]

-- A line feed in the inner indent makes two lines of one, and the outer indent then goes in front
-- of the wrong one.
example : indented "x" (indented "\n" "a") ≠ indented ("x" ++ "\n") "a" := by decide

/-- A line of blanks, a line with blanks in front and a carriage return behind, and an empty last
line. -/
def raggedText : String := "a\n \t\n  b\r\n"

theorem raggedText_indented_twice :
    '\n' ∉ "  b\r".toList ∧ indented "\t" "  b\r" = "\t  b\r" ∧
    '\n' ∉ "\t".toList ∧ indented "|\n" (indented "\t" raggedText) = indented "|\n\t" raggedText ∧
      indented "|\n\t" raggedText = "|\n\ta\n\n|\n\t  b\r\n" := by
  obtain ⟨-, hline, htwice⟩ := indentation_by_lines_adds_up "\t"
  exact ⟨by decide, hline "  b\r" (by decide), by decide, htwice (by decide) "|\n" raggedText,
    by decide⟩

/-- The lines of a text. A line ends with a line feed or with a carriage return and a line feed, and
only the last one may have no end, if there is something in it. -/
inductive HasLines : List Char → List (List Char) → Prop
  | nil : HasLines [] []
  | last {line : List Char} (hne : line ≠ []) (hn : '\n' ∉ line) : HasLines line [line]
  | feed {line rest : List Char} {ls : List (List Char)} (hn : '\n' ∉ line)
      (hr : line.getLast? ≠ some '\r')
      (h : HasLines rest ls) : HasLines (line ++ '\n' :: rest) (line :: ls)
  | returnFeed {line rest : List Char} {ls : List (List Char)} (hn : '\n' ∉ line)
      (h : HasLines rest ls) :
      HasLines (line ++ '\r' :: '\n' :: rest) (line :: ls)

lemma dropReturn_append_return (line : List Char) : dropReturn (line ++ ['\r']) = line := by
  induction line with
  | nil => rfl
  | cons c line ih =>
    rw [List.cons_append, dropReturn, ih]
    simp

lemma dropReturn_eq_self {line : List Char} (h : line.getLast? ≠ some '\r') :
    dropReturn line = line := by
  fun_induction dropReturn line with
  | case1 => rfl
  | case2 => exact absurd rfl h
  | case3 c line _ ih =>
    cases line with
    | nil => rfl
    | cons d line => rw [ih (by simpa using h)]

lemma lines_of_notMem {line : List Char} (hn : '\n' ∉ line) :
    lines line = if line.isEmpty then [] else [line] := by
  simp [lines, splitLines, List.splitOn_eq_singleton hn]

lemma lines_append_newline {line : List Char} (rest : List Char) (hn : '\n' ∉ line) :
    lines (line ++ '\n' :: rest) = dropReturn line :: lines rest := by
  obtain ⟨part, parts, hp⟩ := List.exists_cons_of_ne_nil (List.splitOn_ne_nil '\n' rest)
  rw [lines, splitLines_append_newline rest hn, lines, splitLines, hp, List.dropLast_cons_cons,
    List.map_cons, List.getLastD_cons, List.getLastD_cons, List.getLastD_cons, List.cons_append]

/-- `lines` finds the lines. -/
theorem hasLines_lines (cs : List Char) : HasLines cs (lines cs) := by
  induction hlen : cs.length using Nat.strong_induction_on generalizing cs with
  | _ n ih =>
    by_cases hm : '\n' ∈ cs
    · obtain ⟨line, rest, rfl, hn⟩ := List.eq_append_cons_of_mem hm
      have hrest : HasLines rest (lines rest) := ih rest.length (by simp at hlen; omega) rest rfl
      rw [lines_append_newline rest hn]
      by_cases hr : line.getLast? = some '\r'
      · obtain ⟨front, rfl⟩ := List.getLast?_eq_some_iff.mp hr
        rw [dropReturn_append_return, List.append_assoc]
        exact .returnFeed (fun h => hn (by simp [h])) hrest
      · rw [dropReturn_eq_self hr]
        exact .feed hn hr hrest
    · rw [lines_of_notMem hm]
      cases cs with
      | nil => exact .nil
      | cons c cs => exact .last (by simp) hm

lemma HasLines.eq_lines {cs : List Char} {ls : List (List Char)} (h : HasLines cs ls) :
    ls = lines cs := by
  induction h with
  | nil => rfl
  | last hne hn =>
    rw [lines_of_notMem hn, if_neg]
    simpa using hne
  | feed hn hr _ ih => rw [lines_append_newline _ hn, dropReturn_eq_self hr, ← ih]
  | @returnFeed line rest ls hn _ ih =>
    have hr : '\n' ∉ line ++ ['\r'] := by simpa using hn
    rw [List.append_cons, lines_append_newline _ hr, dropReturn_append_return, ← ih]

/-- A text has one list of lines. -/
theorem hasLines_iff {cs : List Char} {ls : List (List Char)} : HasLines cs ls ↔ ls = lines cs :=
  ⟨HasLines.eq_lines, fun h => h ▸ hasLines_lines cs⟩

lemma HasLines.isInfix {cs : List Char} {ls : List (List Char)} (h : HasLines cs ls) :
    ∀ line ∈ ls, line <:+: cs := by
  induction h with
  | nil => simp
  | last => simp
  | @feed line rest ls _ _ _ ih =>
    intro l hl
    rcases List.mem_cons.mp hl with rfl | hl
    · exact (List.prefix_append _ _).isInfix
    · exact (ih l hl).trans ((List.suffix_cons _ _).trans (List.suffix_append _ _)).isInfix
  | @returnFeed line rest ls _ _ ih =>
    intro l hl
    rcases List.mem_cons.mp hl with rfl | hl
    · exact (List.prefix_append _ _).isInfix
    · have hs : rest <:+ '\r' :: '\n' :: rest := (List.suffix_cons _ _).trans (List.suffix_cons _ _)
      exact (ih l hl).trans (hs.trans (List.suffix_append _ _)).isInfix

end Typescribe.Text
