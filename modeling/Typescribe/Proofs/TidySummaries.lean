import Mathlib
import Typescribe.Documentation.Summary
import Typescribe.Proofs.Blanks
import Typescribe.Proofs.Lines

/-!
# Tidy summaries

A text is tidy if no blank stands at either end of it or of one of its lines. `normalize` makes a
text tidy and leaves a tidy text as it is. It takes away blanks only, and of the line feeds those
around the text only.
-/
namespace Typescribe

namespace Text

/-- No blank at either end of the text or of a line of it. -/
def IsTidy (cs : List Char) : Prop :=
  IsTrim cs ∧ ∀ line ∈ splitLines cs, IsTrim line

/-- The characters that are not blank, in order. -/
def visible (cs : List Char) : List Char :=
  cs.filter fun c => !isBlank c

lemma visible_append (as bs : List Char) : visible (as ++ bs) = visible as ++ visible bs :=
  List.filter_append ..

lemma visible_eq_nil {cs : List Char} (h : ∀ c ∈ cs, isBlank c) : visible cs = [] := by
  simpa [visible] using h

lemma visible_trim (cs : List Char) : visible (trim cs) = visible cs := by
  obtain ⟨before, after, hcs, hb, ha⟩ := exists_around_trim cs
  calc visible (trim cs) = visible (before ++ trim cs ++ after) := by
        rw [visible_append, visible_append, visible_eq_nil hb, visible_eq_nil ha, List.nil_append,
          List.append_nil]
    _ = visible cs := by rw [← hcs]

lemma visible_joinLines (ls : List (List Char)) : visible (joinLines ls) = ls.flatMap visible := by
  induction ls with
  | nil => rfl
  | cons l ls ih =>
    rw [List.flatMap_cons, ← ih]
    by_cases hls : ls = []
    · subst hls
      simp [joinLines, visible]
    · have hn : visible ['\n'] = [] := rfl
      rw [joinLines_cons l hls, ← List.singleton_append, visible_append, visible_append, hn,
        List.nil_append]

lemma mem_of_mem_trim {c : Char} {cs : List Char} (h : c ∈ trim cs) : c ∈ cs := by
  obtain ⟨before, after, hcs, -, -⟩ := exists_around_trim cs
  rw [hcs]
  simp [h]

lemma trim_cons {c : Char} (cs : List Char) (h : isBlank c = false) :
    trim (c :: cs) = c :: trimEnd cs := by
  rw [trim, trimStart_cons cs h, trimEnd, List.reverse_cons, List.dropWhile_append, trimEnd]
  split
  · next he => simp [List.isEmpty_iff.mp he, h]
  · simp

lemma trim_reverse (cs : List Char) : trim cs.reverse = (trim cs).reverse := by
  obtain ⟨before, after, hcs, hb, ha⟩ := exists_around_trim cs
  have ht : IsTrim (trim cs).reverse := by simpa [IsTrim, and_comm] using isTrim_trim cs
  calc trim cs.reverse = trim (after.reverse ++ (trim cs).reverse ++ before.reverse) := by
        conv_lhs => rw [hcs]
        simp
    _ = (trim cs).reverse := trim_surrounded ht (by simpa using ha) (by simpa using hb)

lemma joinLines_cons_cons (c : Char) (l : List Char) (ls : List (List Char)) :
    joinLines ((c :: l) :: ls) = c :: joinLines (l :: ls) :=
  List.intercalate_cons_cons_left

lemma joinLines_reverse (ls : List (List Char)) :
    (joinLines ls).reverse = joinLines (ls.map List.reverse).reverse := by
  induction ls with
  | nil => rfl
  | cons l ls ih =>
    by_cases hls : ls = []
    · simp [hls, joinLines]
    · rw [joinLines_cons l hls, List.reverse_append, List.reverse_cons, ih, List.map_cons,
        List.reverse_cons, joinLines_append (by simpa using hls) (by simp)]
      simp [joinLines]

/-- A text that does not begin with a blank begins with the same character after its lines are
trimmed. -/
lemma head?_joinLines_map_trim {ls : List (List Char)}
    (h : ∀ c ∈ (joinLines ls).head?, isBlank c = false) :
    (joinLines (ls.map trim)).head? = (joinLines ls).head? := by
  cases ls with
  | nil => rfl
  | cons l ls =>
    cases l with
    | nil =>
      by_cases hls : ls = []
      · subst hls
        rfl
      · have hn := h '\n' (by rw [joinLines_cons [] hls]; rfl)
        exact absurd hn (by decide)
    | cons c l =>
      have hc : isBlank c = false := h c (by rw [joinLines_cons_cons]; rfl)
      rw [List.map_cons, trim_cons l hc, joinLines_cons_cons, joinLines_cons_cons]
      rfl

/-- The same holds at the end, since both trimming and joining go backwards as they go forwards. -/
lemma isTrim_joinLines_map_trim {ls : List (List Char)} (h : IsTrim (joinLines ls)) :
    IsTrim (joinLines (ls.map trim)) := by
  constructor
  · rw [head?_joinLines_map_trim h.1]
    exact h.1
  · have hback : ((ls.map List.reverse).reverse.map trim) =
        ((ls.map trim).map List.reverse).reverse := by
      simp [trim_reverse]
    have hlast := @head?_joinLines_map_trim (ls.map List.reverse).reverse
    rw [hback, ← joinLines_reverse, ← joinLines_reverse, List.head?_reverse,
      List.head?_reverse] at hlast
    rw [hlast h.2]
    exact h.2

lemma getLast?_rest_ne {line rest : List Char} (h : (line ++ '\n' :: rest).getLast? ≠ some '\n') :
    rest ≠ [] ∧ rest.getLast? ≠ some '\n' := by
  rw [List.getLast?_append, List.getLast?_cons] at h
  cases rest with
  | nil => exact absurd rfl h
  | cons c cs => exact ⟨List.cons_ne_nil c cs, by simpa [List.getLast?_cons] using h⟩

/-- In a text that does not end with a line feed, the lines that a reader counts are the parts
between the line feeds, up to the carriage returns that trimming takes away too. -/
lemma HasLines.map_trim {cs : List Char} {ls : List (List Char)} (h : HasLines cs ls)
    (hne : cs ≠ []) (hlast : cs.getLast? ≠ some '\n') : ls.map trim = (splitLines cs).map trim := by
  induction h with
  | nil => exact absurd rfl hne
  | last _ hn => rw [splitLines, List.splitOn_eq_singleton hn]
  | @feed line rest ls hn _ _ ih =>
    obtain ⟨hrest, hlast⟩ := getLast?_rest_ne hlast
    rw [splitLines_append_newline rest hn, List.map_cons, List.map_cons, ih hrest hlast]
  | @returnFeed line rest ls hn _ ih =>
    rw [List.append_cons] at hlast ⊢
    obtain ⟨hrest, hlast⟩ := getLast?_rest_ne hlast
    have hr : '\n' ∉ line ++ ['\r'] := by simpa using hn
    have ht : trim (line ++ ['\r']) = trim line :=
      trim_append_blanks (List.forall_mem_singleton.mpr rfl)
    rw [splitLines_append_newline rest hr, List.map_cons, List.map_cons, ht, ih hrest hlast]

end Text

namespace Documentation

open Text

/-- Carriage returns and a line feed at the end make no difference to `normalize`. -/
lemma normalize_eq (cs : List Char) :
    normalize cs = joinLines ((splitLines (trim cs)).map trim) := by
  rw [normalize]
  by_cases hne : trim cs = []
  · rw [hne]
    rfl
  · have hlast : (trim cs).getLast? ≠ some '\n' := by
      intro hn
      exact absurd ((isTrim_trim cs).2 '\n' hn) (by decide)
    rw [(hasLines_lines (trim cs)).map_trim hne hlast]

/-- The lines of a summary are those of the trimmed text, each of them trimmed. -/
theorem splitLines_normalize (cs : List Char) :
    splitLines (normalize cs) = (splitLines (trim cs)).map trim := by
  rw [normalize_eq]
  exact splitLines_joinLines_map (trim cs) fun line hn hm => hn (mem_of_mem_trim hm)

theorem isTidy_normalize (cs : List Char) : IsTidy (normalize cs) := by
  constructor
  · rw [normalize_eq]
    apply isTrim_joinLines_map_trim
    rw [joinLines_splitLines]
    exact isTrim_trim cs
  · intro line hline
    rw [splitLines_normalize] at hline
    obtain ⟨part, -, rfl⟩ := List.mem_map.mp hline
    exact isTrim_trim part

theorem normalize_eq_self {cs : List Char} (h : IsTidy cs) : normalize cs = cs := by
  have hlines : (splitLines cs).map trim = splitLines cs := by
    rw [List.map_congr_left fun line hline => trim_eq_self (h.2 line hline), List.map_id']
  rw [normalize_eq, trim_eq_self h.1, hlines, joinLines_splitLines]

lemma visible_normalize (cs : List Char) : visible (normalize cs) = visible cs := by
  calc visible (normalize cs) = ((splitLines (trim cs)).map trim).flatMap visible := by
        rw [normalize_eq, visible_joinLines]
    _ = (splitLines (trim cs)).flatMap visible := by simp [List.flatMap_map, visible_trim]
    _ = visible (trim cs) := by rw [← visible_joinLines, joinLines_splitLines]
    _ = visible cs := visible_trim cs

lemma count_newline_normalize (cs : List Char) :
    (normalize cs).count '\n' = (trim cs).count '\n' := by
  have h := congrArg List.length (splitLines_normalize cs)
  rw [List.length_map, length_splitLines, length_splitLines] at h
  exact Nat.add_right_cancel h

/-- A summary has no blank at its ends or at the ends of its lines. It has the visible characters of
the text, on as many lines as the trimmed text has, and each line keeps what stands between the
blanks around it. Once tidied, it stays as it is. -/
theorem summary_tidied_once (cs : List Char) :
    (∀ line ∈ splitLines (normalize cs), IsTrim line) ∧ IsTrim (normalize cs) ∧
    visible (normalize cs) = visible cs ∧ (normalize cs).count '\n' = (trim cs).count '\n' ∧
    splitLines (normalize cs) = (splitLines (trim cs)).map trim ∧
      normalize (normalize cs) = normalize cs := by
  have htidy := isTidy_normalize cs
  exact ⟨htidy.2, htidy.1, visible_normalize cs, count_newline_normalize cs,
    splitLines_normalize cs, normalize_eq_self htidy⟩

/-- Blanks at both ends and inside, ASCII and not, an empty line between two carriage returns and
line feeds, and a carriage return inside a line. -/
def raggedSummary : List Char := " \r\n\tFirst  word \u00a0\r\n\r\n  last\rline\u2003\n".toList

theorem raggedSummary_tidied_once :
    normalize raggedSummary = "First  word\n\nlast\rline".toList ∧
    "last\rline".toList ∈ splitLines (normalize raggedSummary) ∧ IsTrim "last\rline".toList ∧
    IsTrim (normalize raggedSummary) ∧ visible (normalize raggedSummary) = visible raggedSummary ∧
    (normalize raggedSummary).count '\n' = (trim raggedSummary).count '\n' ∧
    normalize (normalize raggedSummary) = normalize raggedSummary := by
  have hline : "last\rline".toList ∈ splitLines (normalize raggedSummary) := by decide
  obtain ⟨hlines, htrim, hvisible, hcount, -, htwice⟩ := summary_tidied_once raggedSummary
  exact ⟨by decide, hline, hlines _ hline, htrim, hvisible, hcount, htwice⟩

end Documentation

end Typescribe
