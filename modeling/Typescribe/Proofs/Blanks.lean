import Mathlib
import Typescribe.Text.Blank

/-!
# Trimming

`Trims s word` says what a trimmed text is without saying how to find it: blanks stand around the
word, and the word has none at its ends. `trimmed` finds it.
-/
namespace Typescribe.Text

/-- No blank at either end. -/
def IsTrim (cs : List Char) : Prop :=
  (∀ c ∈ cs.head?, isBlank c = false) ∧ ∀ c ∈ cs.getLast?, isBlank c = false

instance (cs : List Char) : Decidable (IsTrim cs) :=
  decidable_of_iff (cs.head?.any isBlank = false ∧ cs.getLast?.any isBlank = false)
    (by simp [IsTrim, Option.any_eq_false])

/-- `word` is what `s` is without the blanks around it. -/
def Trims (s word : String) : Prop :=
  IsTrim word.toList ∧ ∃ before after, s.toList = before ++ word.toList ++ after ∧
    (∀ c ∈ before, isBlank c) ∧ ∀ c ∈ after, isBlank c

/-- A stretch on which a test holds ends where the test fails. -/
lemma span_append {p : Char → Bool} {xs ys : List Char} (hx : ∀ c ∈ xs, p c = true)
    (hy : ∀ c ∈ ys.head?, p c = false) :
    (xs ++ ys).takeWhile p = xs ∧ (xs ++ ys).dropWhile p = ys := by
  rw [List.takeWhile_append_of_pos hx, List.dropWhile_append_of_pos hx]
  cases ys with
  | nil => simp
  | cons y ys => simp [hy y rfl]

lemma trim_eq_rdropWhile (cs : List Char) : trim cs = (trimStart cs).rdropWhile isBlank := rfl

lemma trimEnd_append {cs after : List Char} (h : ∀ c ∈ after, isBlank c) :
    trimEnd (cs ++ after) = trimEnd cs := by
  have hr : ∀ c ∈ after.reverse, isBlank c := fun c hc => h c (List.mem_reverse.mp hc)
  rw [trimEnd, List.reverse_append, List.dropWhile_append_of_pos hr, trimEnd]

lemma trimStart_cons {c : Char} (cs : List Char) (h : isBlank c = false) :
    trimStart (c :: cs) = c :: cs := by
  simp [trimStart, h]

lemma trimEnd_eq_self {cs : List Char} (h : ∀ c ∈ cs.getLast?, isBlank c = false) :
    trimEnd cs = cs := by
  refine List.rdropWhile_eq_self_iff.mpr fun hne => ?_
  have hl := h _ (List.getLast?_eq_some_getLast hne)
  simp [hl]

lemma trim_surrounded {before ws after : List Char} (hw : IsTrim ws) (hb : ∀ c ∈ before, isBlank c)
    (ha : ∀ c ∈ after, isBlank c) : trim (before ++ ws ++ after) = ws := by
  rw [trim, List.append_assoc, trimStart, List.dropWhile_append_of_pos hb]
  cases ws with
  | nil =>
    rw [List.nil_append, List.dropWhile_eq_nil_iff.mpr ha]
    rfl
  | cons c cs =>
    have hc : isBlank c = false := hw.1 c rfl
    rw [List.cons_append, ← trimStart, trimStart_cons _ hc, ← List.cons_append, trimEnd_append ha]
    exact trimEnd_eq_self hw.2

lemma isTrim_trim (cs : List Char) : IsTrim (trim cs) := by
  constructor
  · intro c hc
    have hh : (cs.dropWhile isBlank).head? = some c := by
      obtain ⟨rest, hr⟩ : trim cs <+: trimStart cs := List.rdropWhile_prefix isBlank (trimStart cs)
      rw [← trimStart, ← hr, List.head?_append, Option.mem_def.mp hc]
      rfl
    have hd := List.head?_dropWhile_not isBlank cs
    simpa [hh] using hd
  · intro c hc
    rw [trim_eq_rdropWhile] at hc
    obtain ⟨hne, rfl⟩ := List.mem_getLast?_eq_getLast hc
    have hl := List.rdropWhile_last_not isBlank (trimStart cs) hne
    simpa using hl

lemma exists_around_trim (cs : List Char) : ∃ before after, cs = before ++ trim cs ++ after ∧
    (∀ c ∈ before, isBlank c) ∧ ∀ c ∈ after, isBlank c := by
  refine ⟨cs.takeWhile isBlank, (trimStart cs).rtakeWhile isBlank, ?_,
    fun c hc => List.mem_takeWhile_imp hc, fun c hc => List.mem_rtakeWhile_imp hc⟩
  rw [trim_eq_rdropWhile, List.append_assoc, List.rdropWhile_append_rtakeWhile]
  exact List.takeWhile_append_dropWhile.symm

lemma trim_eq_self {cs : List Char} (h : IsTrim cs) : trim cs = cs := by
  simpa using trim_surrounded h (List.forall_mem_nil _) (List.forall_mem_nil _)

lemma trim_append_blanks {cs after : List Char} (h : ∀ c ∈ after, isBlank c) :
    trim (cs ++ after) = trim cs := by
  obtain ⟨before, behind, hcs, hb, ha⟩ := exists_around_trim cs
  have hall : ∀ c ∈ behind ++ after, isBlank c := by
    intro c hc
    rcases List.mem_append.mp hc with hc | hc
    · exact ha c hc
    · exact h c hc
  calc
    trim (cs ++ after) = trim (before ++ trim cs ++ (behind ++ after)) := by
      rw [← List.append_assoc, ← hcs]
    _ = trim cs := trim_surrounded (isTrim_trim cs) hb hall

lemma allBlank_of_trimmed_isEmpty {s : String} (h : (trimmed s).isEmpty = true) :
    allBlank s.toList = true := by
  have ht : trim s.toList = [] := by simpa [trimmed] using h
  obtain ⟨before, after, hs, hb, ha⟩ := exists_around_trim s.toList
  rw [ht, List.append_nil] at hs
  rw [allBlank, hs, List.all_append, List.all_eq_true.mpr hb, List.all_eq_true.mpr ha]
  rfl

theorem trimmed_eq_iff {s word : String} : trimmed s = word ↔ Trims s word := by
  constructor
  · rintro rfl
    rw [Trims, trimmed, String.toList_ofList]
    exact ⟨isTrim_trim s.toList, exists_around_trim s.toList⟩
  · rintro ⟨hw, before, after, hs, hb, ha⟩
    rw [trimmed, hs, trim_surrounded hw hb ha, String.ofList_toList]

lemma trims_self {s : String} (h : IsTrim s.toList) : Trims s s :=
  ⟨h, [], [], by simp, by simp, by simp⟩

end Typescribe.Text
