import Mathlib
import Typescribe.TypeName

/-!
# Full names

A full name is cut at its last dot. Cutting undoes joining for the names that have no dot in the
simple part and no empty qualifier, and joining undoes cutting unless the only dot stands in front.
-/
namespace Typescribe

namespace Text

variable {α : Type} [DecidableEq α] {sep : α}

lemma splitLast_eq_none_iff {cs : List α} : splitLast sep cs = none ↔ sep ∉ cs := by
  induction cs with
  | nil => simp [splitLast]
  | cons c cs ih =>
    rw [splitLast]
    cases hs : splitLast sep cs with
    | some p =>
      have hm : sep ∈ cs := by
        by_contra hn
        rw [ih.mpr hn] at hs
        cases hs
      simp [hm]
    | none =>
      have hn : sep ∉ cs := ih.mp hs
      by_cases hc : c = sep
      · simp [hc]
      · simp [hc, hn, Ne.symm hc]

lemma splitLast_append (before : List α) {after : List α} (h : sep ∉ after) :
    splitLast sep (before ++ sep :: after) = some (before, after) := by
  induction before with
  | nil => simp [splitLast, splitLast_eq_none_iff.mpr h]
  | cons c before ih => simp [splitLast, ih]

lemma splitLast_eq_some {cs before after : List α} (h : splitLast sep cs = some (before, after)) :
    cs = before ++ sep :: after ∧ sep ∉ after := by
  induction cs generalizing before with
  | nil => cases h
  | cons c cs ih =>
    rw [splitLast] at h
    cases hs : splitLast sep cs with
    | some p =>
      obtain ⟨b, a⟩ := p
      rw [hs] at h
      cases h
      obtain ⟨rfl, hn⟩ := ih hs
      exact ⟨rfl, hn⟩
    | none =>
      rw [hs] at h
      simp only at h
      split_ifs at h with hc
      cases h
      exact ⟨by rw [hc]; rfl, splitLast_eq_none_iff.mp hs⟩

end Text

namespace TypeName

lemma make_some {q : String} (simple : String) (h : q ≠ "") :
    make (some q) simple = ⟨some q, simple⟩ := by
  simp [make, Option.filter, h]

lemma parse_of_notMem {s : String} (h : '.' ∉ s.toList) : parse s = ⟨none, s⟩ := by
  rw [parse, Text.splitLast_eq_none_iff.mpr h]
  rfl

lemma parse_of_append {s : String} {before after : List Char}
    (hs : s.toList = before ++ '.' :: after) (h : '.' ∉ after) :
    parse s = make (some (String.ofList before)) (String.ofList after) := by
  rw [parse, hs, Text.splitLast_append before h]

lemma parse_cases (s : String) : ('.' ∉ s.toList ∧ parse s = ⟨none, s⟩) ∨
    ∃ before after, s.toList = before ++ '.' :: after ∧ '.' ∉ after ∧
      parse s = make (some (String.ofList before)) (String.ofList after) := by
  cases hs : Text.splitLast '.' s.toList with
  | none =>
    have hn := Text.splitLast_eq_none_iff.mp hs
    exact .inl ⟨hn, parse_of_notMem hn⟩
  | some p =>
    obtain ⟨before, after⟩ := p
    obtain ⟨he, hn⟩ := Text.splitLast_eq_some hs
    exact .inr ⟨before, after, he, hn, parse_of_append he hn⟩

lemma dot_notMem_parse (s : String) : '.' ∉ (parse s).simple.toList := by
  rcases parse_cases s with ⟨hn, hp⟩ | ⟨before, after, -, hn, hp⟩
  · rw [hp]
    exact hn
  · rw [hp]
    simpa [make] using hn

lemma simple_parse (s : String) :
    (parse s).simple = String.ofList (Text.afterLast '.' s.toList) := by
  unfold parse Text.afterLast
  split <;> simp [make, *]

/-- Nothing follows a dot at the end. -/
lemma simple_parse_eq_empty_iff {s : String} (h : s ≠ "") :
    (parse s).simple = "" ↔ s.toList.getLast? = some '.' := by
  rcases parse_cases s with ⟨hn, hp⟩ | ⟨before, after, hs, hn, hp⟩
  · rw [hp]
    exact ⟨fun he => absurd he h, fun hl => absurd (List.mem_of_getLast? hl) hn⟩
  · rw [hp, hs, List.getLast?_append_cons]
    cases after with
    | nil => simp [make]
    | cons c cs =>
      have hl : (c :: cs).getLast? ≠ some '.' := fun hl => hn (List.mem_of_getLast? hl)
      simpa [make] using hl

lemma qualifier_make_ne (qualifier : Option String) (simple : String) :
    (make qualifier simple).qualifier ≠ some "" := by
  intro h
  have hq : (qualifier.filter fun q => !q.isEmpty) = some "" := h
  simp [Option.filter_eq_some_iff] at hq

lemma qualifier_parse_ne (s : String) : (parse s).qualifier ≠ some "" := by
  rcases parse_cases s with ⟨-, hp⟩ | ⟨before, after, -, -, hp⟩
  · simp [hp]
  · rw [hp]
    exact qualifier_make_ne _ _

/-- A name is read back from its full name exactly if its parts can be told apart there. -/
theorem parse_fullName_eq_iff (t : TypeName) :
    parse t.fullName = t ↔ '.' ∉ t.simple.toList ∧ t.qualifier ≠ some "" := by
  constructor
  · intro h
    have hs := dot_notMem_parse t.fullName
    have hq := qualifier_parse_ne t.fullName
    rw [h] at hs hq
    exact ⟨hs, hq⟩
  · rintro ⟨hs, hq⟩
    obtain ⟨qualifier, simple⟩ := t
    cases qualifier with
    | none => exact parse_of_notMem hs
    | some q =>
      have he : (fullName ⟨some q, simple⟩).toList = q.toList ++ '.' :: simple.toList := by
        simp [fullName]
      have hne : q ≠ "" := fun h => hq (by rw [h])
      rw [parse_of_append he hs, String.ofList_toList, String.ofList_toList, make_some simple hne]

/-- The simple part of a full name is what follows the last dot, if it has none itself. -/
lemma simple_parse_fullName {t : TypeName} (h : '.' ∉ t.simple.toList) :
    (parse t.fullName).simple = t.simple := by
  obtain ⟨qualifier, simple⟩ := t
  cases qualifier with
  | none => rw [fullName, parse_of_notMem h]
  | some q =>
    have he : (fullName ⟨some q, simple⟩).toList = q.toList ++ '.' :: simple.toList := by
      simp [fullName]
    rw [parse_of_append he h]
    simp [make]

/-- The only dot of the text stands in front. -/
def IsLoneDotFirst (s : String) : Prop :=
  ∃ rest, s.toList = '.' :: rest ∧ '.' ∉ rest

/-- What is cut at a dot is joined at the dot, unless nothing stands before it. -/
theorem fullName_parse {s : String} (h : ¬ IsLoneDotFirst s) : (parse s).fullName = s := by
  rcases parse_cases s with ⟨-, hp⟩ | ⟨before, after, hs, hn, hp⟩
  · rw [hp]
    rfl
  · have hb : String.ofList before ≠ "" := by
      intro he
      obtain rfl : before = [] := by simpa using he
      exact h ⟨after, hs, hn⟩
    rw [hp, make_some _ hb, fullName]
    apply String.toList_injective
    simp [hs]

end TypeName

end Typescribe
