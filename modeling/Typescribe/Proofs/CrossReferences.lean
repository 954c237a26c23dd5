import Mathlib
import Typescribe.Documentation.Summary
import Typescribe.Proofs.DocumentationEntries
import Typescribe.Proofs.TypeNames

/-!
# Cross references in summaries

A cross reference stands for the simple name of its target. `Reads` tells the text of a tree in
which every reference is replaced as a whole by that name. The text of a summary has the name and
behind it whatever the reference holds, so the two agree exactly on trees whose references hold no
text.
-/
namespace Typescribe

namespace Text

variable {sep : Char} {cs after : List Char}

/-- What follows the first `sep`, or all of it if there is none. -/
def IsAfterFirst (sep : Char) (cs after : List Char) : Prop :=
  (sep ∉ cs ∧ after = cs) ∨ ∃ before, sep ∉ before ∧ cs = before ++ sep :: after

/-- What follows the last `sep`, or all of it if there is none. -/
def IsAfterLast (sep : Char) (cs after : List Char) : Prop :=
  (sep ∉ cs ∧ after = cs) ∨ ∃ before, sep ∉ after ∧ cs = before ++ sep :: after

lemma splitFirst_eq_none_iff : splitFirst sep cs = none ↔ sep ∉ cs := by
  induction cs with
  | nil => simp [splitFirst]
  | cons c cs ih =>
    rw [splitFirst]
    by_cases hc : c = sep
    · simp [hc]
    · simp [hc, ih, Ne.symm hc]

lemma splitFirst_append {before : List Char} (h : sep ∉ before) (after : List Char) :
    splitFirst sep (before ++ sep :: after) = some (before, after) := by
  induction before with
  | nil => simp [splitFirst]
  | cons c before ih =>
    obtain ⟨hc, hb⟩ : sep ≠ c ∧ sep ∉ before := by simpa using h
    simp [splitFirst, ih hb, hc.symm]

lemma splitFirst_eq_some {before : List Char} (h : splitFirst sep cs = some (before, after)) :
    sep ∉ before ∧ cs = before ++ sep :: after := by
  induction cs generalizing before with
  | nil => cases h
  | cons c cs ih =>
    rw [splitFirst] at h
    split_ifs at h with hc
    · cases h
      exact ⟨by simp, by simp [hc]⟩
    · obtain ⟨⟨b, a⟩, hs, he⟩ := Option.map_eq_some_iff.mp h
      cases he
      obtain ⟨hb, rfl⟩ := ih hs
      exact ⟨by simp [hb, Ne.symm hc], rfl⟩

lemma isAfterFirst_iff : IsAfterFirst sep cs after ↔ after = afterFirst sep cs := by
  rw [afterFirst]
  constructor
  · rintro (⟨hn, rfl⟩ | ⟨before, hb, rfl⟩)
    · rw [splitFirst_eq_none_iff.mpr hn]
    · rw [splitFirst_append hb]
  · rintro rfl
    cases hs : splitFirst sep cs with
    | none => exact .inl ⟨splitFirst_eq_none_iff.mp hs, rfl⟩
    | some p =>
      obtain ⟨before, after⟩ := p
      exact .inr ⟨before, splitFirst_eq_some hs⟩

lemma isAfterLast_iff : IsAfterLast sep cs after ↔ after = afterLast sep cs := by
  rw [afterLast]
  constructor
  · rintro (⟨hn, rfl⟩ | ⟨before, ha, rfl⟩)
    · rw [splitLast_eq_none_iff.mpr hn]
    · rw [splitLast_append before ha]
  · rintro rfl
    cases hs : splitLast sep cs with
    | none => exact .inl ⟨splitLast_eq_none_iff.mp hs, rfl⟩
    | some p =>
      obtain ⟨before, after⟩ := p
      exact .inr ⟨before, (splitLast_eq_some hs).symm⟩

end Text

namespace Documentation

/-- What follows the first colon of a reference, and of that what follows the last dot. -/
def IsReferencedName (reference name : String) : Prop :=
  ∃ target, Text.IsAfterFirst ':' reference.toList target ∧ Text.IsAfterLast '.' target name.toList

lemma isReferencedName_iff {reference name : String} :
    IsReferencedName reference name ↔ name = referencedName reference := by
  rw [referencedName, ← String.toList_inj, String.toList_ofList, ← Text.isAfterLast_iff]
  constructor
  · rintro ⟨target, hf, hl⟩
    rwa [Text.isAfterFirst_iff.mp hf] at hl
  · exact fun h => ⟨_, Text.isAfterFirst_iff.mpr rfl, h⟩

end Documentation

namespace Xml.Node

open Documentation

/-- What a cross reference refers to. -/
def reference? : Node → Option String
  | .text _ => none
  | .element tag attributes _ =>
    if tag.simple = "see" ∨ tag.simple = "seealso" then attributeValue "cref" attributes else none

def children : Node → List Node
  | .text _ => []
  | .element _ _ children => children

mutual

/-- The text of a tree in which every cross reference, with all it holds, has become the name of its
target. -/
inductive Reads : Node → String → Prop
  | text (value : String) : Reads (.text value) value
  | reference {n : Node} {reference name : String} (h : n.reference? = some reference)
      (hn : IsReferencedName reference name) : Reads n name
  | element {tag : Name} {attributes : List Attribute} {children : List Node} {s : String}
      (h : (Node.element tag attributes children).reference? = none) (hc : ReadsAll children s) :
      Reads (.element tag attributes children) s

inductive ReadsAll : List Node → String → Prop
  | nil : ReadsAll [] ""
  | cons {n : Node} {ns : List Node} {s t : String} (h : Reads n s) (hs : ReadsAll ns t) :
      ReadsAll (n :: ns) (s ++ t)

end

/-- What a node says apart from the nodes below it. -/
def ownText : Node → String
  | .text value => value
  | .element tag attributes children =>
    ((reference? (.element tag attributes children)).map referencedName).getD ""

mutual

/-- The tree with nothing left in its cross references. -/
def bare : Node → Node
  | .text value => .text value
  | .element tag attributes children =>
    .element tag attributes
      (if (reference? (.element tag attributes children)).isSome then [] else bareAll children)

def bareAll : List Node → List Node
  | [] => []
  | n :: ns => n.bare :: bareAll ns

end

lemma mention_eq_ownText (tag : Name) (attributes : List Attribute) (children : List Node) :
    mention tag attributes = ownText (.element tag attributes children) := by
  rw [mention, ownText, reference?]
  split_ifs <;> rfl

lemma summaryText_of_reference {n : Node} {reference : String} (h : n.reference? = some reference) :
    summaryText n = referencedName reference ++ summaryTexts n.children := by
  cases n with
  | text value => cases h
  | element tag attributes children =>
    rw [summaryText, mention_eq_ownText tag attributes children, ownText, h]
    rfl

lemma summaryText_of_not_reference {tag : Name} {attributes : List Attribute} {children : List Node}
    (h : (Node.element tag attributes children).reference? = none) :
    summaryText (.element tag attributes children) = summaryTexts children := by
  rw [summaryText, mention_eq_ownText tag attributes children, ownText, h]
  simp

mutual

theorem toList_summaryText (n : Node) :
    (summaryText n).toList = n.descendants.flatMap fun d => d.ownText.toList := by
  match n with
  | .text value => simp [summaryText, descendants, ownText]
  | .element tag attributes children =>
    rw [summaryText, descendants, String.toList_append, List.flatMap_cons,
      toList_summaryTexts children, mention_eq_ownText tag attributes children]

theorem toList_summaryTexts (ns : List Node) :
    (summaryTexts ns).toList = (descendantsOfAll ns).flatMap fun d => d.ownText.toList := by
  match ns with
  | [] => rfl
  | n :: ns =>
    rw [summaryTexts, descendantsOfAll, String.toList_append, List.flatMap_append,
      toList_summaryText n, toList_summaryTexts ns]

end

lemma summaryText_bare_of_reference {n : Node} {reference : String}
    (h : n.reference? = some reference) : summaryText n.bare = referencedName reference := by
  cases n with
  | text value => cases h
  | element tag attributes children =>
    have hb : (Node.element tag attributes []).reference? = some reference := h
    rw [bare, h, Option.isSome_some, if_pos rfl, summaryText_of_reference hb, Node.children,
      summaryTexts, String.append_empty]

lemma summaryText_bare_of_not_reference {tag : Name} {attributes : List Attribute}
    {children : List Node} (h : (Node.element tag attributes children).reference? = none) :
    summaryText (bare (.element tag attributes children)) = summaryTexts (bareAll children) := by
  have hb : (Node.element tag attributes (bareAll children)).reference? = none := h
  rw [bare, h, Option.isSome_none, if_neg Bool.false_ne_true, summaryText_of_not_reference hb]

mutual

theorem reads_iff (n : Node) (s : String) : Reads n s ↔ s = summaryText n.bare := by
  match n with
  | .text value =>
    constructor
    · rintro (_ | ⟨⟨⟩, _⟩)
      rfl
    · rintro rfl
      exact .text _
  | .element tag attributes children =>
    cases hr : (Node.element tag attributes children).reference? with
    | some reference =>
      rw [summaryText_bare_of_reference hr, ← isReferencedName_iff]
      refine ⟨fun h => ?_, .reference hr⟩
      cases h with
      | reference h hn =>
        rw [hr] at h
        cases h
        exact hn
      | element h =>
        rw [hr] at h
        cases h
    | none =>
      rw [summaryText_bare_of_not_reference hr, ← readsAll_iff children s]
      refine ⟨fun h => ?_, .element hr⟩
      cases h with
      | reference h =>
        rw [hr] at h
        cases h
      | element _ hc => exact hc

theorem readsAll_iff (ns : List Node) (s : String) :
    ReadsAll ns s ↔ s = summaryTexts (bareAll ns) := by
  match ns with
  | [] =>
    constructor
    · rintro ⟨⟩
      rfl
    · rintro rfl
      exact .nil
  | n :: ns =>
    constructor
    · rintro (_ | ⟨h, hs⟩)
      rw [bareAll, summaryTexts, (reads_iff n _).mp h, (readsAll_iff ns _).mp hs]
    · rintro rfl
      exact .cons ((reads_iff n _).mpr rfl) ((readsAll_iff ns _).mpr rfl)

end

/-- No cross reference among the nodes holds text. -/
def ContentsSilent (ns : List Node) : Prop :=
  ∀ n ∈ ns, n.reference?.isSome → summaryTexts n.children = ""

lemma contentsSilent_append {ms ns : List Node} :
    ContentsSilent (ms ++ ns) ↔ ContentsSilent ms ∧ ContentsSilent ns :=
  List.forall_mem_append

mutual

theorem length_summaryText_bare_le (n : Node) :
    (summaryText n.bare).length ≤ (summaryText n).length := by
  match n with
  | .text value => exact le_rfl
  | .element tag attributes children =>
    cases hr : (Node.element tag attributes children).reference? with
    | some reference =>
      rw [summaryText_bare_of_reference hr, summaryText_of_reference hr, String.length_append]
      exact Nat.le_add_right _ _
    | none =>
      rw [summaryText_bare_of_not_reference hr, summaryText_of_not_reference hr]
      exact length_summaryTexts_bareAll_le children

theorem length_summaryTexts_bareAll_le (ns : List Node) :
    (summaryTexts (bareAll ns)).length ≤ (summaryTexts ns).length := by
  match ns with
  | [] => exact le_rfl
  | n :: ns =>
    rw [bareAll, summaryTexts, summaryTexts, String.length_append, String.length_append]
    exact Nat.add_le_add (length_summaryText_bare_le n) (length_summaryTexts_bareAll_le ns)

end

mutual

/-- Where a tree has no text, nothing in it has. -/
theorem contentsSilent_of_summaryText (n : Node) (h : summaryText n = "") :
    ContentsSilent n.descendants := by
  match n with
  | .text value =>
    intro d hd hr
    rw [List.mem_singleton.mp hd] at hr
    cases hr
  | .element tag attributes children =>
    rw [summaryText, String.append_eq_empty_iff] at h
    intro d hd hr
    rcases List.mem_cons.mp hd with rfl | hd
    · exact h.2
    · exact contentsSilent_of_summaryTexts children h.2 d hd hr

theorem contentsSilent_of_summaryTexts (ns : List Node) (h : summaryTexts ns = "") :
    ContentsSilent (descendantsOfAll ns) := by
  match ns with
  | [] =>
    intro d hd
    cases hd
  | n :: ns =>
    rw [summaryTexts, String.append_eq_empty_iff] at h
    intro d hd hr
    rcases List.mem_append.mp hd with hd | hd
    · exact contentsSilent_of_summaryText n h.1 d hd hr
    · exact contentsSilent_of_summaryTexts ns h.2 d hd hr

end

/-- Of two texts that are each as long as their replacements or longer, both must be the same. -/
lemma append_eq_append_iff_of_length_le {s s' t t' : String} (hs : s'.length ≤ s.length)
    (ht : t'.length ≤ t.length) : s' ++ t' = s ++ t ↔ s' = s ∧ t' = t := by
  refine ⟨fun h => ?_, fun h => by rw [h.1, h.2]⟩
  have hl := congrArg String.length h
  rw [String.length_append, String.length_append] at hl
  have hlen : s'.toList.length = s.toList.length := by
    rw [String.length_toList, String.length_toList]
    omega
  have hc : s'.toList ++ t'.toList = s.toList ++ t.toList := by
    rw [← String.toList_append, ← String.toList_append, h]
  obtain ⟨hl, hr⟩ := List.append_inj hc hlen
  exact ⟨String.toList_inj.mp hl, String.toList_inj.mp hr⟩

mutual

theorem summaryText_bare_eq_iff (n : Node) :
    summaryText n.bare = summaryText n ↔ ContentsSilent n.descendants := by
  match n with
  | .text value =>
    refine ⟨fun _ d hd hr => ?_, fun _ => rfl⟩
    rw [List.mem_singleton.mp hd] at hr
    cases hr
  | .element tag attributes children =>
    rw [descendants]
    cases hr : (Node.element tag attributes children).reference? with
    | some reference =>
      -- nothing within the reference counts any more, and it must have no text as a whole
      rw [summaryText_bare_of_reference hr, summaryText_of_reference hr, ← String.toList_inj,
        String.toList_append, List.self_eq_append_right, String.toList_eq_nil_iff]
      refine ⟨fun h d hd hd' => ?_, fun h => h _ List.mem_cons_self (by rw [hr]; rfl)⟩
      rcases List.mem_cons.mp hd with rfl | hd
      · exact h
      · exact contentsSilent_of_summaryTexts children h d hd hd'
    | none =>
      rw [summaryText_bare_of_not_reference hr, summaryText_of_not_reference hr,
        summaryTexts_bareAll_eq_iff children]
      refine ⟨fun h d hd hd' => ?_, fun h d hd => h d (List.mem_cons_of_mem _ hd)⟩
      rcases List.mem_cons.mp hd with rfl | hd
      · rw [hr] at hd'
        cases hd'
      · exact h d hd hd'

theorem summaryTexts_bareAll_eq_iff (ns : List Node) :
    summaryTexts (bareAll ns) = summaryTexts ns ↔ ContentsSilent (descendantsOfAll ns) := by
  match ns with
  | [] => exact ⟨fun _ => contentsSilent_of_summaryTexts [] rfl, fun _ => rfl⟩
  | n :: ns =>
    have hlengths := append_eq_append_iff_of_length_le (length_summaryText_bare_le n)
      (length_summaryTexts_bareAll_le ns)
    rw [bareAll, summaryTexts, summaryTexts, hlengths, summaryText_bare_eq_iff n,
      summaryTexts_bareAll_eq_iff ns, descendantsOfAll, contentsSilent_append]

end

/-- The text of a tree has its texts and the names that its references stand for, in document order.
The text with every reference replaced is that of the tree without what they hold, so the two are
the same exactly if the references hold no text. -/
theorem references_replaced_iff_contents_silent (n : Node) :
    ((summaryText n).toList = n.descendants.flatMap fun d => d.ownText.toList) ∧
      (∀ s, Reads n s ↔ s = summaryText n.bare) ∧
        (Reads n (summaryText n) ↔ ContentsSilent n.descendants) := by
  refine ⟨toList_summaryText n, reads_iff n, ?_⟩
  rw [reads_iff, eq_comm]
  exact summaryText_bare_eq_iff n

/-- A reference with a label. -/
def labelled : Node :=
  .element ⟨"", "summary"⟩ []
    [.text "An ", .element ⟨"", "see"⟩ [⟨⟨"", "cref"⟩, "T:Shop.Order"⟩] [.text "order"], .text "."]

def labelledFile : String :=
  "<doc><members><member name=\"T:A\">" ++
    "<summary>An <see cref=\"T:Shop.Order\">order</see>.</summary>" ++
    "</member></members></doc>"

/-- The label is not replaced with the reference that it stands in. -/
theorem label_follows_referenced_name :
    Reads labelled "An Order." ∧ summaryText labelled = "An Orderorder." ∧
      ¬ Reads labelled (summaryText labelled) ∧
      (ofXml labelledFile).toOption.bind (·.get? "T:A") = some "An Orderorder." := by
  have hs : summaryText labelled = "An Orderorder." := by decide +kernel
  have hb : summaryText labelled.bare = "An Order." := by decide +kernel
  refine ⟨(reads_iff _ _).mpr hb.symm, hs, ?_, by decide +kernel⟩
  rw [reads_iff, hs, hb]
  decide

end Xml.Node

end Typescribe
