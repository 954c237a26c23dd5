import Mathlib
import Typescribe.Proofs.Blanks
import Typescribe.Proofs.Dictionary
import Typescribe.Template

/-!
# Filling a template is one pass over its layout

A layout is a literal, and then placeholders each with the literal behind it. Literals may have
braces in any number, as long as no whole placeholder stands in them. Every text has a layout, and
filling the text replaces the placeholders of the layout and nothing else: no placeholder begins in
a literal and ends behind it, and what is put in is not read again.
-/
namespace Typescribe.Template

/-- A placeholder as it is written between its braces. -/
structure Placeholder where
  before : List Char
  first : Char
  others : List Char
  after : List Char
  blank_before : ∀ c ∈ before, Text.isBlank c = true
  start : isNameStart first = true
  plain : ∀ c ∈ others, isNameChar c = true
  blank_after : ∀ c ∈ after, Text.isBlank c = true

namespace Placeholder

def name (h : Placeholder) : List Char := h.first :: h.others

/-- What follows the opening braces. -/
def inside (h : Placeholder) : List Char := h.before ++ h.name ++ h.after ++ ['\x7d', '\x7d']

def text (h : Placeholder) : List Char := '\x7b' :: '\x7b' :: h.inside

end Placeholder

/-- No whole placeholder stands in the text. -/
def IsFree (cs : List Char) : Prop := ∀ h : Placeholder, ¬ h.text <:+: cs

structure Literal where
  chars : List Char
  free : IsFree chars

structure Layout where
  first : Literal
  rest : List (Placeholder × Literal)

namespace Layout

def chars (layout : Layout) : List Char :=
  layout.first.chars ++ layout.rest.flatMap fun s => s.1.text ++ s.2.chars

def text (layout : Layout) : String := String.ofList layout.chars

/-- The literals as they are, and for each placeholder its value, or nothing. -/
def filled (layout : Layout) (substitutions : String → Option String) : String :=
  String.ofList (layout.first.chars ++
    layout.rest.flatMap fun s =>
      ((substitutions (String.ofList s.1.name)).getD "").toList ++ s.2.chars)

end Layout

lemma isNameChar_of_isNameStart {c : Char} (h : isNameStart c = true) : isNameChar c = true := by
  simp [isNameChar, h]

lemma toNat_of_isNameChar {c : Char} (h : isNameChar c = true) : 48 ≤ c.toNat ∧ c.toNat ≤ 122 := by
  simp only [isNameChar, isNameStart, Bool.or_eq_true, Bool.and_eq_true, decide_eq_true_eq,
    Char.le_def, UInt32.le_iff_toNat_le] at h
  have hc : c.toNat = c.val.toNat := rfl
  rcases h with ((h | h) | rfl) | h
  · have ha : ('A' : Char).val.toNat = 65 := rfl
    have hz : ('Z' : Char).val.toNat = 90 := rfl
    omega
  · have ha : ('a' : Char).val.toNat = 97 := rfl
    have hz : ('z' : Char).val.toNat = 122 := rfl
    omega
  · decide
  · have h0 : ('0' : Char).val.toNat = 48 := rfl
    have h9 : ('9' : Char).val.toNat = 57 := rfl
    omega

lemma isBlank_of_isNameChar {c : Char} (h : isNameChar c = true) : Text.isBlank c = false := by
  obtain ⟨hl, hu⟩ := toNat_of_isNameChar h
  rw [Bool.eq_false_iff]
  intro hb
  simp only [Text.isBlank, Bool.or_eq_true, Bool.and_eq_true, decide_eq_true_eq, beq_iff_eq] at hb
  omega

lemma isNameChar_of_isBlank {c : Char} (h : Text.isBlank c = true) : isNameChar c = false := by
  rw [Bool.eq_false_iff]
  intro hn
  simp [isBlank_of_isNameChar hn] at h

lemma Placeholder.isNameChar_of_mem_name (h : Placeholder) {c : Char} (hc : c ∈ h.name) :
    isNameChar c = true := by
  rcases List.mem_cons.mp hc with rfl | hc
  · exact isNameChar_of_isNameStart h.start
  · exact h.plain c hc

/-- Only the first two characters of a placeholder are opening braces. -/
lemma Placeholder.brace_notMem_inside (h : Placeholder) : '\x7b' ∉ h.inside := by
  intro hm
  simp only [inside, List.mem_append] at hm
  rcases hm with ((hm | hm) | hm) | hm
  · exact absurd (h.blank_before _ hm) (by decide)
  · exact absurd (h.isNameChar_of_mem_name hm) (by decide)
  · exact absurd (h.blank_after _ hm) (by decide)
  · exact absurd hm (by decide)

lemma name?_append (h : Placeholder) {rest : List Char}
    (hr : ∀ c ∈ rest.head?, isNameChar c = false) :
    name? (h.name ++ rest) = some (h.name, rest) := by
  obtain ⟨ht, hd⟩ := Text.span_append h.plain hr
  simp [Placeholder.name, name?, h.start, ht, hd]

lemma placeholder?_text (h : Placeholder) (rest : List Char) :
    placeholder? (h.text ++ rest) = some (h.name, rest) := by
  have hi : h.inside ++ rest = h.before ++ (h.name ++ (h.after ++ '\x7d' :: '\x7d' :: rest)) := by
    simp [Placeholder.inside]
  have hbefore : (h.inside ++ rest).dropWhile Text.isBlank = h.name ++
      (h.after ++ '\x7d' :: '\x7d' :: rest) := by
    rw [hi]
    refine (Text.span_append h.blank_before fun c hc => ?_).2
    obtain rfl : h.first = c := by simpa [Placeholder.name] using hc
    exact isBlank_of_isNameChar (isNameChar_of_isNameStart h.start)
  have hname : name? (h.name ++ (h.after ++ '\x7d' :: '\x7d' :: rest)) =
      some (h.name, h.after ++ '\x7d' :: '\x7d' :: rest) := by
    refine name?_append h fun c hc => ?_
    cases ha : h.after with
    | nil =>
      rw [ha] at hc
      obtain rfl : '\x7d' = c := by simpa using hc
      decide
    | cons d after =>
      rw [ha] at hc
      obtain rfl : d = c := by simpa using hc
      exact isNameChar_of_isBlank (h.blank_after d (by simp [ha]))
  have hafter : (h.after ++ '\x7d' :: '\x7d' :: rest).dropWhile Text.isBlank = '\x7d' :: '\x7d' ::
      rest := by
    refine (Text.span_append h.blank_after fun c hc => ?_).2
    obtain rfl : '\x7d' = c := by simpa using hc
    decide
  rw [Placeholder.text, List.cons_append, List.cons_append, placeholder?, hbefore, hname]
  simp [hafter]

lemma eq_append_of_name? {cs name rest : List Char} (h : name? cs = some (name, rest)) :
    ∃ first others, name = first :: others ∧ cs = name ++ rest ∧ isNameStart first = true ∧
      ∀ c ∈ others, isNameChar c = true := by
  cases cs with
  | nil => cases h
  | cons c cs =>
    rw [name?] at h
    split_ifs at h with hc
    cases h
    exact ⟨c, _, rfl, by simp [List.takeWhile_append_dropWhile], hc,
      fun d hd => List.mem_takeWhile_imp hd⟩

lemma eq_text_of_placeholder? {cs name rest : List Char}
    (hp : placeholder? cs = some (name, rest)) :
    ∃ h : Placeholder, cs = h.text ++ rest ∧ h.name = name := by
  unfold placeholder? at hp
  split at hp
  · next cs =>
    obtain ⟨⟨name', cs'⟩, hn, hp⟩ := Option.bind_eq_some_iff.mp hp
    obtain ⟨first, others, rfl, hcs, hstart, hplain⟩ := eq_append_of_name? hn
    dsimp only at hp
    split at hp
    · next rest' hrest =>
      cases hp
      have hbefore : ∀ c ∈ cs.takeWhile Text.isBlank, Text.isBlank c = true :=
        fun c hc => List.mem_takeWhile_imp hc
      have hafter : ∀ c ∈ cs'.takeWhile Text.isBlank, Text.isBlank c = true :=
        fun c hc => List.mem_takeWhile_imp hc
      refine ⟨⟨_, first, others, _, hbefore, hstart, hplain, hafter⟩, ?_, rfl⟩
      have hclose : cs' = cs'.takeWhile Text.isBlank ++ '\x7d' :: '\x7d' :: rest := by
        rw [← hrest, List.takeWhile_append_dropWhile]
      have hcut : cs = cs.takeWhile Text.isBlank ++ (first :: others ++ cs') := by
        rw [← hcs, List.takeWhile_append_dropWhile]
      calc '\x7b' :: '\x7b' :: cs
          = '\x7b' :: '\x7b' :: (cs.takeWhile Text.isBlank ++ (first :: others ++ cs')) := by
            rw [← hcut]
        _ = '\x7b' :: '\x7b' :: (cs.takeWhile Text.isBlank ++
              (first :: others ++ (cs'.takeWhile Text.isBlank ++ '\x7d' :: '\x7d' :: rest))) := by
                rw [← hclose]
        _ = _ := by simp [Placeholder.text, Placeholder.inside, Placeholder.name]
    · cases hp
  · cases hp

/-- Nothing follows, or opening braces do. -/
def Opens (rest : List Char) : Prop := rest = [] ∨ ∃ tail, rest = '\x7b' :: '\x7b' :: tail

lemma Placeholder.inside_ne_nil (h : Placeholder) : h.inside ≠ [] := by
  simp [inside]

/-- A placeholder that begins in a text ends in it: behind the text come opening braces, and a
placeholder has those only at its own beginning. -/
lemma prefix_of_opens {h : Placeholder} {c : Char} {cs tail rest : List Char} (hr : Opens rest)
    (he : h.text ++ tail = c :: cs ++ rest) : h.text <+: c :: cs := by
  rcases List.append_eq_append_iff.mp he with ⟨more, hcs, -⟩ | ⟨beyond, htext, hrest⟩
  · exact ⟨more, hcs.symm⟩
  -- The placeholder would go on into the braces behind the text.
  · cases beyond with
    | nil => exact ⟨[], by simpa using htext⟩
    | cons d beyond =>
      exfalso
      rcases hr with rfl | ⟨after, rfl⟩
      · simp at hrest
      obtain ⟨rfl, hbeyond⟩ : '\x7b' = d ∧ '\x7b' :: after = beyond ++ tail := by simpa using hrest
      have hinside : '\x7b' :: h.inside = cs ++ '\x7b' :: beyond := (List.cons.inj htext).2
      apply h.brace_notMem_inside
      cases cs with
      | nil =>
        obtain rfl : h.inside = beyond := by simpa using hinside
        obtain ⟨e, inside, hi⟩ := List.exists_cons_of_ne_nil h.inside_ne_nil
        rw [hi, List.cons_append, List.cons.injEq] at hbeyond
        rw [hi, hbeyond.1]
        exact List.mem_cons_self
      | cons e cs =>
        have hi : h.inside = cs ++ '\x7b' :: beyond := (List.cons.inj hinside).2
        simp [hi]

lemma IsFree.tail {c : Char} {cs : List Char} (h : IsFree (c :: cs)) : IsFree cs :=
  fun p hp => h p (hp.trans (List.suffix_cons c cs).isInfix)

lemma IsFree.placeholder?_eq_none {c : Char} {cs rest : List Char} (h : IsFree (c :: cs))
    (hr : Opens rest) : placeholder? (c :: cs ++ rest) = none := by
  cases hp : placeholder? (c :: cs ++ rest) with
  | none => rfl
  | some result =>
    obtain ⟨name, tail⟩ := result
    obtain ⟨p, he, -⟩ := eq_text_of_placeholder? hp
    exact absurd (prefix_of_opens hr he.symm).isInfix (h p)

lemma piecesAfter_eq (skip : ℕ) (cs : List Char) : piecesAfter skip cs = pieces (cs.drop skip) := by
  induction cs generalizing skip with
  | nil => simp [pieces, piecesAfter]
  | cons c cs ih =>
    cases skip with
    | zero => rfl
    | succ skip => rw [piecesAfter, ih, List.drop_succ_cons]

lemma pieces_placeholder (h : Placeholder) (rest : List Char) :
    pieces (h.text ++ rest) = .hole (String.ofList h.name) :: pieces rest := by
  have hp : placeholder? ('\x7b' :: ('\x7b' :: h.inside ++ rest)) = some (h.name, rest) :=
    placeholder?_text h rest
  have ht : h.text ++ rest = '\x7b' :: ('\x7b' :: h.inside ++ rest) := rfl
  have hskip : ('\x7b' :: h.inside ++ rest).length - rest.length = ('\x7b' :: h.inside).length := by
    rw [List.length_append]
    omega
  rw [ht, pieces, piecesAfter, hp]
  dsimp only
  rw [hskip, piecesAfter_eq, List.drop_left]

lemma pieces_cons_of_none {c : Char} {cs : List Char} (h : placeholder? (c :: cs) = none) :
    pieces (c :: cs) = .literal c :: pieces cs := by
  rw [pieces, piecesAfter, h]
  rfl

lemma pieces_literal {cs rest : List Char} (hf : IsFree cs) (hr : Opens rest) :
    pieces (cs ++ rest) = cs.map .literal ++ pieces rest := by
  induction cs with
  | nil => rfl
  | cons c cs ih =>
    have hn : placeholder? (c :: (cs ++ rest)) = none := hf.placeholder?_eq_none hr
    rw [List.cons_append, pieces_cons_of_none hn, ih hf.tail]
    rfl

lemma opens_rest (rest : List (Placeholder × Literal)) :
    Opens (rest.flatMap fun s => s.1.text ++ s.2.chars) := by
  cases rest with
  | nil => exact .inl rfl
  | cons s rest => exact .inr ⟨_, rfl⟩

/-- The pieces of a text are those of its layout. -/
lemma pieces_layout (layout : Layout) :
    pieces layout.chars = layout.first.chars.map .literal ++
      layout.rest.flatMap fun s => .hole (String.ofList s.1.name) :: s.2.chars.map .literal := by
  obtain ⟨first, rest⟩ := layout
  rw [Layout.chars, pieces_literal first.free (opens_rest rest)]
  congr 1
  induction rest with
  | nil => rfl
  | cons s rest ih =>
    rw [List.flatMap_cons, List.append_assoc, pieces_placeholder,
      pieces_literal s.2.free (opens_rest rest), ih, List.flatMap_cons]
    rfl

lemma flatMap_fill_literals (substitutions : String → Option String) (cs : List Char) :
    (cs.map Piece.literal).flatMap (Piece.fill substitutions) = cs := by
  induction cs with
  | nil => rfl
  | cons c cs ih => simp [Piece.fill, ih]

lemma fill_layout (layout : Layout) (substitutions : String → Option String) :
    fill layout.text substitutions = layout.filled substitutions := by
  rw [fill, Layout.text, String.toList_ofList, pieces_layout, List.flatMap_append,
    flatMap_fill_literals, Layout.filled, List.flatMap_assoc]
  simp only [List.flatMap_cons, flatMap_fill_literals, Piece.fill]

lemma isFree_nil : IsFree [] := by
  intro h hi
  simp [Placeholder.text] at hi

/-- A literal can be extended by a character in front where no placeholder begins. -/
lemma IsFree.cons {c : Char} {cs rest : List Char} (h : IsFree cs)
    (hn : placeholder? (c :: cs ++ rest) = none) : IsFree (c :: cs) := by
  intro p hp
  rcases List.infix_cons_iff.mp hp with ⟨more, he⟩ | hp
  · rw [← he, List.append_assoc, placeholder?_text] at hn
    cases hn
  · exact h p hp

lemma isFree_of_placeholders {cs : List Char} (h : ∀ t ∈ cs.tails, placeholder? t = none) :
    IsFree cs := by
  induction cs with
  | nil => exact isFree_nil
  | cons c cs ih =>
    rw [List.tails_cons, List.forall_mem_cons] at h
    have hn : placeholder? (c :: cs ++ []) = none := by rw [List.append_nil]; exact h.1
    exact (ih h.2).cons hn

lemma exists_layout (cs : List Char) : ∃ layout : Layout, layout.chars = cs := by
  induction hn : cs.length using Nat.strong_induction_on generalizing cs with
  | _ n ih =>
    cases cs with
    | nil => exact ⟨⟨⟨[], isFree_nil⟩, []⟩, rfl⟩
    | cons c cs =>
      subst hn
      cases hp : placeholder? (c :: cs) with
      | some result =>
        obtain ⟨name, rest⟩ := result
        obtain ⟨h, he, -⟩ := eq_text_of_placeholder? hp
        have hlen : rest.length < (c :: cs).length := by
          rw [he, List.length_append]
          simp only [Placeholder.text, List.length_cons]
          omega
        obtain ⟨layout, hl⟩ := ih _ hlen rest rfl
        refine ⟨⟨⟨[], isFree_nil⟩, (h, layout.first) :: layout.rest⟩, ?_⟩
        rw [he, ← hl]
        simp [Layout.chars]
      | none =>
        obtain ⟨layout, rfl⟩ := ih cs.length (by simp) cs rfl
        exact ⟨⟨⟨c :: layout.first.chars, layout.first.free.cons hp⟩, layout.rest⟩, rfl⟩

/-- A registered text is filled as its layout says, and every text has a layout. -/
theorem fill_replaces_placeholders_only (templates : Templates) (name : String)
    (substitutions : Dictionary String) :
    (∀ layout : Layout, templates.get? name = some layout.text →
      templates.fill name substitutions = .ok (layout.filled substitutions.get?)) ∧
    ∀ text : String, ∃ layout : Layout, layout.text = text := by
  constructor
  · intro layout ht
    rw [Templates.fill, ht]
    exact congrArg Except.ok (fill_layout layout substitutions.get?)
  · intro text
    obtain ⟨layout, hl⟩ := exists_layout text.toList
    exact ⟨layout, by rw [Layout.text, hl, String.ofList_toList]⟩

/-- A brace before a placeholder, one behind it, a placeholder that is not closed, and one with
blanks. -/
def crowded : Layout where
  first := ⟨['\x7b'], isFree_of_placeholders (by decide)⟩
  rest := [
    (⟨[], 'A', [], [], by simp, by decide, by simp, by simp⟩,
      ⟨['\x7d', '\x7b', '\x7b', 'B', '\x7d'], isFree_of_placeholders (by decide)⟩),
    (⟨[' '], 'B', [], ['\n'], List.forall_mem_singleton.mpr (by decide), by decide, by simp,
        List.forall_mem_singleton.mpr (by decide)⟩,
      ⟨[], isFree_nil⟩)]

theorem crowded_fills_once :
    crowded.text = "\x7b\x7b\x7bA\x7d\x7d\x7d\x7b\x7bB\x7d\x7b\x7b B\n\x7d\x7d" ∧
      Templates.fill (Templates.standard.insert "Crowded" crowded.text) "Crowded"
          (Dictionary.ofList [("A", "\x7b\x7bB\x7d\x7d")]) =
        .ok "\x7b\x7b\x7bB\x7d\x7d\x7d\x7b\x7bB\x7d" := by
  have ht : (Templates.standard.insert "Crowded" crowded.text).get? "Crowded" =
      some crowded.text := by
    simp [Dictionary.get?_insert]
  refine ⟨rfl, ?_⟩
  rw [(fill_replaces_placeholders_only _ "Crowded"
    (Dictionary.ofList [("A", "\x7b\x7bB\x7d\x7d")])).1 crowded ht]
  rfl

end Typescribe.Template
