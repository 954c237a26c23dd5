import Mathlib
import Typescribe.Yaml.Node
import Typescribe.Yaml.Writer

/-!
# Written scalars read back

A text is written in one of four styles. In each of them the reader, character by character, has
read so far what has been written so far, with what it holds back as spacing; the conditions under
which a style is chosen are those under which no character of the text ends the scalar or is folded.
-/
namespace Typescribe.Yaml

/-- Of the blanks only the space is printable. -/
lemma eq_space_of_isBlank {c : Char} (hp : isPrintable c = true)
    (hb : isBlank c = true) : c = ' ' := by
  rcases Bool.or_eq_true_iff.mp hb with hs | ht
  · exact of_decide_eq_true hs
  · rw [of_decide_eq_true ht] at hp
    exact absurd hp (by decide)

lemma endsWord_append {cs rest : List Char} (h : endsWord cs = false) :
    endsWord (cs ++ rest) = false := by
  cases cs with
  | nil => cases h
  | cons c cs => exact h

/-- What has been held back and puts nothing but itself in front of the next character. -/
inductive Spacing.InLine : Spacing → Prop
  | nothing : InLine .nothing
  | blanks (cs : List Char) : InLine (.blanks cs)

lemma Spacing.InLine.blank {s : Spacing} (h : s.InLine) (c : Char) : (s.blank c).InLine := by
  cases h with
  | nothing => exact .blanks [c]
  | blanks cs => exact .blanks (c :: cs)

lemma Spacing.InLine.onto_blank {s : Spacing} (h : s.InLine) (c : Char) (text : List Char) :
    (s.blank c).onto text = c :: s.onto text := by
  cases h <;> rfl

lemma Spacing.InLine.isBreaks {s : Spacing} (h : s.InLine) : s.isBreaks = false := by
  cases h <;> rfl

/-- Whether a plain scalar goes on behind a character: after a blank no hash follows, and no colon
ends it. -/
lemma endsPlain_eq_false {c : Char} {cs rest : List Char} {prev : Char} {spacing : Spacing}
    {indent column : Nat} (hs : spacing.InLine) (hp : spacing = .nothing ∨ isBlank prev = true)
    (hc : column ≠ 0) (hcut : isCut (prev :: c :: cs) = false) :
    endsPlain false indent column spacing (c :: (cs ++ rest)) = false := by
  simp only [isCut, Bool.or_eq_false_iff, Bool.and_eq_false_iff] at hcut
  obtain ⟨⟨hcolon, hhash⟩, -⟩ := hcut
  have hcol : (c = ':' && endsWord (cs ++ rest)) = false := by
    rcases hcolon with h | h
    · simp [h]
    · simp [endsWord_append h]
  have hh : (spacing != .nothing && c = '#') = false := by
    rcases hhash with h | h
    · simp [h]
    · rcases hp with hp | hp
      · simp [hp]
      · simp [hp] at h
  simp only [endsPlain, hs.isBreaks, hcol, hh]
  simp [hc]

lemma plain_append {cs : List Char} {prev : Char} {spacing : Spacing} {indent line column : Nat}
    {text rest : List Char} (hs : spacing.InLine) (hp : spacing = .nothing ∨ isBlank prev = true)
    (hc : column ≠ 0) (hcut : isCut (prev :: cs) = false) (hbreak : ∀ c ∈ cs, isBreak c = false)
    (hlast : ∀ c ∈ (prev :: cs).getLast?, isBlank c = false) :
    plain false indent line column spacing text (cs ++ rest) =
      plain false indent line (column + cs.length) .nothing (cs.reverse ++ spacing.onto text)
        rest := by
  induction cs generalizing prev spacing column text with
  | nil =>
    have hn : isBlank prev = false := hlast prev rfl
    have hnothing : spacing = .nothing := by
      rcases hp with hp | hp
      · exact hp
      · rw [hn] at hp
        cases hp
    rw [hnothing]
    rfl
  | cons c cs ih =>
    obtain ⟨hb, hbs⟩ := List.forall_mem_cons.mp hbreak
    have hcut' : isCut (c :: cs) = false := by
      simp only [isCut, Bool.or_eq_false_iff] at hcut
      exact hcut.2
    have hlast' : ∀ d ∈ (c :: cs).getLast?, isBlank d = false := by
      rwa [List.getLast?_cons_cons] at hlast
    have hlen : column + (c :: cs).length = column + 1 + cs.length := by
      rw [List.length_cons]
      omega
    rw [List.cons_append, plain, if_neg (by simp [hb]), hlen, List.reverse_cons, List.append_assoc]
    by_cases hbl : isBlank c = true
    · rw [if_pos hbl, hs.isBreaks, Bool.false_and, Bool.false_and, if_neg Bool.false_ne_true,
        ih (hs.blank c) (.inr hbl) (by omega) hcut' hbs hlast', hs.onto_blank]
      rfl
    · rw [if_neg hbl, endsPlain_eq_false hs hp hc hcut, if_neg Bool.false_ne_true, Bool.false_and,
        if_neg Bool.false_ne_true, ih .nothing (.inl rfl) (by omega) hcut' hbs hlast']
      rfl

/-- A text that can stand as a plain scalar. -/
structure IsPlain (cs : List Char) : Prop where
  head : ∃ c ds, cs = c :: ds ∧ isBlank c = false
  starts : startsOther cs = false
  breaks : ∀ c ∈ cs, isBreak c = false
  cut : isCut cs = false
  last : ∀ c ∈ cs.getLast?, isBlank c = false

lemma startsOther_cons_eq_false {c : Char} {cs : List Char} (h : startsOther (c :: cs) = false) :
    (if c = '-' ∨ c = '?' ∨ c = ':' then endsWord cs else indicators.contains c) = false := by
  rw [startsOther.eq_def] at h
  split at h
  · cases h
  · cases h
  · next he =>
    cases he
    exact h
  · next he => cases he

/-- Of the indicators only three can start a plain scalar. -/
lemma notMem_of_startsOther {c : Char} {cs marks : List Char} (h : startsOther (c :: cs) = false)
    (hm : marks.all (fun d => indicators.contains d && d ∉ ['-', '?', ':']) = true) :
    c ∉ marks := by
  intro hc
  obtain ⟨hi, hn⟩ := Bool.and_eq_true_iff.mp (List.all_eq_true.mp hm c hc)
  have hw := startsOther_cons_eq_false h
  rw [if_neg (by simpa using hn), hi] at hw
  cases hw

lemma startsPlain_append {c : Char} {cs : List Char} (hb : isBlank c = false)
    (hbreak : isBreak c = false) (h : startsOther (c :: cs) = false) (rest : List Char) :
    startsPlain false (c :: (cs ++ rest)) = true := by
  have hw := startsOther_cons_eq_false h
  rw [startsPlain, hb, hbreak, Bool.or_self, if_neg Bool.false_ne_true]
  by_cases hm : c = '-' ∨ c = '?' ∨ c = ':'
  · rw [if_pos hm] at hw
    have he : endsWord (cs ++ rest) = false := endsWord_append hw
    rcases hm with rfl | hm
    · simp [he]
    · rw [if_pos hm, he]
      split_ifs <;> rfl
  · rw [if_neg hm] at hw
    push Not at hm
    rw [if_neg hm.1, if_neg (by simp [hm.2]), hw]
    rfl

lemma plain?_append {cs rest : List Char} {indent line column : Nat} (h : IsPlain cs)
    (hm : column ≠ 0 ∨ isMarker (cs ++ rest) = false) :
    plain? false indent ⟨line, column, cs ++ rest⟩ =
      plain false indent line (column + cs.length) .nothing cs.reverse rest := by
  obtain ⟨c, ds, rfl, hb⟩ := h.head
  obtain ⟨hbreak, hbreaks⟩ := List.forall_mem_cons.mp h.breaks
  have hstart : startsPlain false (c :: (ds ++ rest)) = true :=
    startsPlain_append hb hbreak h.starts rest
  have hmarker : (column == 0 && isMarker (c :: (ds ++ rest))) = false := by
    rcases hm with hm | hm
    · simp [hm]
    · rw [List.cons_append] at hm
      simp [hm]
  have hcolon : (c = ':' && endsWord (ds ++ rest)) = false := by
    by_contra hc
    simp only [Bool.not_eq_false, Bool.and_eq_true, decide_eq_true_eq] at hc
    obtain ⟨rfl, he⟩ := hc
    have hb' : isBlank ':' = false := hb
    simp [startsPlain, he, hb', hbreak] at hstart
  have hends : endsPlain false indent column .nothing (c :: (ds ++ rest)) = false := by
    simp only [endsPlain, hmarker, hcolon, Spacing.isBreaks]
    simp
  have hlen : column + (c :: ds).length = column + 1 + ds.length := by
    rw [List.length_cons]
    omega
  rw [plain?, List.cons_append, if_pos hstart, plain, if_neg (by simp [hbreak]),
    if_neg (by simp [hb]), hends, if_neg Bool.false_ne_true, Bool.false_and,
    if_neg Bool.false_ne_true,
    plain_append .nothing (.inl rfl) (Nat.succ_ne_zero column) h.cut hbreaks h.last, hlen]
  simp [Spacing.onto]

/-- Whether something else than the rest of a scalar stands at the front of a line. -/
def StartsLine (cs : List Char) : Prop :=
  ∀ c ∈ cs.head?, isBlank c = false ∧ isBreak c = false

lemma plain_line_end {indent line column : Nat} {text rest : List Char} (hi : 0 < indent)
    (hr : StartsLine rest) :
    plain false indent line column .nothing text ('\n' :: rest) =
      some ⟨text.reverse, true, ⟨line + 1, 0, rest⟩⟩ := by
  rw [plain, if_pos (by decide)]
  cases rest with
  | nil => rfl
  | cons c cs =>
    obtain ⟨hb, hbreak⟩ := hr c rfl
    have hends : endsPlain false indent 0 (.breaks (some '\n') []) (c :: cs) = true := by
      simp [endsPlain, Spacing.isBreaks, hi]
    rw [Spacing.lineBreak, plain, if_neg (by simp [hbreak]), if_neg (by simp [hb]), if_pos hends]
    · rfl
    · rintro _ _ ⟨⟩

lemma plain_colon {indent line column : Nat} {text rest : List Char} :
    plain false indent line column .nothing text (':' :: ' ' :: rest) =
      some ⟨text.reverse, false, ⟨line, column, ':' :: ' ' :: rest⟩⟩ := by
  have hends : endsPlain false indent column .nothing (':' :: ' ' :: rest) = true := by
    simp [endsPlain, endsWord, isBlank]
  rw [plain, if_neg (by decide), if_neg (by decide), if_pos hends]
  rfl

lemma hasPair_cons_of_not {p q : Char → Bool} {c : Char} (h : p c = false) (cs : List Char) :
    hasPair p q (c :: cs) = hasPair p q cs := by
  cases cs with
  | nil => rfl
  | cons d ds => rw [hasPair, h, Bool.false_and, Bool.false_or]

lemma hasPair_cons_cons_eq_false {p q : Char → Bool} {c d : Char} {cs : List Char}
    (h : hasPair p q (c :: d :: cs) = false) :
    (p c = false ∨ q d = false) ∧ hasPair p q (d :: cs) = false := by
  rwa [hasPair, Bool.or_eq_false_iff, Bool.and_eq_false_iff] at h

/-- What a reader holds back right behind a character, if no line feed folds. -/
inductive Spacing.Behind : Char → Spacing → Prop
  | char {c : Char} (hs : isSpace c = false) (hb : isBreak c = false) : Behind c .nothing
  | space (cs : List Char) : Behind ' ' (.blanks cs)
  | lineEnd {c first : Char} (others : List Char) (hb : isBreak c = true) (hf : first ≠ '\n') :
      Behind c (.breaks (some first) others)

namespace Spacing.Behind

variable {prev : Char} {s : Spacing}

lemma lineBreak (h : s.Behind prev) {c : Char} (hp : isSpace prev = false) (hc : isBreak c = true)
    (hn : c ≠ '\n') (text : List Char) :
    (s.lineBreak c).Behind c ∧ (s.lineBreak c).onto text = c :: s.onto text := by
  cases h with
  | char => exact ⟨.lineEnd [] hc hn, by simp [Spacing.lineBreak, onto, hn]⟩
  | space => cases hp
  | lineEnd others _ hf =>
    exact ⟨.lineEnd (c :: others) hc hf, by simp [Spacing.lineBreak, onto, hf]⟩

lemma blank (h : s.Behind prev) (hp : isBreak prev = false) (text : List Char) :
    (s.blank ' ').Behind ' ' ∧ (s.blank ' ').onto text = ' ' :: s.onto text := by
  cases h with
  | char => exact ⟨.space [' '], rfl⟩
  | space cs => exact ⟨.space (' ' :: cs), rfl⟩
  | lineEnd _ hb =>
    rw [hp] at hb
    cases hb

lemma blank_of_isBreak (h : s.Behind prev) (hp : isBreak prev = true) (c : Char) :
    s.blank c = s := by
  cases h with
  | char _ hb =>
    rw [hp] at hb
    cases hb
  | space => cases hp
  | lineEnd => rfl

end Spacing.Behind

lemma singleQuoted_space (line column : Nat) (s : Spacing) (text rest : List Char) :
    singleQuoted line column s false text (' ' :: rest) =
      singleQuoted line (column + 1) (s.blank ' ') false text rest := rfl

lemma singleQuoted_break {c : Char} (h : isBreak c = true) (line column : Nat) (s : Spacing)
    (text rest : List Char) :
    singleQuoted line column s false text (c :: rest) =
      singleQuoted (line + 1) 0 (s.lineBreak c) false text rest := by
  rw [singleQuoted, if_neg Bool.false_ne_true, if_pos h]

lemma singleQuoted_close {line column : Nat} {s : Spacing} {text rest : List Char}
    (hc : column ≠ 0) :
    singleQuoted line column s false text ('\'' :: '\n' :: rest) =
      some ⟨(s.onto text).reverse, false, ⟨line, column + 1, '\n' :: rest⟩⟩ := by
  simp [singleQuoted, isBreak, isBlank, hc]

/-- A character as it stands between single quotes. -/
def quotedChar (c : Char) : List Char :=
  if c = '\'' then ['\'', '\''] else [c]

lemma singleQuoted_char {column : Nat} {c : Char} (hc : column ≠ 0) (hbreak : isBreak c = false)
    (hb : isBlank c = false) (line : Nat) (s : Spacing) (text rest : List Char) :
    ∃ column', column' ≠ 0 ∧
      singleQuoted line column s false text (quotedChar c ++ rest) =
        singleQuoted line column' .nothing false (c :: s.onto text) rest := by
  by_cases hq : c = '\''
  · refine ⟨column + 1 + 1, by omega, ?_⟩
    subst hq
    simp [quotedChar, singleQuoted, isBreak, isBlank, hc]
  · refine ⟨column + 1, by omega, ?_⟩
    simp [quotedChar, hq, singleQuoted, hbreak, hb, hc]

/-- Behind a line end the margin is passed over. -/
lemma singleQuoted_margin {column : Nat} {s : Spacing} {prev : Char} (hs : s.Behind prev)
    (hc : column ≠ 0 ∨ isBreak prev = true) (line : Nat) (text rest : List Char) :
    ∃ column', column' ≠ 0 ∧
      singleQuoted line column s false text ((if isBreak prev then margin else []) ++ rest) =
        singleQuoted line column' s false text rest := by
  cases hp : isBreak prev with
  | true =>
    refine ⟨column + 1 + 1, by omega, ?_⟩
    rw [if_pos rfl, margin, List.cons_append, List.cons_append, List.nil_append, singleQuoted_space,
      singleQuoted_space, hs.blank_of_isBreak hp, hs.blank_of_isBreak hp]
  | false =>
    rw [hp] at hc
    exact ⟨column, hc.resolve_right Bool.false_ne_true, rfl⟩

lemma singleQuoted_body {cs : List Char} {prev : Char} {s : Spacing} {column : Nat}
    (hs : s.Behind prev) (hc : column ≠ 0 ∨ isBreak prev = true)
    (hp : ∀ c ∈ cs, isPrintable c = true ∧ c ≠ '\n')
    (hsb : hasPair isSpace isBreak (prev :: cs) = false)
    (hbs : hasPair isBreak isSpace (prev :: cs) = false) (line : Nat) (text rest : List Char) :
    ∃ line' column', singleQuoted line column s false text
        (singleQuotedBody (isBreak prev) cs ++ '\'' :: '\n' :: rest) =
      some ⟨(cs.reverse ++ s.onto text).reverse, false, ⟨line', column', '\n' :: rest⟩⟩ := by
  induction cs generalizing prev s column line text with
  | nil =>
    obtain ⟨column', hc', hm⟩ := singleQuoted_margin hs hc line text ('\'' :: '\n' :: rest)
    refine ⟨line, column' + 1, ?_⟩
    rw [singleQuotedBody, hm, singleQuoted_close hc']
    rfl
  | cons c cs ih =>
    obtain ⟨⟨hpc, hnc⟩, hps⟩ := List.forall_mem_cons.mp hp
    obtain ⟨hsb₁, hsb₂⟩ := hasPair_cons_cons_eq_false hsb
    obtain ⟨hbs₁, hbs₂⟩ := hasPair_cons_cons_eq_false hbs
    rw [singleQuotedBody]
    by_cases hbreak : isBreak c = true
    · -- a line end is kept, since it is no line feed and nothing was held back in front of it
      have hprev : isSpace prev = false := hsb₁.resolve_right (by simp [hbreak])
      obtain ⟨hs', ho⟩ := hs.lineBreak hprev hbreak hnc text
      obtain ⟨line', column', hrun⟩ :=
        ih hs' (.inr hbreak : 0 ≠ 0 ∨ _) hps hsb₂ hbs₂ (line + 1) text
      rw [hbreak] at hrun
      refine ⟨line', column', ?_⟩
      rw [if_pos hbreak, List.cons_append, singleQuoted_break hbreak, hrun, ho]
      simp
    · rw [if_neg hbreak]
      rw [Bool.not_eq_true] at hbreak
      by_cases hspace : c = ' '
      · subst hspace
        have hprev : isBreak prev = false := hbs₁.resolve_right (by decide)
        obtain ⟨hs', ho⟩ := hs.blank hprev text
        obtain ⟨line', column', hrun⟩ :=
          ih hs' (.inl (Nat.succ_ne_zero column)) hps hsb₂ hbs₂ line text
        rw [hbreak] at hrun
        refine ⟨line', column', ?_⟩
        rw [hprev, if_neg Bool.false_ne_true, if_neg (by decide), List.nil_append, List.cons_append,
          List.nil_append, List.cons_append, singleQuoted_space, hrun, ho]
        simp
      · have hblank : isBlank c = false :=
          Bool.eq_false_iff.mpr fun h => hspace (eq_space_of_isBlank hpc h)
        have hs' : Spacing.nothing.Behind c := .char (by simpa [isSpace] using hspace) hbreak
        let behind := singleQuotedBody false cs ++ '\'' :: '\n' :: rest
        obtain ⟨column₁, hc₁, hm⟩ := singleQuoted_margin hs hc line text (quotedChar c ++ behind)
        obtain ⟨column₂, hc₂, hq⟩ := singleQuoted_char hc₁ hbreak hblank line s text behind
        obtain ⟨line', column', hrun⟩ := ih hs' (.inl hc₂) hps hsb₂ hbs₂ line (c :: s.onto text)
        rw [hbreak] at hrun
        refine ⟨line', column', ?_⟩
        rw [List.append_assoc, List.append_assoc]
        refine hm.trans (hq.trans (hrun.trans ?_))
        simp [Spacing.onto]

lemma doubleQuoted_close {line column : Nat} {s : Spacing} {text rest : List Char}
    (hc : column ≠ 0) :
    doubleQuoted line column s .outside text ('"' :: rest) =
      some ⟨(s.onto text).reverse, false, ⟨line, column + 1, rest⟩⟩ := by
  simp [doubleQuoted, isBreak, isBlank, hc]

lemma doubleQuoted_backslash {line column : Nat} {s : Spacing} {text rest : List Char}
    (hc : column ≠ 0) :
    doubleQuoted line column s .outside text ('\\' :: rest) =
      doubleQuoted line (column + 1) .nothing .letter (s.onto text) rest := by
  simp [doubleQuoted, isBreak, isBlank, hc]

/-- Every letter that is written stands for its character. -/
lemma escapes_of_escapeLetters {c letter : Char} (h : escapeLetters.lookup c = some letter) :
    escapes.lookup letter = some c ∧ isBreak letter = false := by
  have hall : ∀ e ∈ escapeLetters, escapes.lookup e.2 = some e.1 ∧ isBreak e.2 = false := by decide
  obtain ⟨before, after, he, -⟩ := List.lookup_eq_some_iff.mp h
  exact hall (c, letter) (by simp [he])

lemma of_escapeLetters_eq_none {c : Char} (h : escapeLetters.lookup c = none) :
    isBreak c = false ∧ c ≠ '"' ∧ c ≠ '\\' := by
  have hne {d : Char} (hd : (escapeLetters.lookup d).isSome = true) : c ≠ d := by
    rintro rfl
    rw [h] at hd
    cases hd
  refine ⟨?_, hne (by decide), hne (by decide)⟩
  have h₁ : c ≠ '\n' := hne (by decide)
  have h₂ : c ≠ '\u2028' := hne (by decide)
  have h₃ : c ≠ '\u2029' := hne (by decide)
  simp [isBreak, h₁, h₂, h₃]

/-- All but the last digits of a code. -/
lemma doubleQuoted_code (count n digits value line column : Nat) (text rest : List Char)
    (hd : 1 ≤ digits) :
    doubleQuoted line column .nothing (.code (digits + count) value) text
        (Text.lastDigits 16 'A' count n ++ rest) =
      doubleQuoted line (column + count) .nothing
        (.code digits (value * 16 ^ count + n % 16 ^ count)) text rest := by
  induction count generalizing n digits rest with
  | zero => simp [Text.lastDigits, Nat.mod_one]
  | succ count ih =>
    have hsum : digits + (count + 1) = digits + 1 + count := by omega
    have hvalue : (value * 16 ^ count + n / 16 % 16 ^ count) * 16 + n % 16 =
        value * 16 ^ (count + 1) + n % 16 ^ (count + 1) := by
      rw [Nat.pow_succ', Nat.mod_mul]
      ring
    rw [Text.lastDigits, List.append_assoc, hsum, ih (n / 16) (digits + 1) _ (by omega),
      List.cons_append, List.nil_append, doubleQuoted,
      Text.digit?_digitChar (.inr rfl) _ (Nat.mod_lt n (by omega))]
    simp only [hvalue]
    rw [if_neg (by omega)]
    rfl

lemma doubleQuoted_digits {count n : Nat} (hn : n < 16 ^ (count + 1)) (hv : n.isValidChar)
    (line column : Nat) (text rest : List Char) :
    doubleQuoted line column .nothing (.code (count + 1) 0) text
      (Text.lastDigits 16 'A' (count + 1) n ++ rest) =
      doubleQuoted line (column + count + 1) .nothing .outside (Char.ofNat n :: text) rest := by
  have hvalue : (0 * 16 ^ count + n / 16 % 16 ^ count) * 16 + n % 16 = n := by
    have hlt : n / 16 < 16 ^ count := by
      rw [Nat.pow_succ'] at hn
      exact Nat.div_lt_of_lt_mul hn
    rw [Nat.mod_eq_of_lt hlt]
    omega
  rw [Text.lastDigits, List.append_assoc, Nat.add_comm count 1,
    doubleQuoted_code count (n / 16) 1 0 line column text _ le_rfl, List.cons_append,
    List.nil_append, doubleQuoted, Text.digit?_digitChar (.inr rfl) _ (Nat.mod_lt n (by omega))]
  simp only [hvalue]
  rw [if_pos le_rfl, if_pos hv]

/-- Between double quotes the characters that are written stand for one, and the line goes on. -/
def StandsFor (written : List Char) (c : Char) : Prop :=
  ∀ line column s text rest, column ≠ 0 → s.InLine → ∃ column' s' text', column' ≠ 0 ∧ s'.InLine ∧
    s'.onto text' = c :: s.onto text ∧
    doubleQuoted line column s .outside text (written ++ rest) =
      doubleQuoted line column' s' .outside text' rest

lemma standsFor_letter {c letter : Char} (he : escapes.lookup letter = some c)
    (hb : isBreak letter = false) : StandsFor ['\\', letter] c := by
  intro line column s text rest hc _
  refine ⟨column + 1 + 1, .nothing, c :: s.onto text, by omega, .nothing, rfl, ?_⟩
  rw [List.cons_append, List.cons_append, List.nil_append, doubleQuoted_backslash hc, doubleQuoted,
    if_neg (by simp [hb]), he]

lemma standsFor_code {c letter : Char} {count : Nat} (he : escapes.lookup letter = none)
    (hb : isBreak letter = false) (hl : codeLengths.lookup letter = some (count + 1))
    (hn : c.toNat < 16 ^ (count + 1)) :
    StandsFor ('\\' :: letter :: Text.lastDigits 16 'A' (count + 1) c.toNat) c := by
  intro line column s text rest hc _
  refine ⟨column + 1 + 1 + count + 1, .nothing, c :: s.onto text, by omega, .nothing, rfl, ?_⟩
  have hd := doubleQuoted_digits hn c.valid line (column + 1 + 1) (s.onto text) rest
  rw [List.cons_append, List.cons_append, doubleQuoted_backslash hc, doubleQuoted,
    if_neg (by simp [hb]), he, hl]
  exact hd.trans (by rw [Char.ofNat_toNat])

lemma standsFor_printable {c : Char} (hp : isPrintable c = true)
    (hl : escapeLetters.lookup c = none) : StandsFor [c] c := by
  intro line column s text rest hc hs
  obtain ⟨hb, hq, hbs⟩ := of_escapeLetters_eq_none hl
  by_cases hblank : isBlank c = true
  · obtain rfl := eq_space_of_isBlank hp hblank
    exact ⟨column + 1, s.blank ' ', text, by omega, hs.blank ' ', hs.onto_blank ' ' text, rfl⟩
  · refine ⟨column + 1, .nothing, c :: s.onto text, by omega, .nothing, rfl, ?_⟩
    simp [doubleQuoted, hb, hblank, hc, hq, hbs]

lemma standsFor_doubleQuotedChar (c : Char) : StandsFor (doubleQuotedChar c) c := by
  rw [doubleQuotedChar]
  cases hl : escapeLetters.lookup c with
  | some letter =>
    obtain ⟨he, hb⟩ := escapes_of_escapeLetters hl
    exact standsFor_letter he hb
  | none =>
    dsimp only
    split_ifs with hp hx hu
    · exact standsFor_printable hp hl
    · exact standsFor_code rfl rfl rfl (by omega)
    · exact standsFor_code rfl rfl rfl (by omega)
    · refine standsFor_code rfl rfl rfl ?_
      rcases c.valid with h | h
      · exact h.trans (by decide)
      · exact h.2.trans (by decide)

lemma doubleQuoted_body {column : Nat} {s : Spacing} (hc : column ≠ 0) (hs : s.InLine)
    (cs : List Char) (line : Nat) (text rest : List Char) :
    ∃ line' column', doubleQuoted line column s .outside text
        (cs.flatMap doubleQuotedChar ++ '"' :: rest) =
      some ⟨(cs.reverse ++ s.onto text).reverse, false, ⟨line', column', rest⟩⟩ := by
  induction cs generalizing column s text with
  | nil => exact ⟨line, column + 1, doubleQuoted_close hc⟩
  | cons c cs ih =>
    obtain ⟨column₁, s₁, text₁, hc₁, hs₁, ho, hstep⟩ :=
      standsFor_doubleQuotedChar c line column s text (cs.flatMap doubleQuotedChar ++ '"' :: rest)
        hc hs
    obtain ⟨line', column', hrun⟩ := ih hc₁ hs₁ text₁
    refine ⟨line', column', ?_⟩
    rw [List.flatMap_cons, List.append_assoc, hstep, hrun, ho]
    simp

/-- What a literal holds after some characters of its text, the last of which comes first. -/
structure BlockText.Holds (t : BlockText) (inLine : Bool) (read : List Char) : Prop where
  whole : t.emptyEnds ++ (t.lineEnd.toList ++ t.text) = read
  line : inLine = true → t.lineEnd = none ∧ t.emptyEnds = []
  last : ∀ c ∈ read.head?, isBreak c = !inLine
  /-- A single line end is not that of an empty line. -/
  single : ∀ b d ds, read = b :: d :: ds → isBreak d = false → t.emptyEnds = []

lemma forall_head?_cons {c : Char} {inLine : Bool} (hc : isBreak c = !inLine) (read : List Char) :
    ∀ d ∈ (c :: read).head?, isBreak d = !inLine := by
  rintro d ⟨⟩
  exact hc

namespace BlockText.Holds

variable {t : BlockText} {read : List Char} {c : Char}

lemma text_eq (h : t.Holds true read) : t.text = read := by
  obtain ⟨hl, he⟩ := h.line rfl
  have hw := h.whole
  rw [hl, he] at hw
  exact hw

lemma push (h : t.Holds true read) (hc : isBreak c = false) :
    (t.push c).Holds true (c :: read) := by
  obtain ⟨hl, he⟩ := h.line rfl
  refine ⟨?_, fun _ => ⟨hl, he⟩, forall_head?_cons hc read, fun _ _ _ _ _ => he⟩
  simp [BlockText.push, hl, he, h.text_eq]

lemma endLine (h : t.Holds true read) (hc : isBreak c = true) :
    { t with lineEnd := some c }.Holds false (c :: read) := by
  obtain ⟨-, he⟩ := h.line rfl
  refine ⟨?_, (nomatch ·), forall_head?_cons hc read, fun _ _ _ _ _ => he⟩
  simp [he, h.text_eq]

lemma emptyLine (h : t.Holds false read) (hc : isBreak c = true) :
    { t with emptyEnds := c :: t.emptyEnds }.Holds false (c :: read) := by
  refine ⟨?_, (nomatch ·), forall_head?_cons hc read, ?_⟩
  · simp [← h.whole]
  · -- what stood before is a line end as well
    rintro b d ds he hd
    obtain ⟨-, rfl⟩ := List.cons.inj he
    rw [h.last d rfl] at hd
    cases hd

lemma startLine (h : t.Holds false read) (hc : isBreak c = false) (blankStart : Bool) :
    ((t.startLine false blankStart).push c).Holds true (c :: read) := by
  refine ⟨?_, fun _ => ⟨rfl, rfl⟩, forall_head?_cons hc read, fun _ _ _ _ _ => rfl⟩
  simp [BlockText.push, BlockText.startLine, BlockText.joined, h.whole]

end BlockText.Holds

lemma blockLines_break {c : Char} (hc : isBreak c = true) (line column : Nat) (inLine : Bool)
    (t : BlockText) (rest : List Char) :
    blockLines false 2 line column inLine t (c :: rest) = blockLines false 2 (line + 1) 0 false
      (if inLine then { t with lineEnd := some c }
        else { t with emptyEnds := c :: t.emptyEnds }) rest := by
  rw [blockLines, if_pos hc]

lemma blockLines_inLine {c : Char} (hc : isBreak c = false) (line column : Nat) (t : BlockText)
    (rest : List Char) :
    blockLines false 2 line column true t (c :: rest) =
      blockLines false 2 line (column + 1) true (t.push c) rest := by
  rw [blockLines, if_neg (by simp [hc]), if_pos rfl]

lemma blockLines_margin {c : Char} (hc : isBreak c = false) (line : Nat) (t : BlockText)
    (rest : List Char) :
    blockLines false 2 line 0 false t (margin ++ c :: rest) =
      blockLines false 2 line 3 true ((t.startLine false (isBlank c)).push c) rest := by
  have hm : blockLines false 2 line 0 false t (margin ++ c :: rest) =
      blockLines false 2 line 2 false t (c :: rest) := rfl
  rw [hm, blockLines, if_neg (by simp [hc]), if_neg Bool.false_ne_true, if_neg (by decide)]

lemma blockLines_withMargin (cs : List Char) {t : BlockText} {inLine : Bool} {read : List Char}
    (h : t.Holds inLine read) {column : Nat} (hc : inLine = false → column = 0) (line : Nat)
    (rest : List Char) :
    ∃ line' column' inLine' t', BlockText.Holds t' inLine' (cs.reverse ++ read) ∧
      blockLines false 2 line column inLine t (withMargin (!inLine) cs ++ rest) =
        blockLines false 2 line' column' inLine' t' rest := by
  induction cs generalizing t inLine read column line with
  | nil => exact ⟨line, column, inLine, t, h, rfl⟩
  | cons c cs ih =>
    rw [withMargin, List.reverse_cons, List.append_assoc, List.singleton_append]
    cases hb : isBreak c with
    | true =>
      rw [if_pos rfl, List.cons_append, blockLines_break hb]
      cases inLine with
      | true => exact ih (h.endLine hb) (fun _ => rfl) (line + 1)
      | false => exact ih (h.emptyLine hb) (fun _ => rfl) (line + 1)
    | false =>
      rw [if_neg Bool.false_ne_true]
      cases inLine with
      | true =>
        rw [Bool.not_true, if_neg Bool.false_ne_true, List.nil_append, List.cons_append,
          blockLines_inLine hb]
        exact ih (h.push hb) (nomatch ·) line
      | false =>
        rw [hc rfl, Bool.not_false, if_pos rfl, List.append_assoc, List.cons_append,
          blockLines_margin hb]
        exact ih (h.startLine hb (isBlank c)) (nomatch ·) line

/-- What is to become of the line ends behind a text, so that it is read back. -/
def chompingOf (cs : List Char) : Chomping :=
  match cs.reverse with
  | [] => .strip
  | last :: others =>
    if !isBreak last then .strip
    else if others.isEmpty || (others.head?.map isBreak).getD false then .keep else .clip

def Chomping.mark : Chomping → List Char
  | .strip => ['-']
  | .clip => []
  | .keep => ['+']

/-- Whether the first character hides the indentation. -/
def hidesIndent (cs : List Char) : Bool :=
  (cs.head?.map isSpaceOrBreak).getD false

lemma literalHints_eq (cs : List Char) :
    literalHints cs = (if hidesIndent cs then ['2'] else []) ++ (chompingOf cs).mark := by
  rw [literalHints, hidesIndent, chompingOf]
  congr 1
  cases cs.reverse with
  | nil => rfl
  | cons last others =>
    dsimp only
    split_ifs <;> rfl

lemma hints_mark (told : Bool) (chomping : Chomping) (rest : List Char) :
    BlockHeader.hints ((if told then ['2'] else []) ++ (chomping.mark ++ '\n' :: rest)) =
      (chomping, if told then some 2 else none, '\n' :: rest) := by
  cases told <;> cases chomping <;> rfl

lemma read?_literal (told : Bool) (chomping : Chomping) (rest : List Char) :
    BlockHeader.read? ('|' :: ((if told then ['2'] else []) ++ (chomping.mark ++ '\n' :: rest))) =
      some (⟨.literal, chomping, if told then some 2 else none⟩, rest) := by
  have ha : BlockHeader.afterLine? ('\n' :: rest) = some rest := rfl
  rw [BlockHeader.read?, hints_mark]
  simp [ha, List.lookup]

lemma detectIndent?_withMargin {cs : List Char} (hne : cs ≠ [])
    (hp : ∀ c ∈ cs, isPrintable c = true) (hh : hidesIndent cs = false) (rest : List Char) :
    detectIndent? 0 0 (withMargin true cs ++ rest) = some 2 := by
  obtain ⟨c, ds, rfl⟩ := List.exists_cons_of_ne_nil hne
  have hs : isSpaceOrBreak c = false := hh
  obtain ⟨hspace, hbreak⟩ : c ≠ ' ' ∧ isBreak c = false := by simpa [isSpaceOrBreak] using hs
  have htab : c ≠ '\t' := by
    rintro rfl
    exact absurd (hp '\t' List.mem_cons_self) (by decide)
  rw [withMargin, if_neg (by simp [hbreak]), if_pos rfl]
  simp [margin, detectIndent?, hspace, hbreak, htab]

/-- The end of the last line, which is written unless the text has it. -/
def finalBreak (cs : List Char) : List Char :=
  if (cs.getLast?.map isBreak).getD false then [] else ['\n']

/-- Behind the whole text the marked chomping leaves exactly this text. -/
lemma chomped_of_holds {cs : List Char} (hne : cs ≠ []) {t : BlockText} {inLine : Bool}
    (h : t.Holds inLine cs.reverse) (line column : Nat) :
    ∃ t' next, blockLines false 2 line column inLine t (finalBreak cs) = some (t', next) ∧
      next.rest = [] ∧ t'.chomped (chompingOf cs) = cs := by
  obtain ⟨last, others, hr⟩ := List.exists_cons_of_ne_nil (List.reverse_ne_nil_iff.mpr hne)
  have hcs : cs = (last :: others).reverse := by rw [← hr, List.reverse_reverse]
  have hlast : isBreak last = !inLine := h.last last (by rw [hr]; rfl)
  have hfinal : finalBreak cs = if isBreak last then [] else ['\n'] := by
    rw [finalBreak, List.getLast?_eq_head?_reverse, hr]
    rfl
  have hchomping : chompingOf cs = if !isBreak last then .strip
      else if others.isEmpty || (others.head?.map isBreak).getD false then .keep else .clip := by
    rw [chompingOf, hr]
  rw [hfinal, hchomping, hlast]
  cases inLine with
  | true =>
    refine ⟨{ t with lineEnd := some '\n' }, ⟨line + 1, 0, []⟩, rfl, rfl, ?_⟩
    have ht : t.text = last :: others := by rw [h.text_eq, hr]
    change t.text.reverse = cs
    rw [ht, hcs]
  | false =>
    refine ⟨t, ⟨line, column, []⟩, rfl, rfl, ?_⟩
    have hw : t.emptyEnds ++ (t.lineEnd.toList ++ t.text) = last :: others := by rw [h.whole, hr]
    rw [Bool.not_not, if_neg Bool.false_ne_true]
    split_ifs with hk
    · rw [BlockText.chomped, hw, hcs]
    · -- a single line end, with the text of its line in front
      cases others with
      | nil => exact absurd rfl hk
      | cons d ds =>
        have hd : isBreak d = false := by simpa using hk
        rw [h.single last d ds hr hd, List.nil_append] at hw
        rw [BlockText.chomped, hw, hcs]

lemma block?_literal {cs : List Char} (hne : cs ≠ []) (hp : ∀ c ∈ cs, isPrintable c = true)
    (line column : Nat) :
    ∃ next, next.rest = [] ∧
      block? 0 ⟨line, column,
        '|' :: literalHints cs ++ '\n' :: withMargin true cs ++ finalBreak cs⟩ =
        some (.literal, ⟨cs, true, next⟩) := by
  have hempty : BlockText.empty.Holds false [] := ⟨rfl, (nomatch ·), by simp, by simp⟩
  obtain ⟨line', column', inLine, t, ht, hrun⟩ :=
    blockLines_withMargin cs hempty (fun _ => rfl) (line + 1) (finalBreak cs)
  rw [List.append_nil] at ht
  obtain ⟨t', next, hend, hnext, hchomped⟩ := chomped_of_holds hne ht line' column'
  have hlines : blockLines false 2 (line + 1) 0 false .empty (withMargin true cs ++ finalBreak cs) =
      some (t', next) :=
    hrun.trans hend
  have hheader :=
    read?_literal (hidesIndent cs) (chompingOf cs) (withMargin true cs ++ finalBreak cs)
  have htext : '|' :: literalHints cs ++ '\n' :: withMargin true cs ++ finalBreak cs =
      '|' :: ((if hidesIndent cs then ['2'] else []) ++
        ((chompingOf cs).mark ++ '\n' :: (withMargin true cs ++ finalBreak cs))) := by
    rw [literalHints_eq]
    simp
  refine ⟨next, hnext, ?_⟩
  rw [block?, htext, hheader]
  cases hh : hidesIndent cs with
  | true =>
    simp only [Option.bind_eq_bind, Option.bind_some, if_true, Nat.zero_add, reduceCtorEq,
      decide_false, hlines, hchomped]
    rfl
  | false =>
    simp only [Option.bind_eq_bind, Option.bind_some, Bool.false_eq_true, if_false, reduceCtorEq,
      decide_false, detectIndent?_withMargin hne hp hh, Option.map_some, Nat.zero_add,
      Nat.reduceLeDiff, max_eq_left, hlines, hchomped]
    rfl

/-- When a style is chosen. -/
inductive Styled (cs : List Char) : Style → Prop
  | plain (hne : cs ≠ []) (h : allowsPlain cs = true) : Styled cs .plain
  | singleQuoted (hn : '\n' ∉ cs) (h : allowsSingleQuotes cs = true) : Styled cs .singleQuoted
  | doubleQuoted : Styled cs .doubleQuoted
  | literal (hn : '\n' ∈ cs) (h : allowsLiteral cs = true) : Styled cs .literal

lemma styled_styleOf (text : String) : Styled text.toList (styleOf text) := by
  rw [styleOf]
  split_ifs with hn hl hp hs
  · exact .literal (by simpa using hn) hl
  · exact .doubleQuoted
  · obtain ⟨ha, hp⟩ := Bool.and_eq_true_iff.mp hp
    refine .plain ?_ hp
    intro he
    have hempty : text = "" := by simpa using he
    rw [hempty] at ha
    exact absurd ha (by decide)
  · exact .singleQuoted (by simpa using hn) hs
  · exact .doubleQuoted

lemma of_not_needsDoubleQuotes {cs : List Char} (h : (!needsDoubleQuotes cs) = true) :
    (∀ c ∈ cs, isPrintable c = true) ∧ hasPair isSpace isBreak cs = false := by
  simpa [needsDoubleQuotes] using h

lemma Styled.isPrintable {cs : List Char} {style : Style} (h : Styled cs style)
    (hd : style ≠ .doubleQuoted) : ∀ c ∈ cs, isPrintable c = true := by
  suffices hn : (!needsDoubleQuotes cs) = true from (of_not_needsDoubleQuotes hn).1
  cases h with
  | plain _ h =>
    simp only [allowsPlain, Bool.and_eq_true] at h
    exact h.1.1.1.1
  | singleQuoted _ h => exact (Bool.and_eq_true_iff.mp h).1
  | doubleQuoted => exact absurd rfl hd
  | literal _ h => exact (Bool.and_eq_true_iff.mp h).1

lemma isPlain_of_allowsPlain {cs : List Char} (hne : cs ≠ []) (h : allowsPlain cs = true) :
    IsPlain cs := by
  have hp := (Styled.plain hne h).isPrintable (by decide)
  simp only [allowsPlain, Bool.and_eq_true] at h
  obtain ⟨⟨⟨⟨-, hb⟩, he⟩, hs⟩, hc⟩ := h
  have hspace : cs.head? ≠ some ' ' ∧ cs.getLast? ≠ some ' ' := by
    rw [Bool.not_eq_true', atEdge, Bool.or_eq_false_iff] at he
    constructor
    · intro hh
      simp [hh, isSpace] at he
    · intro hl
      simp [hl, isSpace] at he
  obtain ⟨c, ds, rfl⟩ := List.exists_cons_of_ne_nil hne
  refine ⟨⟨c, ds, rfl, ?_⟩, by simpa using hs, by simpa using hb, by simpa using hc, ?_⟩
  · exact Bool.eq_false_iff.mpr fun hbl =>
      hspace.1 (congrArg some (eq_space_of_isBlank (hp c List.mem_cons_self) hbl))
  · intro d hd
    rw [Bool.eq_false_iff]
    intro hbl
    rw [eq_space_of_isBlank (hp d (List.mem_of_getLast? hd)) hbl] at hd
    exact hspace.2 hd

lemma content?_plain {cs rest : List Char} {line column : Nat} (h : IsPlain cs)
    (hm : column ≠ 0 ∨ isMarker (cs ++ rest) = false) :
    content? ⟨false, 0⟩ ⟨line, column, cs ++ rest⟩ =
      (plain false 1 line (column + cs.length) .nothing cs.reverse rest).map fun r =>
        (.plain, r) := by
  obtain ⟨c, ds, rfl, -⟩ := h.head
  have hmarks : c ∉ ['\'', '"', '|', '>'] := notMem_of_startsOther h.starts (by decide)
  simp only [List.mem_cons, List.not_mem_nil, not_or] at hmarks
  rw [← plain?_append h hm, content?, List.cons_append]
  simp [hmarks, isBlockMark]

lemma content?_plain_line {cs rest : List Char} {line column : Nat} (h : IsPlain cs)
    (hc : column ≠ 0) (hr : StartsLine rest) :
    content? ⟨false, 0⟩ ⟨line, column, cs ++ '\n' :: rest⟩ =
      some (.plain, ⟨cs, true, ⟨line + 1, 0, rest⟩⟩) := by
  rw [content?_plain h (.inl hc), plain_line_end Nat.one_pos hr, List.reverse_reverse]
  rfl

lemma content?_singleQuoted {cs : List Char} (hn : '\n' ∉ cs) (h : allowsSingleQuotes cs = true)
    (line column : Nat) :
    ∃ line' column',
      content? ⟨false, 0⟩ ⟨line, column, '\'' :: singleQuotedBody false cs ++ ['\'', '\n']⟩ =
      some (.singleQuoted, ⟨cs, false, ⟨line', column', ['\n']⟩⟩) := by
  obtain ⟨hd, hbs⟩ := Bool.and_eq_true_iff.mp h
  obtain ⟨hp, hsb⟩ := of_not_needsDoubleQuotes hd
  have hbs' : hasPair isBreak isSpace ('\'' :: cs) = false := by
    rw [hasPair_cons_of_not (by decide)]
    simpa using hbs
  have hsb' : hasPair isSpace isBreak ('\'' :: cs) = false := by
    rwa [hasPair_cons_of_not (by decide)]
  have hall : ∀ c ∈ cs, isPrintable c = true ∧ c ≠ '\n' :=
    fun c hm => ⟨hp c hm, fun he => hn (he ▸ hm)⟩
  obtain ⟨line', column', hrun⟩ :=
    singleQuoted_body (.char (by decide) (by decide)) (.inl (Nat.succ_ne_zero column)) hall hsb'
      hbs' line [] []
  refine ⟨line', column', ?_⟩
  change (singleQuoted line (column + 1) .nothing false []
    (singleQuotedBody false cs ++ ['\'', '\n'])).map _ = _
  rw [show singleQuotedBody false cs = singleQuotedBody (isBreak '\'') cs from rfl, hrun]
  simp [Spacing.onto]

lemma content?_doubleQuoted (cs : List Char) (line column : Nat) :
    ∃ line' column',
      content? ⟨false, 0⟩ ⟨line, column, '"' :: cs.flatMap doubleQuotedChar ++ ['"', '\n']⟩ =
      some (.doubleQuoted, ⟨cs, false, ⟨line', column', ['\n']⟩⟩) := by
  obtain ⟨line', column', hrun⟩ :=
    doubleQuoted_body (Nat.succ_ne_zero column) .nothing cs line [] ['\n']
  refine ⟨line', column', ?_⟩
  change (doubleQuoted line (column + 1) .nothing .outside []
    (cs.flatMap doubleQuotedChar ++ ['"', '\n'])).map _ = _
  rw [hrun]
  simp [Spacing.onto]

/-- Nothing but blank space is left behind a scalar. -/
def Reading.Ends (r : Reading) : Prop :=
  ∀ tabs, (r.next.next tabs).rest = []

lemma ends_of_nil {text : List Char} {fresh : Bool} {next : Cursor} (h : next.rest = []) :
    Reading.Ends ⟨text, fresh, next⟩ := by
  intro tabs
  obtain ⟨line, column, rest⟩ := next
  obtain rfl : rest = [] := h
  rfl

/-- A written text is read back as it was, in its style and up to the end. -/
theorem content?_writeScalar (text : String) {column : Nat} (hc : column ≠ 0) (line : Nat) :
    ∃ r : Reading, content? ⟨false, 0⟩ ⟨line, column, writeScalar text⟩ = some (styleOf text, r) ∧
      r.text = text.toList ∧ r.Ends := by
  have hstyled := styled_styleOf text
  rw [writeScalar]
  generalize styleOf text = style at hstyled ⊢
  generalize text.toList = cs at hstyled ⊢
  cases hstyled with
  | plain hne h =>
    exact ⟨_, content?_plain_line (isPlain_of_allowsPlain hne h) hc (by simp [StartsLine]), rfl,
      ends_of_nil rfl⟩
  | singleQuoted hn h =>
    obtain ⟨line', column', hread⟩ := content?_singleQuoted hn h line column
    exact ⟨_, hread, rfl, fun _ => rfl⟩
  | doubleQuoted =>
    obtain ⟨line', column', hread⟩ := content?_doubleQuoted cs line column
    exact ⟨_, hread, rfl, fun _ => rfl⟩
  | literal hn h =>
    have hp := (Styled.literal hn h).isPrintable (by decide)
    obtain ⟨next, hnext, hread⟩ := block?_literal (List.ne_nil_of_mem hn) hp line column
    exact ⟨_, hread, rfl, ends_of_nil hnext⟩

/-- Where the text of a scalar begins, and neither blank space nor a comment, nor a mark in front of
a node. -/
def StartsScalar (cs : List Char) : Prop :=
  ∃ c ∈ cs.head?, isBlank c = false ∧ isBreak c = false ∧ c ∉ ['#', '*', '&', '!', '\ufeff']

lemma IsPlain.startsScalar {cs : List Char} (h : IsPlain cs) (hp : ∀ c ∈ cs, isPrintable c = true)
    (rest : List Char) : StartsScalar (cs ++ rest) := by
  obtain ⟨c, ds, rfl, hb⟩ := h.head
  have hmarks : c ∉ ['#', '*', '&', '!'] := notMem_of_startsOther h.starts (by decide)
  have hfirst : c ≠ '\ufeff' := by
    rintro rfl
    exact absurd (hp '\ufeff' List.mem_cons_self) (by decide)
  simp only [List.mem_cons, List.not_mem_nil, not_or] at hmarks
  refine ⟨c, rfl, hb, h.breaks c List.mem_cons_self, ?_⟩
  simp [hmarks, hfirst]

lemma startsScalar_writeScalar (text : String) : StartsScalar (writeScalar text) := by
  have hstyled := styled_styleOf text
  rw [writeScalar]
  generalize styleOf text = style at hstyled ⊢
  cases hstyled with
  | plain hne h =>
    have hp := (Styled.plain hne h).isPrintable (by decide)
    exact (isPlain_of_allowsPlain hne h).startsScalar hp _
  | singleQuoted hn h => exact ⟨'\'', rfl, by decide, by decide, by decide⟩
  | doubleQuoted => exact ⟨'"', rfl, by decide, by decide, by decide⟩
  | literal hn h => exact ⟨'|', rfl, by decide, by decide, by decide⟩

lemma all_isPrintable_margin : margin.all isPrintable = true := by decide

lemma all_isPrintable_singleQuotedBody {cs : List Char} (h : cs.all isPrintable = true)
    (lineStart : Bool) : (singleQuotedBody lineStart cs).all isPrintable = true := by
  have hquotes : ['\'', '\''].all isPrintable = true := by decide
  induction cs generalizing lineStart with
  | nil =>
    rw [singleQuotedBody]
    split_ifs
    · exact all_isPrintable_margin
    · rfl
  | cons c cs ih =>
    obtain ⟨hc, hcs⟩ : isPrintable c = true ∧ cs.all isPrintable = true := by simpa using h
    rw [singleQuotedBody]
    split_ifs <;>
      simp only [List.all_append, List.all_cons, List.all_nil, all_isPrintable_margin, hc, ih hcs,
        hquotes, Bool.and_self]

lemma all_isPrintable_lastDigits (count n : Nat) :
    (Text.lastDigits 16 'A' count n).all isPrintable = true := by
  have hdigit : ∀ d < 16, isPrintable (Text.digitChar 'A' d) = true := by decide
  induction count generalizing n with
  | zero => rfl
  | succ count ih => simp [Text.lastDigits, ih, hdigit (n % 16) (Nat.mod_lt n (by omega))]

lemma all_isPrintable_doubleQuotedChar (c : Char) :
    (doubleQuotedChar c).all isPrintable = true := by
  have hletters : ∀ e ∈ escapeLetters, isPrintable e.2 = true := by decide
  have hslash : isPrintable '\\' = true := by decide
  rw [doubleQuotedChar]
  cases hl : escapeLetters.lookup c with
  | some letter =>
    obtain ⟨before, after, he, -⟩ := List.lookup_eq_some_iff.mp hl
    have hletter : isPrintable letter = true := hletters (c, letter) (by simp [he])
    simp [hslash, hletter]
  | none =>
    dsimp only
    split_ifs with hp
    · simp [hp]
    all_goals
      rw [List.all_cons, List.all_cons, all_isPrintable_lastDigits, hslash]
      rfl

lemma all_isPrintable_withMargin {cs : List Char} (h : cs.all isPrintable = true)
    (lineStart : Bool) : (withMargin lineStart cs).all isPrintable = true := by
  induction cs generalizing lineStart with
  | nil => rfl
  | cons c cs ih =>
    obtain ⟨hc, hcs⟩ : isPrintable c = true ∧ cs.all isPrintable = true := by simpa using h
    rw [withMargin]
    split_ifs <;>
      simp only [List.all_append, List.all_cons, List.all_nil, all_isPrintable_margin, hc, ih hcs,
      Bool.and_self]

lemma all_isPrintable_literalHints (cs : List Char) : (literalHints cs).all isPrintable = true := by
  rw [literalHints_eq, List.all_append]
  cases hidesIndent cs <;> cases chompingOf cs <;> rfl

lemma all_isPrintable_writeScalar (text : String) : (writeScalar text).all isPrintable = true := by
  have hstyled := styled_styleOf text
  have hprintable (hd : styleOf text ≠ .doubleQuoted) : text.toList.all isPrintable = true :=
    List.all_eq_true.mpr (hstyled.isPrintable hd)
  rw [writeScalar]
  generalize styleOf text = style at hstyled hprintable ⊢
  cases hstyled with
  | plain _ _ =>
    rw [List.all_append, hprintable (by decide)]
    decide
  | singleQuoted _ _ =>
    rw [List.all_append, List.all_cons, all_isPrintable_singleQuotedBody (hprintable (by decide))]
    decide
  | doubleQuoted =>
    have hbody : (text.toList.flatMap doubleQuotedChar).all isPrintable = true := by
      rw [List.all_flatMap, List.all_eq_true]
      exact fun c _ => all_isPrintable_doubleQuotedChar c
    rw [List.all_append, List.all_cons, hbody]
    decide
  | literal _ _ =>
    have hend : (finalBreak text.toList).all isPrintable = true := by
      rw [finalBreak]
      split_ifs <;> decide
    rw [finalBreak] at hend
    rw [List.all_append, List.all_append, List.all_cons, List.all_cons, hend,
      all_isPrintable_literalHints, all_isPrintable_withMargin (hprintable (by decide))]
    decide

/-- Characters that are written are readable, and no line end among them is rewritten. -/
lemma isReadable_of_isPrintable {c : Char} (h : isPrintable c = true) :
    isReadable c = true ∧ c ≠ '\r' ∧ c ≠ '\x85' := by
  refine ⟨?_, ?_, ?_⟩
  · simp only [isPrintable, isReadable, Bool.or_eq_true, Bool.and_eq_true, decide_eq_true_eq,
      bne_iff_ne] at h ⊢
    tauto
  · rintro rfl
    exact absurd h (by decide)
  · rintro rfl
    exact absurd h (by decide)

lemma normalizeBreaks_eq_self {cs : List Char} (h : cs.all isPrintable = true) :
    normalizeBreaks cs = cs := by
  induction cs with
  | nil => rfl
  | cons c cs ih =>
    obtain ⟨hc, hcs⟩ : isPrintable c = true ∧ cs.all isPrintable = true := by simpa using h
    obtain ⟨-, hr, hn⟩ := isReadable_of_isPrintable hc
    rw [normalizeBreaks, ih hcs, if_neg (not_or.mpr ⟨hr, hn⟩)]
    rintro _ rfl
    exact absurd rfl hr

end Typescribe.Yaml
