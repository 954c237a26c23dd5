import Mathlib
import Typescribe.Proofs.YamlScalars
import Typescribe.Settings.Yaml

/-!
# Settings read back from YAML

Settings are written as one mapping: lines of a name and a word, and last the indent, which can be
any text. The reader takes the lines one by one, each leaving it at the start of the next, and the
indent leaves it at the end.
-/
namespace Typescribe

namespace Yaml

/-- The characters of the names of fields and of their variants. -/
def isNameLetter (c : Char) : Bool := c = '_' || c.isAlpha

/-- A text of such characters that is no longer than a key may be. -/
structure IsName (text : String) : Prop where
  nonempty : text.toList ≠ []
  letters : text.toList.all isNameLetter = true
  short : text.toList.length ≤ maxKeyLength

instance : DecidablePred IsName := fun text =>
  decidable_of_iff (text.toList ≠ [] ∧ text.toList.all isNameLetter = true ∧
    text.toList.length ≤ maxKeyLength)
    ⟨fun ⟨hn, hl, hs⟩ => ⟨hn, hl, hs⟩, fun h => ⟨h.nonempty, h.letters, h.short⟩⟩

section Letters

variable {c : Char} (h : isNameLetter c = true)
include h

lemma ne_of_isNameLetter {mark : Char} (hm : isNameLetter mark = false) : c ≠ mark := by
  rintro rfl
  rw [h] at hm
  cases hm

lemma notMem_of_isNameLetter {marks : List Char}
    (hm : marks.any isNameLetter = false) : c ∉ marks :=
  fun hc => List.any_eq_false.mp hm c hc h

lemma isBlank_of_isNameLetter : isBlank c = false := by
  rw [Bool.eq_false_iff]
  intro hb
  simp only [isBlank, Bool.or_eq_true, decide_eq_true_eq] at hb
  rcases hb with rfl | rfl <;> exact absurd h (by decide)

lemma isBreak_of_isNameLetter : isBreak c = false := by
  rw [Bool.eq_false_iff]
  intro hb
  simp only [isBreak, Bool.or_eq_true, decide_eq_true_eq] at hb
  rcases hb with (rfl | rfl) | rfl <;> exact absurd h (by decide)

lemma isPrintable_of_isNameLetter : isPrintable c = true := by
  have hn : c.toNat = c.val.toNat := rfl
  simp only [isNameLetter, Char.isAlpha, Char.isUpper, Char.isLower, Bool.or_eq_true,
    Bool.and_eq_true, decide_eq_true_eq, UInt32.le_iff_toNat_le, ge_iff_le] at h
  simp only [isPrintable, Bool.or_eq_true, Bool.and_eq_true, decide_eq_true_eq]
  rcases h with rfl | ⟨hl, hu⟩ | ⟨hl, hu⟩
  · decide
  · have ha : ('A' : Char).val.toNat = 65 := rfl
    have hz : ('Z' : Char).val.toNat = 90 := rfl
    omega
  · have ha : ('a' : Char).val.toNat = 97 := rfl
    have hz : ('z' : Char).val.toNat = 122 := rfl
    omega

lemma startsOther_of_isNameLetter (cs : List Char) : startsOther (c :: cs) = false := by
  have hmarks : c ∉ ['.', '-', '?', ':'] := notMem_of_isNameLetter h (by decide)
  have hindicator : c ∉ indicators := notMem_of_isNameLetter h (by decide)
  simp only [List.mem_cons, not_or] at hmarks
  simp [startsOther, hmarks, hindicator]

end Letters

lemma isCut_of_isNameLetter {cs : List Char} (h : ∀ c ∈ cs, isNameLetter c = true) :
    isCut cs = false := by
  induction cs with
  | nil => rfl
  | cons c cs ih =>
    cases cs with
    | nil => rfl
    | cons d ds =>
      obtain ⟨-, hds⟩ := List.forall_mem_cons.mp h
      have hcolon : d ≠ ':' := ne_of_isNameLetter (hds d List.mem_cons_self) (by decide)
      have hhash : d ≠ '#' := ne_of_isNameLetter (hds d List.mem_cons_self) (by decide)
      rw [isCut]
      simp [hcolon, hhash, ih hds]

namespace IsName

variable {text : String} (h : IsName text)
include h

lemma isNameLetter {c : Char} (hc : c ∈ text.toList) : Yaml.isNameLetter c = true :=
  List.all_eq_true.mp h.letters c hc

lemma exists_cons : ∃ c cs, text.toList = c :: cs ∧ Yaml.isNameLetter c = true := by
  obtain ⟨c, cs, hc⟩ := List.exists_cons_of_ne_nil h.nonempty
  exact ⟨c, cs, hc, h.isNameLetter (hc ▸ List.mem_cons_self)⟩

lemma isPlain : IsPlain text.toList where
  head := by
    obtain ⟨c, cs, hc, hn⟩ := h.exists_cons
    exact ⟨c, cs, hc, isBlank_of_isNameLetter hn⟩
  starts := by
    obtain ⟨c, cs, hc, hn⟩ := h.exists_cons
    rw [hc]
    exact startsOther_of_isNameLetter hn cs
  breaks c hc := isBreak_of_isNameLetter (h.isNameLetter hc)
  cut := isCut_of_isNameLetter fun _ => h.isNameLetter
  last c hc := isBlank_of_isNameLetter (h.isNameLetter (List.mem_of_getLast? hc))

lemma all_isPrintable : text.toList.all isPrintable = true :=
  List.all_eq_true.mpr fun _ hc => isPrintable_of_isNameLetter (h.isNameLetter hc)

end IsName

/-- A text whose first character belongs to a name. -/
def StartsName (cs : List Char) : Prop :=
  ∃ c ds, cs = c :: ds ∧ isNameLetter c = true

lemma IsName.startsName {text : String} (h : IsName text) (rest : List Char) :
    StartsName (text.toList ++ rest) := by
  obtain ⟨c, cs, hc, hn⟩ := h.exists_cons
  rw [hc]
  exact ⟨c, cs ++ rest, rfl, hn⟩

namespace StartsName

variable {cs : List Char} (h : StartsName cs)
include h

lemma ne_nil : cs ≠ [] := by
  obtain ⟨c, ds, rfl, -⟩ := h
  exact List.cons_ne_nil c ds

lemma startsScalar : StartsScalar cs := by
  obtain ⟨c, ds, rfl, hn⟩ := h
  exact ⟨c, rfl, isBlank_of_isNameLetter hn, isBreak_of_isNameLetter hn,
    notMem_of_isNameLetter hn (by decide)⟩

lemma isMarker : Yaml.isMarker cs = false := by
  obtain ⟨c, ds, rfl, hn⟩ := h
  have hdash : c ≠ '-' := ne_of_isNameLetter hn (by decide)
  have hdot : c ≠ '.' := ne_of_isNameLetter hn (by decide)
  simp [Yaml.isMarker, isStartMarker, isEndMarker, hdash, hdot]

lemma isDocumentOver (line column : Nat) : Yaml.isDocumentOver ⟨line, column, cs⟩ = false := by
  simp [Yaml.isDocumentOver, h.isMarker, h.ne_nil]

end StartsName

lemma next_of_startsScalar {cs : List Char} (h : StartsScalar cs) (tabs : Bool)
    (line column : Nat) : Cursor.next tabs ⟨line, column, cs⟩ = ⟨line, column, cs⟩ := by
  obtain ⟨c, hc, hb, hbreak, hn⟩ := h
  cases cs with
  | nil => cases hc
  | cons d ds =>
    cases hc
    simp only [isBlank, Bool.or_eq_false_iff, decide_eq_false_iff_not] at hb
    simp only [List.mem_cons, not_or] at hn
    simp [Cursor.next, Cursor.skip, hbreak, hb, hn]

lemma startsProperty_of_startsScalar {cs : List Char} (h : StartsScalar cs) (line column : Nat) :
    startsProperty ⟨line, column, cs⟩ = false := by
  obtain ⟨c, hc, -, -, hn⟩ := h
  simp only [List.mem_cons, not_or] at hn
  rw [Option.mem_def] at hc
  simp [startsProperty, hc, hn]

/-- A scalar on its own is a node with its text. -/
lemma node?_of_content? {handles : Handles} {place : Place} {anchors : Anchors} {line column : Nat}
    {cs : List Char} {style : Style} {r : Reading} (hs : StartsScalar cs)
    (h : content? place ⟨line, column, cs⟩ = some (style, r)) :
    node? handles place anchors ⟨line, column, cs⟩ =
      some ⟨.scalar ⟨String.ofList r.text, style, none⟩, anchors, r.fresh, r.next⟩ := by
  have hp : properties? handles place ⟨line, column, cs⟩ = some (.nothing, ⟨line, column, cs⟩) := by
    rw [properties?, startsProperty_of_startsScalar hs]
    rfl
  obtain ⟨c, hc, -, -, hn⟩ := hs
  rw [node?.eq_def]
  split
  · next ds he =>
    dsimp only at he
    subst he
    cases hc
    exact absurd (by decide) hn
  · rw [hp]
    simp [Properties.isNothing, Properties.nothing, h, Anchors.add]

/-- A name in front of a colon is read up to the colon. -/
lemma node?_key {key : String} (hk : IsName key) (handles : Handles) (anchors : Anchors)
    (line : Nat) (rest : List Char) :
    node? handles ⟨false, 0⟩ anchors ⟨line, 0, key.toList ++ ':' :: ' ' :: rest⟩ =
      some ⟨.scalar ⟨key, .plain, none⟩, anchors, false,
        ⟨line, key.toList.length, ':' :: ' ' :: rest⟩⟩ := by
  have hstarts := hk.startsName (':' :: ' ' :: rest)
  have hcontent : content? ⟨false, 0⟩ ⟨line, 0, key.toList ++ ':' :: ' ' :: rest⟩ =
      some (.plain, ⟨key.toList, false, ⟨line, key.toList.length, ':' :: ' ' :: rest⟩⟩) := by
    rw [content?_plain hk.isPlain (.inr hstarts.isMarker), plain_colon, List.reverse_reverse,
      Nat.zero_add]
    rfl
  rw [node?_of_content? hstarts.startsScalar hcontent, String.ofList_toList]

/-- The scalar behind a key, on the key's line. -/
lemma blockValue?_of_content? {value : List Char} (hs : StartsScalar value) {line column : Nat}
    {style : Style} {r : Reading}
    (h : content? ⟨false, 0⟩ ⟨line, column + 1, value⟩ = some (style, r)) (handles : Handles)
    (key : NodeReading) :
    blockValue? handles 0 key true ⟨line, column, ' ' :: value⟩ =
      some ⟨(key.node, .scalar ⟨String.ofList r.text, style, none⟩), key.anchors,
        r.fresh || decide (r.next.line < (r.next.next !r.fresh).line), r.next.next !r.fresh⟩ := by
  have hnext : Cursor.next true ⟨line, column, ' ' :: value⟩ = ⟨line, column + 1, value⟩ :=
    next_of_startsScalar hs true line (column + 1)
  have hover : Place.isOver ⟨false, 0⟩ ⟨line, column + 1, value⟩ = false := by
    obtain ⟨c, hc, -⟩ := hs
    cases value with
    | nil => cases hc
    | cons d ds => simp [Place.isOver]
  rw [blockValue?, hnext, optionalNode?, hover, node?_of_content? hs h]
  rfl

/-- A key with a scalar on its line is an entry, and the next token is the one behind the scalar. -/
lemma blockEntry?_of_content? {key : String} (hk : IsName key) {value : List Char}
    (hs : StartsScalar value) {line : Nat} {style : Style} {r : Reading}
    (h : content? ⟨false, 0⟩ ⟨line, key.toList.length + 2, value⟩ = some (style, r))
    (handles : Handles) (anchors : Anchors) :
    blockEntry? handles anchors ⟨line, 0, key.toList ++ ':' :: ' ' :: value⟩ =
      some ⟨(.scalar ⟨key, .plain, none⟩, .scalar ⟨String.ofList r.text, style, none⟩), anchors,
        r.fresh || decide (r.next.line < (r.next.next !r.fresh).line), r.next.next !r.fresh⟩ := by
  have hquery : isWord '?' (key.toList ++ ':' :: ' ' :: value) = false := by
    obtain ⟨c, cs, hc, hn⟩ := hk.exists_cons
    have hne : c ≠ '?' := ne_of_isNameLetter hn (by decide)
    rw [hc]
    simp [isWord, hne]
  have hcolon : Cursor.next true ⟨line, key.toList.length, ':' :: ' ' :: value⟩ =
      ⟨line, key.toList.length, ':' :: ' ' :: value⟩ :=
    next_of_startsScalar ⟨':', rfl, by decide, by decide, by decide⟩ true line _
  have hend : isKeyEnd ⟨line, 0, key.toList ++ ':' :: ' ' :: value⟩
      ⟨line, key.toList.length, ':' :: ' ' :: value⟩ = true := by
    simpa [isKeyEnd] using hk.short
  have hword : isWord ':' (':' :: ' ' :: value) = true := rfl
  simp only [ blockEntry?, hquery, node?_key hk, Option.bind_eq_bind, Option.bind_some, hcolon,
    hend, hword, Bool.and_self, if_true, Bool.false_eq_true, if_false]
  exact blockValue?_of_content? hs h handles _

/-- A word ends its line, and the next token is the start of the next line. -/
lemma blockEntry?_line {key word : String} (hk : IsName key) (hw : IsName word) {rest : List Char}
    (hr : StartsName rest) (handles : Handles) (anchors : Anchors) (line : Nat) :
    blockEntry? handles anchors ⟨line, 0,
      key.toList ++ ':' :: ' ' :: (word.toList ++ '\n' :: rest)⟩ =
      some ⟨(.scalar ⟨key, .plain, none⟩, .scalar ⟨word, .plain, none⟩), anchors, true,
        ⟨line + 1, 0, rest⟩⟩ := by
  have hscalar := hr.startsScalar
  have hline : StartsLine rest := by
    obtain ⟨c, ds, rfl, hn⟩ := hr
    rintro d ⟨⟩
    exact ⟨isBlank_of_isNameLetter hn, isBreak_of_isNameLetter hn⟩
  have hcontent : content? ⟨false, 0⟩ ⟨line, key.toList.length + 2, word.toList ++ '\n' :: rest⟩ =
      some (.plain, ⟨word.toList, true, ⟨line + 1, 0, rest⟩⟩) :=
    content?_plain_line hw.isPlain (Nat.succ_ne_zero _) hline
  rw [blockEntry?_of_content? hk (hw.startsName _).startsScalar hcontent]
  simp [next_of_startsScalar hscalar]

/-- The text of a mapping: keys with words, and last a key with any text. -/
def mappingText (last : String × String) : List (String × String) → List Char
  | [] => last.1.toList ++ ':' :: ' ' :: writeScalar last.2
  | (key, word) :: pairs =>
    key.toList ++ ':' :: ' ' :: (word.toList ++ '\n' :: mappingText last pairs)

/-- A text without a tag. -/
def untagged (style : Style) (text : String) : Scalar := ⟨text, style, none⟩

/-- What the reader makes of that text. -/
def mappingEntries (last : String × String) (pairs : List (String × String)) :
    List (Scalar × Scalar) :=
  pairs.map (fun e => (untagged .plain e.1, untagged .plain e.2)) ++
    [(untagged .plain last.1, untagged (styleOf last.2) last.2)]

lemma length_le_length_mappingText (last : String × String) (pairs : List (String × String)) :
    pairs.length ≤ (mappingText last pairs).length := by
  induction pairs with
  | nil => exact Nat.zero_le _
  | cons e pairs ih =>
    simp only [mappingText, List.length_append, List.length_cons]
    omega

section Mapping

variable {last : String × String} (hl : IsName last.1) {pairs : List (String × String)}
  (hp : ∀ e ∈ pairs, IsName e.1 ∧ IsName e.2)
include hl hp

lemma startsName_mappingText : StartsName (mappingText last pairs) := by
  cases pairs with
  | nil => exact hl.startsName _
  | cons e pairs => exact (hp e List.mem_cons_self).1.startsName _

/-- The reader takes one entry after another and ends behind the last. -/
lemma blockEntries?_mappingText (handles : Handles) (anchors : Anchors) (line : Nat) {fuel : Nat}
    (hf : pairs.length < fuel) : ∃ next, next.rest = [] ∧
      blockEntries? handles anchors ⟨line, 0, mappingText last pairs⟩ fuel =
        some ((mappingEntries last pairs).map (fun e => (.scalar e.1, .scalar e.2)), anchors,
          next) := by
  induction pairs generalizing line fuel with
  | nil =>
    obtain ⟨fuel, rfl⟩ := Nat.exists_eq_succ_of_ne_zero (Nat.ne_zero_of_lt hf)
    obtain ⟨r, hr, htext, hends⟩ :=
      content?_writeScalar last.2 (Nat.succ_ne_zero (last.1.toList.length + 1)) line
    refine ⟨r.next.next !r.fresh, hends _, ?_⟩
    -- nothing but blank space follows the last value, so the entry is the last whether or not its
    -- line has ended
    have hover : isDocumentOver (r.next.next !r.fresh) = true := by
      simp [isDocumentOver, hends (!r.fresh)]
    simp [mappingText, blockEntries?,
      blockEntry?_of_content? hl (startsScalar_writeScalar last.2) hr, hover, htext, mappingEntries,
      untagged]
  | cons e pairs ih =>
    obtain ⟨fuel, rfl⟩ := Nat.exists_eq_succ_of_ne_zero (Nat.ne_zero_of_lt hf)
    obtain ⟨hk, hw⟩ := hp e List.mem_cons_self
    have hp' : ∀ e ∈ pairs, IsName e.1 ∧ IsName e.2 := List.forall_mem_of_forall_mem_cons hp
    have hstarts := startsName_mappingText hl hp'
    obtain ⟨next, hnext, hread⟩ := ih hp' (line + 1) (Nat.lt_of_succ_lt_succ hf)
    refine ⟨next, hnext, ?_⟩
    simp [mappingText, blockEntries?, blockEntry?_line hk hw hstarts, hstarts.isDocumentOver, hread,
      mappingEntries, untagged]

lemma all_isPrintable_mappingText : (mappingText last pairs).all isPrintable = true := by
  have hmarks : isPrintable ':' = true ∧ isPrintable ' ' = true ∧ isPrintable '\n' = true := by
    decide
  induction pairs with
  | nil =>
    rw [mappingText, List.all_append, hl.all_isPrintable, List.all_cons, List.all_cons,
      all_isPrintable_writeScalar, hmarks.1, hmarks.2.1]
    rfl
  | cons e pairs ih =>
    obtain ⟨hk, hw⟩ := hp e List.mem_cons_self
    rw [mappingText, List.all_append, hk.all_isPrintable, List.all_cons, List.all_cons,
      List.all_append, hw.all_isPrintable, List.all_cons,
      ih (List.forall_mem_of_forall_mem_cons hp), hmarks.1, hmarks.2.1, hmarks.2.2]
    rfl

/-- A document that starts with a name is its mapping. -/
lemma rootEntries?_mappingText (handles : Handles) :
    rootEntries? handles none (.start (mappingText last pairs)) =
      some ((mappingEntries last pairs).map fun e => (.scalar e.1, .scalar e.2), .empty) := by
  have hstarts := startsName_mappingText hl hp
  obtain ⟨next, hnext, hread⟩ :=
    blockEntries?_mappingText hl hp handles .empty 0
      (Nat.lt_succ_of_le (length_le_length_mappingText last pairs))
  have hprops : rootProperties? handles false .nothing ⟨0, 0, mappingText last pairs⟩ 3 =
      some (.nothing, ⟨0, 0, mappingText last pairs⟩) := by
    rw [rootProperties?, startsProperty_of_startsScalar hstarts.startsScalar]
    rfl
  have hbrace : (mappingText last pairs).head? ≠ some '\x7b' := by
    obtain ⟨c, cs, hc, hn⟩ := hstarts
    rw [hc]
    exact fun he => ne_of_isNameLetter hn (by decide) (Option.some.inj he)
  have hfinished : isFinished next ((mappingText last pairs).length + 1) = true := by
    simp [isFinished, hnext]
  have hanchors : Anchors.empty.add Properties.nothing.anchor none = .empty := rfl
  simp [rootEntries?, Cursor.start, hprops, hanchors, hstarts.isDocumentOver, hbrace, hread,
    hfinished]

/-- A text without directives and markers is one document. -/
lemma document?_mappingText :
    document? (mappingText last pairs) =
      some ((mappingEntries last pairs).map fun e => (.scalar e.1, .scalar e.2), .empty) := by
  have hroot := rootEntries?_mappingText hl hp standardHandles
  have hstarts := startsName_mappingText hl hp
  generalize mappingText last pairs = cs at *
  have hfirst : Cursor.next false (.start cs) = .start cs :=
    next_of_startsScalar hstarts.startsScalar false 0 0
  have hdirectives : Directives.readAll? ⟨false, []⟩ (.start cs) (cs.length + 1) =
      some (⟨false, []⟩, .start cs) := by
    obtain ⟨c, ds, rfl, hn⟩ := hstarts
    have hpercent : c ≠ '%' := ne_of_isNameLetter hn (by decide)
    simp [Directives.readAll?, Cursor.start, hpercent]
  have hmarker : isStartMarker (Cursor.start cs).rest = false ∧
      isEndMarker (Cursor.start cs).rest = false :=
    Bool.or_eq_false_iff.mp hstarts.isMarker
  simp [document?, hfirst, hdirectives, hmarker, hroot]

/-- A mapping reads back as its entries. -/
lemma readMapping?_mappingText :
    readMapping? (String.ofList (mappingText last pairs)) = some (mappingEntries last pairs) := by
  have hprintable := all_isPrintable_mappingText hl hp
  have hreadable : (mappingText last pairs).all isReadable = true :=
    List.all_eq_true.mpr fun c hc =>
      (isReadable_of_isPrintable (List.all_eq_true.mp hprintable c hc)).1
  simp only [readMapping?, String.toList_ofList, hreadable, normalizeBreaks_eq_self hprintable,
    document?_mappingText hl hp, if_true, Option.bind_eq_bind, Option.bind_some, List.mapM_map]
  calc (mappingEntries last pairs).mapM (fun e => pure (id e))
    _ = (pure ((mappingEntries last pairs).map id) : Option _) := List.mapM_pure
    _ = some (mappingEntries last pairs) := congrArg some (List.map_id _)

end Mapping

end Yaml

namespace Settings

/-- The fields that are written as words. -/
def words (s : Settings) : List (String × String) :=
  [("generate_docs", if s.documented then "true" else "false"),
    ("property_naming", s.naming.variantName), ("unresolved_types", s.unresolved.variantName)]

lemma isName_words (s : Settings) : ∀ e ∈ s.words, Yaml.IsName e.1 ∧ Yaml.IsName e.2 := by
  have hbool (b : Bool) : Yaml.IsName (if b then "true" else "false") := by
    cases b <;> decide
  have hnaming (naming : PropertyNaming) : Yaml.IsName naming.variantName := by
    cases naming <;> decide
  have hpolicy (policy : UnresolvedPolicy) : Yaml.IsName policy.variantName := by
    cases policy <;> decide
  intro e he
  simp only [words, List.mem_cons, List.not_mem_nil, or_false] at he
  rcases he with rfl | rfl | rfl
  · exact ⟨(by decide : Yaml.IsName "generate_docs"), hbool _⟩
  · exact ⟨(by decide : Yaml.IsName "property_naming"), hnaming _⟩
  · exact ⟨(by decide : Yaml.IsName "unresolved_types"), hpolicy _⟩

lemma writeYaml_eq (s : Settings) :
    s.writeYaml = String.ofList (Yaml.mappingText ("indent", s.indent) s.words) := by
  rw [← String.toList_inj, String.toList_ofList]
  unfold writeYaml
  simp only [words, Yaml.mappingText, String.toList_append, String.toList_ofList, List.append_assoc]
  rfl

lemma ofEntries?_mappingEntries (s : Settings) :
    ofEntries? (Yaml.mappingEntries ("indent", s.indent) s.words) = some s := by
  obtain ⟨documented, naming, unresolved, indent⟩ := s
  cases documented <;> cases naming <;> cases unresolved <;> rfl

lemma readMapping?_writeYaml (s : Settings) :
    Yaml.readMapping? s.writeYaml = some (Yaml.mappingEntries ("indent", s.indent) s.words) := by
  have hindent : Yaml.IsName "indent" := by decide
  rw [writeYaml_eq, Yaml.readMapping?_mappingText hindent s.isName_words]

/-- Stored settings name every field, in order and once, so that no default stands in for one, and
read back as they were. -/
theorem settings_survive_yaml (s : Settings) :
    (Yaml.readMapping? s.writeYaml).map (List.map fun e => e.1.text) = some fieldNames ∧
      readYaml s.writeYaml = .ok s := by
  constructor
  · rw [readMapping?_writeYaml]
    rfl
  · rw [readYaml, readMapping?_writeYaml, Option.bind_some, ofEntries?_mappingEntries]

end Settings

end Typescribe
