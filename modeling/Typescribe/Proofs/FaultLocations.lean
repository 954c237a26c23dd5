import Mathlib
import Typescribe.Proofs.Except
import Typescribe.Proofs.Places
import Typescribe.Proofs.Registry
import Typescribe.Proofs.TypeEncoding
import Typescribe.TypeModel.Document

/-!
# Faults of a document and where they are

A refused document is refused for a fault at a place. The place leads to a value of the document,
and what the fault says is true of that value. Only `types` and `arguments` may be missing, and then
the value that should have them is there. The types before the one with the fault make a document
without faults.
-/
namespace Typescribe

/-- Null, or a blank text. -/
def Json.IsVoid (v : Json) : Prop :=
  v = .null ∨ ∃ s, v = .string s ∧ Text.allBlank s.toList = true

/-- What a fault says of the value at its place, or of there being none. -/
def Fault.Describes : Fault → Option Json → Prop
  | .expectedArray, v => ∀ items, v ≠ some (.array items)
  | .expectedObject, v => ∀ members, v ≠ some (.object members)
  | .expectedString, v => ∀ s, v ≠ some (.string s)
  | .expectedNonEmptyString, v => ∀ s, v = some (.string s) → Text.allBlank s.toList = true
  | .expectedStringOrObject, v =>
    (∀ s, v ≠ some (.string s)) ∧ ∀ members, v ≠ some (.object members)
  | .expectedOneOf keys, v => (keys.filter fun key => (v.bind (Json.get? key)).isSome).length ≠ 1
  | .emptyTypeName, v => ∃ s, v = some (.string s) ∧ Text.allBlank s.toList = true
  | .missingKey key, v => ∀ w, v.bind (Json.get? key) = some w → key = "name" ∧ w.IsVoid
  | .unexpectedKey key, v => (v.bind (Json.get? key)).isSome

/-- A fault that a value has at the end of some steps: a value is there, or only the last step, to
`arguments`, fails. -/
structure Marks (v : Json) (steps : List Step) (fault : Fault) : Prop where
  plain : ∀ name, .key name ∈ steps → isKeyName name = true
  reaches : (∃ w, v.follow? steps = some w) ∨
    ∃ before w, steps = before ++ [.key "arguments"] ∧ v.follow? before = some w
  describes : fault.Describes (v.follow? steps)

lemma Marks.here {v : Json} {fault : Fault} (h : fault.Describes (some v)) : Marks v [] fault where
  plain := by simp
  reaches := .inl ⟨v, rfl⟩
  describes := h

lemma Marks.below {v w : Json} {s : Step} {steps : List Step} {fault : Fault}
    (h : Marks w steps fault) (hs : v.step? s = some w)
    (hk : ∀ name, .key name = s → isKeyName name = true) : Marks v (s :: steps) fault where
  plain := by
    intro name hm
    rcases List.mem_cons.mp hm with hm | hm
    · exact hk name hm
    · exact h.plain name hm
  reaches := by
    rcases h.reaches with ⟨u, hu⟩ | ⟨before, u, rfl, hu⟩
    · exact .inl ⟨u, by rw [Json.follow?, hs]; exact hu⟩
    · exact .inr ⟨s :: before, u, rfl, by rw [Json.follow?, hs]; exact hu⟩
  describes := by
    rw [Json.follow?, hs]
    exact h.describes

variable {α β : Type}

/-- Whatever fault a reading at `l` comes upon is one that `v` has, and its place is told from
`l`. -/
def FaultsIn (v : Json) (l : Location) (x : Except Error α) : Prop :=
  ∀ location fault, x = .error (.invalidModel location fault) →
    ∃ steps, location = l.below steps ∧ Marks v steps fault

namespace FaultsIn

variable {v w : Json} {l : Location} {x : Except Error α}

lemma ok (a : α) : FaultsIn v l (.ok a : Except Error α) := by
  intro location fault h
  cases h

lemma here {fault : Fault} (h : fault.Describes (some v)) :
    FaultsIn v l (.error (.invalidModel l fault) : Except Error α) := by
  intro location fault' he
  cases he
  exact ⟨[], l.below_nil.symm, .here h⟩

lemma bind {f : α → Except Error β} (hx : FaultsIn v l x)
    (hf : ∀ a, x = .ok a → FaultsIn v l (f a)) : FaultsIn v l (x >>= f) := by
  intro location fault h
  rcases bind_eq_error_iff.mp h with h | ⟨a, ha, h⟩
  · exact hx location fault h
  · exact hf a ha location fault h

lemma map {f : α → β} (hx : FaultsIn v l x) : FaultsIn v l (x >>= fun a => pure (f a)) :=
  hx.bind fun a _ => ok (f a)

lemma below {s : Step} (h : FaultsIn w (l.below [s]) x) (hs : v.step? s = some w)
    (hk : ∀ name, .key name = s → isKeyName name = true) : FaultsIn v l x := by
  intro location fault he
  obtain ⟨steps, rfl, hm⟩ := h location fault he
  exact ⟨s :: steps, l.below_below [s] steps, hm.below hs hk⟩

lemma key {members : List (String × Json)} {name : String} (h : FaultsIn w (l.key name) x)
    (hw : members.lookup name = some w) (hn : isKeyName name = true) :
    FaultsIn (.object members) l x := by
  refine below (s := .key name) h hw fun other ho => ?_
  cases ho
  exact hn

lemma index {items : List Json} {i : ℕ} (h : FaultsIn w (l.index i) x) (hw : items[i]? = some w) :
    FaultsIn (.array items) l x := by
  refine below (s := .index i) h hw fun other ho => ?_
  cases ho

/-- An error is told the same whatever was to be read. -/
lemma of_eq_error {e : Error} (h : FaultsIn v l x) (hx : x = .error e) :
    FaultsIn v l (.error e : Except Error β) := by
  intro location fault he
  cases he
  exact h location fault hx

end FaultsIn

lemma drop_eq_cons {vs items : List α} {v : α} {i : ℕ} (h : items.drop i = v :: vs) :
    items[i]? = some v ∧ items.drop (i + 1) = vs := by
  constructor
  · have hi := congrArg List.head? h
    rwa [List.head?_drop] at hi
  · rw [← List.tail_drop, h, List.tail_cons]

namespace TypeExpr

lemma faultsIn_readName (v : Json) (l : Location) : FaultsIn v l (readName l v) := by
  cases v with
  | string s =>
    cases hne : (Text.trimmed s).isEmpty with
    | true =>
      simp only [readName, hne]
      apply FaultsIn.here
      intro s' hs
      cases hs
      exact Text.allBlank_of_trimmed_isEmpty hne
    | false =>
      simp only [readName, hne]
      exact .ok _
  | _ =>
    apply FaultsIn.here
    intro s hs
    cases hs

lemma faultsIn_readWord (s : String) (l : Location) : FaultsIn (.string s) l (readWord l s) := by
  cases hne : (Text.trimmed s).isEmpty with
  | true =>
    simp only [readWord, hne]
    exact FaultsIn.here ⟨s, rfl, Text.allBlank_of_trimmed_isEmpty hne⟩
  | false =>
    simp only [readWord, hne]
    exact .ok _

lemma Shape.faultsIn_ofMembers (members : List (String × Json)) (l : Location) :
    FaultsIn (.object members) l (Shape.ofMembers l members) := by
  unfold Shape.ofMembers
  split
  · split
    · next m hm =>
      refine .here ?_
      have hmem : m.1 ∈ members.map Prod.fst := List.mem_map_of_mem (List.mem_of_find?_eq_some hm)
      exact lookup_isSome_iff_mem.mpr hmem
    · exact .ok _
  · next hs =>
    refine .here fun hlen => ?_
    rw [List.filter_map, List.length_map] at hlen
    obtain ⟨shape, he⟩ := List.length_eq_one_iff.mp hlen
    exact hs shape he

lemma Shape.fits_of_ofMembers {members : List (String × Json)} {l : Location} {shape : Shape}
    (h : Shape.ofMembers l members = .ok shape) : shape.Fits members :=
  (Shape.verdict_ofMembers members).of_ok h

/-- `arguments` may be missing, or have another value than an array. -/
lemma faultsIn_arguments {members : List (String × Json)} (l : Location)
    (h : ∀ items, members.lookup "arguments" ≠ some (.array items)) :
    FaultsIn (.object members) l
      (.error (.invalidModel (l.key "arguments") .expectedArray) : Except Error α) := by
  intro location fault he
  cases he
  have hf : (Json.object members).follow? [.key "arguments"] = members.lookup "arguments" := by
    simp [Json.follow?, Json.step?, Json.get?]
  refine ⟨[.key "arguments"], rfl, ?_, .inr ⟨[], _, rfl, rfl⟩, ?_⟩
  · intro name hm
    cases List.mem_singleton.mp hm
    decide
  · rw [hf]
    exact h

-- The induction is on the size of the value, as for `read` itself.
mutual

theorem faultsIn_read (v : Json) (l : Location) : FaultsIn v l (read l v) := by
  match v with
  | .string s =>
    rw [read]
    exact faultsIn_readWord s l
  | .object members =>
    cases hs : Shape.ofMembers l members with
    | error e =>
      rw [read, hs]
      exact (Shape.faultsIn_ofMembers members l).of_eq_error hs
    | ok shape =>
      have hfits := Shape.fits_of_ofMembers hs
      obtain ⟨value, hv⟩ := Option.isSome_iff_exists.mp (lookup_isSome_iff_mem.mpr hfits.1)
      rw [read_object hfits hv]
      cases shape with
      | reference => exact ((faultsIn_readName value _).key hv (by decide)).map
      | parameter => exact ((faultsIn_readName value _).key hv (by decide)).map
      | unresolved => exact ((faultsIn_readName value _).key hv (by decide)).map
      | array => exact ((faultsIn_read value _).key hv (by decide)).map
      | nullable => exact ((faultsIn_read value _).key hv (by decide)).map
      | map => exact (faultsIn_readMap value _).key hv (by decide)
      | generic =>
        refine ((faultsIn_readName value _).key hv (by decide)).bind fun name _ => ?_
        by_cases ha : ∃ items, members.lookup "arguments" = some (.array items)
        · obtain ⟨items, ha⟩ := ha
          simp only [ha]
          exact ((faultsIn_readAll items items 0 _ rfl).key ha (by decide)).map
        · split
          · next items hi => exact absurd ⟨items, hi⟩ ha
          · exact faultsIn_arguments l fun items hi => ha ⟨items, hi⟩
  | .null | .bool _ | .number _ | .array _ | .unvalued =>
    rw [read]
    · exact .here ⟨by simp, by simp⟩
    · simp
    · simp
termination_by sizeOf v
decreasing_by
  · exact sizeOf_lookup_lt_object hv
  · exact sizeOf_lookup_lt_object hv
  · exact sizeOf_lookup_lt_object hv
  · have := sizeOf_lookup_lt_object ha
    simp only [Json.array.sizeOf_spec] at this
    omega

theorem faultsIn_readMap (v : Json) (l : Location) : FaultsIn v l (readMap l v) := by
  match v with
  | .object entries =>
    cases hf : entries.find? fun m => m.1 != "key" && m.1 != "value" with
    | some m =>
      simp only [readMap, hf]
      have hmem : m.1 ∈ entries.map Prod.fst := List.mem_map_of_mem (List.mem_of_find?_eq_some hf)
      exact .here (lookup_isSome_iff_mem.mpr hmem)
    | none =>
      rw [readMap_object (find?_key_or_value.mp hf)]
      cases hk : entries.lookup "key" with
      | none => exact .here fun w hw => by cases hk.symm.trans hw
      | some k =>
        cases hv : entries.lookup "value" with
        | none => exact .here fun w hw => by cases hv.symm.trans hw
        | some value =>
          refine ((faultsIn_read k _).key hk (by decide)).bind fun key _ => ?_
          exact ((faultsIn_read value _).key hv (by decide)).map
  | .string _ | .null | .bool _ | .number _ | .array _ | .unvalued =>
    rw [readMap]
    · exact .here fun w hw => by cases hw
    · simp
termination_by sizeOf v
decreasing_by
  · exact sizeOf_lookup_lt_object hk
  · exact sizeOf_lookup_lt_object hv

theorem faultsIn_readAll (items vs : List Json) (i : ℕ) (l : Location) (h : items.drop i = vs) :
    FaultsIn (.array items) l (readAll l i vs) := by
  match vs with
  | [] =>
    rw [readAll]
    exact .ok _
  | v :: vs =>
    obtain ⟨hv, hvs⟩ := drop_eq_cons h
    rw [readAll]
    refine ((faultsIn_read v _).index hv).bind fun t _ => ?_
    exact (faultsIn_readAll items vs (i + 1) l hvs).map
termination_by sizeOf vs

end

end TypeExpr

namespace TypeModel

variable {members : List (String × Json)}

lemma faultsIn_optionalText {key : String} (l : Location) (hk : isKeyName key = true) :
    FaultsIn (.object members) l (optionalText l members key) := by
  unfold optionalText
  split
  · exact .ok _
  · exact .ok _
  · exact .ok _
  · next w _ hs hw =>
    refine FaultsIn.key (FaultsIn.here ?_) hw hk
    intro s he
    exact hs s (Option.some.inj he)

lemma optionalText_cases {l : Location} {key : String} {text : Option String}
    (h : optionalText l members key = .ok text) :
    (text = none ∧ ∀ w, members.lookup key = some w → w = .null) ∨
      ∃ s, text = some s ∧ members.lookup key = some (.string s) := by
  unfold optionalText at h
  split at h
  · next hw =>
    cases h
    exact .inl ⟨rfl, by simp [hw]⟩
  · next hw =>
    cases h
    exact .inl ⟨rfl, by simp [hw]⟩
  · next s hw =>
    cases h
    exact .inr ⟨s, rfl, hw⟩
  · cases h

lemma faultsIn_requiredName (l : Location) :
    FaultsIn (.object members) l (requiredText l members "name") := by
  refine (faultsIn_optionalText l (by decide)).bind fun text ht => ?_
  rcases optionalText_cases ht with ⟨rfl, hnull⟩ | ⟨s, rfl, hs⟩
  · apply FaultsIn.here
    intro w hw
    exact ⟨rfl, .inl (hnull w hw)⟩
  · dsimp only
    split
    · next hblank =>
      apply FaultsIn.here
      intro w hw
      obtain rfl : Json.string s = w := Option.some.inj (hs.symm.trans hw)
      exact ⟨rfl, .inr ⟨s, rfl, hblank⟩⟩
    · exact .ok _

lemma faultsIn_readProperty (owner : TypeName) (v : Json) (l : Location) (docs : Documentation) :
    FaultsIn v l (readProperty owner l docs v) := by
  cases v with
  | object members =>
    refine (faultsIn_requiredName l).bind fun name _ => ?_
    cases ht : members.lookup "type" with
    | none =>
      apply FaultsIn.here
      intro w hw
      cases ht.symm.trans hw
    | some t =>
      refine ((TypeExpr.faultsIn_read t _).key ht (by decide)).bind fun type _ => ?_
      exact (faultsIn_optionalText l (by decide)).map
  | null | bool | number | string | array | unvalued =>
    apply FaultsIn.here
    intro members hm
    cases hm

lemma faultsIn_readProperties (owner : TypeName) {items vs : List Json} {i : ℕ} (l : Location)
    (docs : Documentation) (h : items.drop i = vs) :
    FaultsIn (.array items) l (readProperties owner l i docs vs) := by
  induction vs generalizing i docs with
  | nil => exact .ok _
  | cons v vs ih =>
    obtain ⟨hv, hvs⟩ := drop_eq_cons h
    refine ((faultsIn_readProperty owner v _ docs).index hv).bind fun first _ => ?_
    exact (ih first.2 hvs).map

lemma faultsIn_propertyItems (l : Location) :
    FaultsIn (.object members) l (propertyItems l members) := by
  unfold propertyItems
  split
  · exact .ok _
  · exact .ok _
  · exact .ok _
  · next w _ ha hw =>
    refine FaultsIn.key (FaultsIn.here ?_) hw (by decide)
    intro items he
    exact ha items (Option.some.inj he)

lemma propertyItems_cases {l : Location} {items : List Json}
    (h : propertyItems l members = .ok items) :
    items = [] ∨ members.lookup "properties" = some (.array items) := by
  unfold propertyItems at h
  split at h
  · cases h
    exact .inl rfl
  · cases h
    exact .inl rfl
  · next hw =>
    cases h
    exact .inr hw
  · cases h

lemma faultsIn_readType (v : Json) (l : Location) (docs : Documentation) :
    FaultsIn v l (readType l docs v) := by
  cases v with
  | object members =>
    refine (faultsIn_requiredName l).bind fun simple _ => ?_
    refine (faultsIn_optionalText l (by decide)).bind fun qualifier _ => ?_
    refine (faultsIn_optionalText l (by decide)).bind fun text _ => ?_
    refine (faultsIn_propertyItems l).bind fun items hi => ?_
    apply FaultsIn.map
    rcases propertyItems_cases hi with rfl | hp
    · exact .ok _
    · exact (faultsIn_readProperties _ _ _ rfl).key hp (by decide)
  | null | bool | number | string | array | unvalued =>
    apply FaultsIn.here
    intro members hm
    cases hm

lemma extend_ne_fault (m : TypeModel) (t : TypeDescriptor) (location : Location) (fault : Fault) :
    m.extend t ≠ .error (.invalidModel location fault) := by
  rw [extend_eq]
  split <;> simp

/-- The type with the first fault is told by its number, and the types before it are read without
one. -/
lemma readTypes_eq_fault {l location : Location} {fault : Fault} {i : ℕ} {before : Documented}
    {vs : List Json} (h : readTypes l i before vs = .error (.invalidModel location fault)) :
    ∃ k v steps, vs[k]? = some v ∧ location = l.below (.index (i + k) :: steps) ∧
      Marks v steps fault ∧
      ∃ source, readTypes l i before (vs.take k) = .ok source := by
  induction vs generalizing i before with
  | nil => cases h
  | cons v vs ih =>
    rw [readTypes] at h
    rcases bind_eq_error_iff.mp h with h | ⟨⟨t, docs⟩, ht, h⟩
    -- This type has the fault, and nothing was read before it.
    · obtain ⟨steps, rfl, hm⟩ :=
        faultsIn_readType v (l.index i) before.documentation location fault h
      exact ⟨0, v, steps, rfl, l.below_below [.index i] steps, hm, before, rfl⟩
    · rcases bind_eq_error_iff.mp h with h | ⟨m, hm, h⟩
      · exact absurd h (extend_ne_fault _ _ _ _)
      · obtain ⟨k, w, steps, hw, hl, hmarks, source, hs⟩ := ih h
        refine ⟨k + 1, w, steps, hw, by rw [hl, Nat.add_right_comm, Nat.add_assoc], hmarks, source,
          ?_⟩
        rw [List.take_succ_cons, readTypes, ht]
        change (TypeModel.extend _ _ >>= _) = _
        rw [hm]
        exact hs

/-- The items of an array up to a number. -/
def cutArray (n : ℕ) : Json → Json
  | .array items => .array (items.take n)
  | v => v

/-- The same document with only so many of its types. -/
def cutTypes (n : ℕ) : Json → Json
  | .object members =>
    .object (members.map fun m => if m.1 = "types" then (m.1, cutArray n m.2) else m)
  | v => v

lemma get?_cutTypes {document : Json} {items : List Json} (n : ℕ)
    (h : document.get? "types" = some (.array items)) :
    (cutTypes n document).get? "types" = some (.array (items.take n)) := by
  cases document with
  | object members =>
    rw [Json.get?] at h
    rw [cutTypes, Json.get?]
    induction members with
    | nil => cases h
    | cons m members ih =>
      obtain ⟨name, v⟩ := m
      rw [List.lookup_cons] at h
      rw [List.map_cons]
      by_cases hn : name = "types"
      · subst hn
        obtain rfl : v = .array items := by simpa using h
        simp [cutArray]
      · have hb : ("types" == name) = false := by simpa using Ne.symm hn
        rw [hb] at h
        rw [if_neg hn, List.lookup_cons, hb]
        exact ih h
  | null | bool | number | string | array | unvalued => cases h

/-- The path leads to a value, or it does but for its last step, to `types` in the document or to
`arguments`. -/
def Reaches (document : Json) (path : List Step) : Prop :=
  (∃ v, document.follow? path = some v) ∨
    ∃ before v key, path = before ++ [.key key] ∧
      (before = [] ∧ key = "types" ∨ key = "arguments") ∧
      document.follow? before = some v ∧ v.get? key = none

lemma Reaches.of_marks {document : Json} {path : List Step} {fault : Fault}
    (h : Marks document path fault) : Reaches document path := by
  rcases h.reaches with hv | ⟨before, v, rfl, hv⟩
  · exact .inl hv
  · cases hm : v.get? "arguments" with
    | none => exact .inr ⟨before, v, "arguments", rfl, .inr rfl, hv, hm⟩
    | some w =>
      refine .inl ⟨w, ?_⟩
      rw [Json.follow?_append, hv]
      simp [Json.follow?, Json.step?, hm]

/-- The document has no array of types, or one of its types has the fault and those before it make a
model. -/
lemma ofDocument_eq_fault {document : Json} {location : Location} {fault : Fault}
    (h : ofDocument document = .error (.invalidModel location fault)) :
    (location = ⟨"types", []⟩ ∧ fault = .expectedArray ∧
      ∀ items, document.get? "types" ≠ some (.array items)) ∨
      ∃ i steps, location = ⟨"types", .index i :: steps⟩ ∧ Marks document location.path fault ∧
        ∃ source, ofDocument (cutTypes i document) = .ok source := by
  unfold ofDocument at h
  simp only at h
  split at h
  · next items hi =>
    obtain ⟨k, v, steps, hv, hl, hm, source, hs⟩ := readTypes_eq_fault h
    rw [Nat.zero_add] at hl
    obtain rfl : location = ⟨"types", .index k :: steps⟩ := hl
    have harray : Marks (.array items) (.index k :: steps) fault :=
      hm.below hv fun name hn => by cases hn
    have hmarks : Marks document (.key "types" :: .index k :: steps) fault := by
      refine harray.below hi fun name hn => ?_
      cases hn
      decide
    refine .inr ⟨k, steps, rfl, hmarks, source, ?_⟩
    rw [ofDocument, get?_cutTypes k hi]
    exact hs
  · next hi =>
    cases h
    exact .inl ⟨rfl, rfl, fun items ha => hi items ha⟩

/-- A refused document is refused for something that is wrong with the value at the place that is
told, and the types before it are accepted by themselves. -/
theorem faults_point_at_their_cause {document : Json} {location : Location} {fault : Fault}
    (h : ofDocument document = .error (.invalidModel location fault)) :
    (Error.invalidModel location fault).message = "Invalid type model: " ++ location.text ++ ": " ++
      fault.text ∧
    (location.IsPlain ∧
      ∀ other : Location, other.IsPlain → other.text = location.text → other = location) ∧
    Reaches document location.path ∧ fault.Describes (document.follow? location.path) ∧
    location.root = "types" ∧
    ∀ i rest, location.steps = .index i :: rest →
      ∃ source, ofDocument (cutTypes i document) = .ok source := by
  refine ⟨rfl, ?_⟩
  rcases ofDocument_eq_fault h with ⟨rfl, rfl, ha⟩ | ⟨i, steps, rfl, hm, hcut⟩
  · have hplain : Location.IsPlain ⟨"types", []⟩ := by
      intro name hn
      cases List.mem_singleton.mp hn
      decide
    have hfollow : document.follow? [.key "types"] = document.get? "types" := by
      simp [Json.follow?, Json.step?]
    refine ⟨⟨hplain, fun other ho ht => Location.text_injective_of_isPlain ho hplain ht⟩, ?_, ?_,
      rfl, ?_⟩
    · cases ht : document.get? "types" with
      | none => exact .inr ⟨[], document, "types", rfl, .inl ⟨rfl, rfl⟩, rfl, ht⟩
      | some v => exact .inl ⟨v, hfollow.trans ht⟩
    · intro items hi
      exact ha items (hfollow.symm.trans hi)
    · intro i rest hs
      cases hs
  · have hplain : Location.IsPlain ⟨"types", .index i :: steps⟩ := hm.plain
    refine ⟨⟨hplain, fun other ho ht => Location.text_injective_of_isPlain ho hplain ht⟩,
      .of_marks hm, hm.describes, rfl, ?_⟩
    intro j rest hs
    cases hs
    exact hcut

/-- A property whose type is an array of a generic type, and what that is applied to is not told. -/
def unapplied : Json :=
  .object [("name", .string "P"), ("type", .object [("array", .object [("generic", .string "G")])])]

lemma readProperty_unapplied (owner : TypeName) (l : Location) (docs : Documentation) :
    readProperty owner l docs unapplied =
      .error (.invalidModel (((l.key "type").key "array").key "arguments") .expectedArray) := by
  have hg : TypeExpr.Shape.generic.Fits [("generic", .string "G")] := ⟨by decide, by decide⟩
  have ha : TypeExpr.Shape.array.Fits [("array", .object [("generic", .string "G")])] :=
    ⟨by decide, by decide⟩
  change (TypeExpr.read (l.key "type")
    (.object [("array", .object [("generic", .string "G")])]) >>= _) = _
  rw [TypeExpr.read_object ha rfl, TypeExpr.readShaped, TypeExpr.read_object hg rfl]
  rfl

/-- Two types, the second with such a property. -/
def unappliedSecond : Json :=
  .object [("types", .array [
    .object [("name", .string "A")],
    .object [("name", .string "B"), ("properties", .array [unapplied])]])]

theorem unappliedSecond_points_at_arguments :
    ∃ location fault, ofDocument unappliedSecond = .error (.invalidModel location fault) ∧
      (Error.invalidModel location fault).message =
        "Invalid type model: types[1].properties[0].type.array.arguments: expected an array" ∧
      Reaches unappliedSecond location.path ∧
        fault.Describes (unappliedSecond.follow? location.path) ∧
      ∃ source, ofDocument (cutTypes 1 unappliedSecond) = .ok source := by
  have h : ofDocument unappliedSecond = .error (.invalidModel ⟨"types", [.index 1,
      .key "properties", .index 0, .key "type", .key "array", .key "arguments"]⟩
      .expectedArray) := by
    have hb : ∀ l docs,
        readType l docs (.object [("name", .string "B"), ("properties", .array [unapplied])]) =
          .error (.invalidModel
            (((((l.key "properties").index 0).key "type").key "array").key "arguments")
            .expectedArray) := by
      intro l docs
      change (readProperties _ _ 0 docs [unapplied] >>= _) = _
      rw [readProperties, readProperty_unapplied]
      rfl
    change readTypes _ 1 _ [_] = _
    rw [readTypes, hb]
    rfl
  obtain ⟨-, -, hreaches, hdescribes, -, hcut⟩ := faults_point_at_their_cause h
  exact ⟨_, _, h, by decide, hreaches, hdescribes, hcut 1 _ rfl⟩

end TypeModel

end Typescribe
