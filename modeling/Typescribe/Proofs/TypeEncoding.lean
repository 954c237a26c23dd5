import Mathlib
import Typescribe.Proofs.Blanks
import Typescribe.Proofs.Dictionary
import Typescribe.TypeExpr.Document

/-!
# Which values encode a type

`Encodes v t` is the grammar of type expressions in documents, without a word on where a value
stands or how it is read. `read` accepts exactly the values that encode a type, and gives that type.
It refuses every other value, with the same fault at the same place below it wherever the value
stands.
-/
namespace Typescribe

def Location.below (l : Location) (steps : List Step) : Location :=
  { l with steps := l.steps ++ steps }

lemma Location.below_nil (l : Location) : l.below [] = l := by
  simp [below]

lemma Location.below_below (l : Location) (steps steps' : List Step) :
    (l.below steps).below steps' = l.below (steps ++ steps') := by
  simp [below]

variable {α β : Type}

/-- Wherever it takes place, a reading gives one result, of which `R` holds, or finds one fault at
one place below. -/
inductive Verdict (R : α → Prop) (f : Location → Except Error α) : Prop
  | accepted {a : α} (holds : R a) (ok : ∀ l, f l = .ok a)
  | rejected {steps : List Step} {fault : Fault}
      (error : ∀ l, f l = .error (.invalidModel (l.below steps) fault))

namespace Verdict

variable {R : α → Prop} {f : Location → Except Error α}

lemma fault (fault : Fault) : Verdict R fun l => .error (.invalidModel l fault) :=
  @Verdict.rejected _ R _ [] fault fun l => by rw [l.below_nil]

/-- Reading what stands further below. -/
lemma below (h : Verdict R f) (steps : List Step) : Verdict R fun l => f (l.below steps) := by
  cases h with
  | accepted holds ok => exact .accepted holds fun l => ok (l.below steps)
  | rejected error => exact .rejected fun l => by rw [error, l.below_below]

lemma bind {S : β → Prop} {g : α → Location → Except Error β} (h : Verdict R f)
    (hg : ∀ a, R a → Verdict S (g a)) : Verdict S fun l => f l >>= fun a => g a l := by
  cases h with
  | rejected error => exact .rejected fun l => by rw [error]; rfl
  | @accepted a holds ok =>
    cases hg a holds with
    | accepted holds' ok' => exact .accepted holds' fun l => by rw [ok]; exact ok' l
    | rejected error => exact .rejected fun l => by rw [ok]; exact error l

lemma map {S : β → Prop} {g : α → β} (h : Verdict R f) (hg : ∀ a, R a → S (g a)) :
    Verdict S fun l => f l >>= fun a => pure (g a) :=
  h.bind fun a ha => .accepted (hg a ha) fun _ => rfl

lemma of_ok (h : Verdict R f) {l : Location} {a : α} (ha : f l = .ok a) : R a := by
  cases h with
  | accepted holds ok =>
    rw [ok] at ha
    cases ha
    exact holds
  | rejected error =>
    rw [error] at ha
    cases ha

end Verdict

/-- The words for scalars of a kind, in lower case. -/
def ScalarKind.keywords : ScalarKind → List String
  | .number => numberKeywords
  | .boolean => booleanKeywords
  | .text => textKeywords
  | .dateTime => dateTimeKeywords

namespace TypeExpr

/-- The word with its ASCII letters in lower case. -/
def lowered (word : String) : String :=
  String.ofList (word.toList.map Char.toLower)

/-- What a word stands for. -/
inductive Spells (word : String) : TypeExpr → Prop
  | scalar {kind : ScalarKind} (h : lowered word ∈ kind.keywords) : Spells word (.scalar kind)
  | any (hs : ∀ kind : ScalarKind, lowered word ∉ kind.keywords) (h : lowered word ∈ anyKeywords) :
      Spells word .any
  | reference (hs : ∀ kind : ScalarKind, lowered word ∉ kind.keywords)
      (ha : lowered word ∉ anyKeywords) :
      Spells word (.reference (TypeName.parse word))

/-- A string that is not blank, and the name in it. -/
def Named (v : Json) (name : String) : Prop :=
  ∃ s, v = .string s ∧ Text.Trims s name ∧ name ≠ ""

/-- An object has these keys and no others. -/
def HasKeys (members : List (String × Json)) (keys : List String) : Prop :=
  ∀ key, key ∈ members.map Prod.fst ↔ key ∈ keys

/-- An object has one key, with this value. -/
def Single (members : List (String × Json)) (key : String) (v : Json) : Prop :=
  HasKeys members [key] ∧ members.lookup key = some v

mutual

/-- The type that a value stands for. Of two members with one key the first counts. -/
inductive Encodes : Json → TypeExpr → Prop
  | word {s word : String} {t : TypeExpr} (hw : Named (.string s) word) (ht : Spells word t) :
      Encodes (.string s) t
  | reference {members : List (String × Json)} {v : Json} {name : String}
      (hm : Single members "reference" v) (hn : Named v name) :
      Encodes (.object members) (.reference (TypeName.parse name))
  | parameter {members : List (String × Json)} {v : Json} {name : String}
      (hm : Single members "parameter" v) (hn : Named v name) : Encodes (.object members)
        (.parameter name)
  | unresolved {members : List (String × Json)} {v : Json} {description : String}
      (hm : Single members "unresolved" v) (hn : Named v description) :
      Encodes (.object members) (.unresolved description)
  | array {members : List (String × Json)} {v : Json} {element : TypeExpr}
      (hm : Single members "array" v) (he : Encodes v element) : Encodes (.object members)
        (.array element)
  | nullable {members : List (String × Json)} {v : Json} {inner : TypeExpr}
      (hm : Single members "nullable" v) (hi : Encodes v inner) : Encodes (.object members)
        (.nullable inner)
  | map {members entries : List (String × Json)} {k v : Json} {key value : TypeExpr}
      (hm : Single members "map" (.object entries)) (he : HasKeys entries ["key", "value"])
      (hk : entries.lookup "key" = some k) (hv : entries.lookup "value" = some v)
      (hkey : Encodes k key) (hvalue : Encodes v value) : Encodes (.object members) (.map key value)
  | generic {members : List (String × Json)} {v : Json} {name : String} {items : List Json}
      {arguments : List TypeExpr} (hm : HasKeys members ["generic", "arguments"])
      (hv : members.lookup "generic" = some v) (hn : Named v name)
      (hi : members.lookup "arguments" = some (.array items)) (ha : EncodesAll items arguments) :
      Encodes (.object members) (.generic (TypeName.parse name) arguments)

/-- The same for the items of an array, one by one. -/
inductive EncodesAll : List Json → List TypeExpr → Prop
  | nil : EncodesAll [] []
  | cons {v : Json} {vs : List Json} {t : TypeExpr} {ts : List TypeExpr} (h : Encodes v t)
      (hs : EncodesAll vs ts) :
      EncodesAll (v :: vs) (t :: ts)

end

lemma single_self (key : String) (v : Json) : Single [(key, v)] key v :=
  ⟨by simp [HasKeys], by simp⟩

lemma keywords_disjoint {a b : ScalarKind} {word : String} (ha : word ∈ a.keywords)
    (hb : word ∈ b.keywords) : a = b := by
  have hd : ∀ a b : ScalarKind, a ≠ b → ∀ w ∈ a.keywords, w ∉ b.keywords := by
    intro a b
    cases a <;> cases b <;> decide
  by_contra hne
  exact hd a b hne word ha hb

lemma mem_keywords_of_ofKeyword? {word : String} {kind : ScalarKind}
    (h : ScalarKind.ofKeyword? word = some kind) : lowered word ∈ kind.keywords := by
  simp only [ScalarKind.ofKeyword?] at h
  split_ifs at h with hw hw hw hw <;> cases h <;> exact hw

lemma ofKeyword?_of_mem_keywords {word : String} {kind : ScalarKind}
    (h : lowered word ∈ kind.keywords) : ScalarKind.ofKeyword? word = some kind := by
  cases hk : ScalarKind.ofKeyword? word with
  | some other => rw [keywords_disjoint (mem_keywords_of_ofKeyword? hk) h]
  | none =>
    simp only [ScalarKind.ofKeyword?] at hk
    split_ifs at hk with hn hb ht hd
    cases kind with
    | number => exact absurd h hn
    | boolean => exact absurd h hb
    | text => exact absurd h ht
    | dateTime => exact absurd h hd

/-- The kinds are tried before the words for any type, and a name is what is left. -/
lemma ofWord_eq_iff {word : String} {t : TypeExpr} : ofWord word = t ↔ Spells word t := by
  constructor
  · rintro rfl
    unfold ofWord
    split
    · next kind hk => exact .scalar (mem_keywords_of_ofKeyword? hk)
    · next hk =>
      have hs : ∀ kind : ScalarKind, lowered word ∉ kind.keywords := by
        intro kind hm
        rw [ofKeyword?_of_mem_keywords hm] at hk
        cases hk
      split
      · next ha => exact .any hs ha
      · next ha => exact .reference hs ha
  · intro h
    have hnone : (∀ kind : ScalarKind, lowered word ∉ kind.keywords) →
        ScalarKind.ofKeyword? word = none := by
      intro hs
      by_contra hne
      obtain ⟨kind, hk⟩ := Option.ne_none_iff_exists'.mp hne
      exact hs kind (mem_keywords_of_ofKeyword? hk)
    cases h with
    | scalar h => rw [ofWord, ofKeyword?_of_mem_keywords h]
    | any hs h => rw [ofWord, hnone hs]; exact if_pos h
    | reference hs ha => rw [ofWord, hnone hs]; exact if_neg ha

lemma trimmed_of_named {s name : String} (h : Named (.string s) name) :
    Text.trimmed s = name ∧ (Text.trimmed s).isEmpty = false := by
  obtain ⟨s', hs, ht, hne⟩ := h
  obtain rfl := Json.string.inj hs
  rw [Text.trimmed_eq_iff.mpr ht]
  exact ⟨rfl, by simpa using hne⟩

lemma named_trimmed {s : String} (h : (Text.trimmed s).isEmpty = false) :
    Named (.string s) (Text.trimmed s) :=
  ⟨s, rfl, Text.trimmed_eq_iff.mp rfl, by simpa using h⟩

lemma readName_of_named {v : Json} {name : String} (h : Named v name) (l : Location) :
    readName l v = .ok name := by
  obtain ⟨s, rfl, -⟩ := id h
  obtain ⟨rfl, hne⟩ := trimmed_of_named h
  simp [readName, hne]

lemma verdict_readName (v : Json) : Verdict (Named v) fun l => readName l v := by
  cases v with
  | string s =>
    cases hne : (Text.trimmed s).isEmpty with
    | true =>
      simp only [readName, hne]
      exact .fault .expectedNonEmptyString
    | false => exact .accepted (named_trimmed hne) (readName_of_named (named_trimmed hne))
  | _ => exact .fault .expectedNonEmptyString

lemma readWord_of_spells {s word : String} {t : TypeExpr} (hw : Named (.string s) word)
    (ht : Spells word t) (l : Location) : readWord l s = .ok t := by
  obtain ⟨rfl, hne⟩ := trimmed_of_named hw
  simp [readWord, hne, ofWord_eq_iff.mpr ht]

lemma verdict_readWord (s : String) : Verdict (Encodes (.string s)) fun l => readWord l s := by
  cases hne : (Text.trimmed s).isEmpty with
  | true =>
    simp only [readWord, hne]
    exact .fault .emptyTypeName
  | false =>
    have ht : Spells (Text.trimmed s) (ofWord (Text.trimmed s)) := ofWord_eq_iff.mp rfl
    exact .accepted (.word (named_trimmed hne) ht) (readWord_of_spells (named_trimmed hne) ht)

lemma hasKeys_pair {members : List (String × Json)} {a b : String}
    (h : ∀ key ∈ members.map Prod.fst, key = a ∨ key = b) (ha : (members.lookup a).isSome)
    (hb : (members.lookup b).isSome) : HasKeys members [a, b] := by
  intro key
  simp only [List.mem_cons, List.not_mem_nil, or_false]
  constructor
  · exact h key
  · rintro (rfl | rfl)
    · exact lookup_isSome_iff_mem.mp ha
    · exact lookup_isSome_iff_mem.mp hb

/-- The key of the shape is there, and every key is one that the shape admits. -/
def Shape.Fits (shape : Shape) (members : List (String × Json)) : Prop :=
  shape.key ∈ members.map Prod.fst ∧ ∀ key ∈ members.map Prod.fst, shape.admits key

lemma Shape.admits_iff {shape : Shape} {key : String} :
    shape.admits key ↔ key = shape.key ∨ shape = .generic ∧ key = "arguments" := by
  simp [Shape.admits]

lemma Shape.eq_of_admits {shape other : Shape} (h : shape.admits other.key) : other = shape := by
  revert h
  cases shape <;> cases other <;> decide

lemma Shape.Fits.filter_all {shape : Shape} {members : List (String × Json)}
    (h : shape.Fits members) :
    (Shape.all.filter fun other => (members.lookup other.key).isSome) = [shape] := by
  have hp : ∀ other : Shape, (members.lookup other.key).isSome = decide (other = shape) := by
    intro other
    rw [Bool.eq_iff_iff, decide_eq_true_iff, lookup_isSome_iff_mem]
    constructor
    · exact fun hm => Shape.eq_of_admits (h.2 _ hm)
    · rintro rfl
      exact h.1
  simp only [hp]
  cases shape <;> rfl

lemma Shape.ofMembers_of_fits {shape : Shape} {members : List (String × Json)}
    (h : shape.Fits members) (l : Location) : Shape.ofMembers l members = .ok shape := by
  have hf : members.find? (fun m => !shape.admits m.1) = none := by
    rw [List.find?_eq_none]
    intro m hm
    simp [h.2 m.1 (List.mem_map_of_mem hm)]
  simp [Shape.ofMembers, h.filter_all, hf]

lemma Shape.verdict_ofMembers (members : List (String × Json)) :
    Verdict (fun shape => shape.Fits members) fun l => Shape.ofMembers l members := by
  simp only [Shape.ofMembers]
  split
  · next shape hs =>
    split
    · next m hm => exact .fault _
    · next hn =>
      refine .accepted ⟨?_, ?_⟩ fun _ => rfl
      · have hm : shape ∈ Shape.all.filter fun other => (members.lookup other.key).isSome := by
          simp [hs]
        exact lookup_isSome_iff_mem.mp (List.mem_filter.mp hm).2
      · intro key hk
        obtain ⟨m, hm, rfl⟩ := List.mem_map.mp hk
        simpa using List.find?_eq_none.mp hn m hm
  · exact .fault _

lemma HasKeys.fits {shape : Shape} {members : List (String × Json)} {keys : List String}
    (h : HasKeys members keys) (hs : shape.key ∈ keys) (ha : ∀ key ∈ keys, shape.admits key) :
    shape.Fits members :=
  ⟨(h shape.key).mpr hs, fun key hk => ha key ((h key).mp hk)⟩

lemma Single.fits (shape : Shape) {members : List (String × Json)} {v : Json}
    (h : Single members shape.key v) : shape.Fits members :=
  h.1.fits (by simp) (by simp [Shape.admits_iff])

lemma Shape.Fits.single {shape : Shape} {members : List (String × Json)} {v : Json}
    (h : shape.Fits members) (hg : shape ≠ .generic) (hv : members.lookup shape.key = some v) :
    Single members shape.key v := by
  refine ⟨fun key => ?_, hv⟩
  rw [List.mem_singleton]
  constructor
  · intro hk
    simpa [Shape.admits_iff, hg] using h.2 key hk
  · rintro rfl
    exact h.1

lemma Shape.Fits.hasKeys_generic {members : List (String × Json)} (h : Shape.generic.Fits members)
    (ha : (members.lookup "arguments").isSome) : HasKeys members ["generic", "arguments"] := by
  refine hasKeys_pair (fun key hk => ?_) (lookup_isSome_iff_mem.mpr h.1) ha
  simpa [Shape.admits_iff, Shape.key] using h.2 key hk

/-- What an object of a shape reads as, by the value under the key of the shape. -/
def readShaped (l : Location) (members : List (String × Json)) (value : Json) :
    Shape → Except Error TypeExpr
  | .reference => do
    let name ← readName (l.key "reference") value
    return .reference (TypeName.parse name)
  | .array => do
    let element ← read (l.key "array") value
    return .array element
  | .map => readMap (l.key "map") value
  | .nullable => do
    let inner ← read (l.key "nullable") value
    return .nullable inner
  | .generic => do
    let name ← readName (l.key "generic") value
    match members.lookup "arguments" with
    | some (.array items) =>
      let arguments ← readAll (l.key "arguments") 0 items
      return .generic (TypeName.parse name) arguments
    | _ => .error (.invalidModel (l.key "arguments") .expectedArray)
  | .parameter => do
    let name ← readName (l.key "parameter") value
    return .parameter name
  | .unresolved => do
    let description ← readName (l.key "unresolved") value
    return .unresolved description

lemma read_object {members : List (String × Json)} {shape : Shape} {value : Json}
    (hs : shape.Fits members) (hv : members.lookup shape.key = some value) (l : Location) :
    read l (.object members) = readShaped l members value shape := by
  rw [read, Shape.ofMembers_of_fits hs]
  dsimp only
  split
  · next h =>
    rw [hv] at h
    cases h
  · next w h =>
    obtain rfl : value = w := Option.some.inj (hv.symm.trans h)
    cases shape with
    | generic =>
      refine bind_congr fun name => ?_
      split <;> simp_all
    | _ => rfl

lemma find?_key_or_value {entries : List (String × Json)} :
    entries.find? (fun m => m.1 != "key" && m.1 != "value") = none ↔
      ∀ key ∈ entries.map Prod.fst, key = "key" ∨ key = "value" := by
  simp only [List.find?_eq_none, List.forall_mem_map, Bool.and_eq_true, bne_iff_ne, ne_eq,
    not_and_or, not_not]

lemma readMap_object {entries : List (String × Json)}
    (he : ∀ key ∈ entries.map Prod.fst, key = "key" ∨ key = "value") (l : Location) :
    readMap l (.object entries) =
      match entries.lookup "key", entries.lookup "value" with
      | none, _ => .error (.invalidModel l (.missingKey "key"))
      | some _, none => .error (.invalidModel l (.missingKey "value"))
      | some k, some v => do
        let key ← read (l.key "key") k
        let value ← read (l.key "value") v
        return .map key value := by
  rw [readMap, find?_key_or_value.mpr he]
  dsimp only
  split
  · next hk => simp only [hk]
  · next hk hv => simp only [hk, hv]
  · next hk hv => simp only [hk, hv]

mutual

/-- What encodes a type is read as that type. -/
theorem read_of_encodes {v : Json} {t : TypeExpr} (h : Encodes v t) (l : Location) :
    read l v = .ok t := by
  match h with
  | .word hw ht => rw [read, readWord_of_spells hw ht]
  | .reference hm hn =>
    rw [read_object (Single.fits .reference hm) hm.2, readShaped, readName_of_named hn]
    rfl
  | .parameter hm hn =>
    rw [read_object (Single.fits .parameter hm) hm.2, readShaped, readName_of_named hn]
    rfl
  | .unresolved hm hn =>
    rw [read_object (Single.fits .unresolved hm) hm.2, readShaped, readName_of_named hn]
    rfl
  | .array hm he =>
    rw [read_object (Single.fits .array hm) hm.2, readShaped, read_of_encodes he]
    rfl
  | .nullable hm hi =>
    rw [read_object (Single.fits .nullable hm) hm.2, readShaped, read_of_encodes hi]
    rfl
  | .map hm he hk hv hkey hvalue =>
    have hkeys : ∀ key ∈ _, key = "key" ∨ key = "value" :=
      fun key hkey => by simpa using (he key).mp hkey
    rw [read_object (Single.fits .map hm) hm.2, readShaped, readMap_object hkeys, hk, hv]
    dsimp only
    rw [read_of_encodes hkey]
    change (read _ _ >>= _) = _
    rw [read_of_encodes hvalue]
    rfl
  | .generic hm hv hn hi ha =>
    have hs : Shape.generic.Fits _ := hm.fits (by decide) (by decide)
    rw [read_object hs hv, readShaped, readName_of_named hn, hi]
    change (readAll _ _ _ >>= _) = _
    rw [readAll_of_encodes ha]
    rfl

theorem readAll_of_encodes {vs : List Json} {ts : List TypeExpr} (h : EncodesAll vs ts)
    (l : Location) (i : ℕ) : readAll l i vs = .ok ts := by
  match h with
  | .nil => rw [readAll]
  | .cons h hs =>
    rw [readAll, read_of_encodes h]
    change (readAll _ _ _ >>= _) = _
    rw [readAll_of_encodes hs]
    rfl

end

lemma sizeOf_lookup_lt_object {members : List (String × Json)} {key : String} {v : Json}
    (h : members.lookup key = some v) : sizeOf v < sizeOf (Json.object members) := by
  have := sizeOf_lookup h
  simp only [Json.object.sizeOf_spec]
  omega

-- Each reader recurses on a value below the one it is given, so the induction is on the size of the
-- value.
mutual

theorem verdict_read (v : Json) : Verdict (Encodes v) fun l => read l v := by
  match v with
  | .string s =>
    simp only [read]
    exact verdict_readWord s
  | .object members =>
    cases Shape.verdict_ofMembers members with
    | rejected error => exact .rejected fun l => by rw [read, error]
    | @accepted shape hs ok =>
      obtain ⟨value, hv⟩ := Option.isSome_iff_exists.mp (lookup_isSome_iff_mem.mpr hs.1)
      simp only [read_object hs hv]
      have hname := verdict_readName value
      have hm : shape ≠ .generic → Single members shape.key value := fun hg => hs.single hg hv
      cases shape with
      | reference => exact (hname.below [.key _]).map fun _ hn => .reference (hm (by decide)) hn
      | parameter => exact (hname.below [.key _]).map fun _ hn => .parameter (hm (by decide)) hn
      | unresolved => exact (hname.below [.key _]).map fun _ hn => .unresolved (hm (by decide)) hn
      | array =>
        exact ((verdict_read value).below [.key _]).map fun _ he => .array (hm (by decide)) he
      | nullable =>
        exact ((verdict_read value).below [.key _]).map fun _ hi => .nullable (hm (by decide)) hi
      | map =>
        cases (verdict_readMap value).below [.key "map"] with
        | accepted h ok => exact .accepted (h members (hm (by decide))) ok
        | rejected error => exact .rejected error
      | generic =>
        refine (hname.below [.key _]).bind fun name hn => ?_
        by_cases ha : ∃ items, members.lookup "arguments" = some (.array items)
        · obtain ⟨items, ha⟩ := ha
          have hkeys := hs.hasKeys_generic (by rw [ha]; rfl)
          simp only [ha]
          exact ((verdict_readAll 0 items).below [.key _]).map fun _ h => .generic hkeys hv hn ha h
        · split
          · next items hi => exact absurd ⟨items, hi⟩ ha
          · exact (Verdict.fault _).below [.key _]
  | .null | .bool _ | .number _ | .array _ | .unvalued =>
    simp only [read]
    exact .fault _
termination_by sizeOf v
decreasing_by
  · exact sizeOf_lookup_lt_object hv
  · exact sizeOf_lookup_lt_object hv
  · exact sizeOf_lookup_lt_object hv
  · have := sizeOf_lookup_lt_object ha
    simp only [Json.array.sizeOf_spec] at this
    omega

theorem verdict_readMap (v : Json) :
    Verdict (fun t => ∀ members, Single members "map" v → Encodes (.object members) t) fun l =>
      readMap l v := by
  match v with
  | .object entries =>
    cases hf : entries.find? fun m => m.1 != "key" && m.1 != "value" with
    | some m =>
      simp only [readMap, hf]
      exact .fault _
    | none =>
      have hkeys := find?_key_or_value.mp hf
      simp only [readMap_object hkeys]
      cases hk : entries.lookup "key" with
      | none => exact .fault _
      | some k =>
        cases hv : entries.lookup "value" with
        | none => exact .fault _
        | some w =>
          have he : HasKeys entries ["key", "value"] :=
            hasKeys_pair hkeys (by simp [hk]) (by simp [hv])
          refine ((verdict_read k).below [.key _]).bind fun key hkey => ?_
          refine ((verdict_read w).below [.key _]).map fun value hvalue => ?_
          exact fun members hm => .map hm he hk hv hkey hvalue
  | .string _ | .null | .bool _ | .number _ | .array _ | .unvalued =>
    simp only [readMap]
    exact .fault _
termination_by sizeOf v
decreasing_by
  · exact sizeOf_lookup_lt_object hk
  · exact sizeOf_lookup_lt_object hv

theorem verdict_readAll (i : ℕ) (vs : List Json) :
    Verdict (EncodesAll vs) fun l => readAll l i vs := by
  match vs with
  | [] =>
    simp only [readAll]
    exact .accepted .nil fun _ => rfl
  | v :: vs =>
    simp only [readAll]
    refine ((verdict_read v).below [.index i]).bind fun t ht => ?_
    exact (verdict_readAll (i + 1) vs).map fun ts hts => .cons ht hts
termination_by sizeOf vs

end

lemma encodes_of_read {l : Location} {v : Json} {t : TypeExpr}
    (h : read l v = .ok t) : Encodes v t :=
  (verdict_read v).of_ok h

/-- A value is read as a type exactly if it encodes the type. Any other value is refused for one
fault at one place below it. Neither depends on where the value stands. -/
theorem read_accepts_exactly_encodings (v : Json) :
    (∀ l t, read l v = .ok t ↔ Encodes v t) ∧
      ((∀ t, ¬ Encodes v t) ↔
        ∃ steps fault, ∀ l, read l v = .error (.invalidModel (l.below steps) fault)) := by
  have hv := verdict_read v
  constructor
  · intro l t
    refine ⟨fun h => ?_, fun h => read_of_encodes h l⟩
    cases hv with
    | accepted holds ok =>
      rw [ok] at h
      cases h
      exact holds
    | rejected error =>
      rw [error] at h
      cases h
  · constructor
    · intro hn
      cases hv with
      | accepted holds _ => exact absurd holds (hn _)
      | rejected error => exact ⟨_, _, error⟩
    · rintro ⟨steps, fault, error⟩ t ht
      have h := error ⟨"", []⟩
      rw [read_of_encodes ht] at h
      cases h

end TypeExpr

end Typescribe
