import Mathlib
import Typescribe.Proofs.Except
import Typescribe.Proofs.MentionedNames
import Typescribe.Proofs.TypeEncoding
import Typescribe.Proofs.TypeNames

/-!
# Names that are read as empty

The parts of a type are what the parts of its value encode. So each name in a type that has been
read is cut out of a text in the value that is not blank, and the simple part of the name is empty
exactly if that text ends with a dot.
-/
namespace Typescribe.TypeExpr

/-- A type and all that it is made of, keys of maps included. -/
inductive Part : TypeExpr → TypeExpr → Prop
  | self (t : TypeExpr) : Part t t
  | element {e u : TypeExpr} (h : Part e u) : Part (.array e) u
  | key {k v u : TypeExpr} (h : Part k u) : Part (.map k v) u
  | value {k v u : TypeExpr} (h : Part v u) : Part (.map k v) u
  | inner {i u : TypeExpr} (h : Part i u) : Part (.nullable i) u
  | argument {d : TypeName} {as : List TypeExpr} {a u : TypeExpr} (ha : a ∈ as) (h : Part a u) :
      Part (.generic d as) u

/-- A value and all values in it that stand for types. -/
inductive Holds : Json → Json → Prop
  | self (v : Json) : Holds v v
  | element {members : List (String × Json)} {v w : Json} (hm : Single members "array" v)
      (h : Holds v w) :
      Holds (.object members) w
  | inner {members : List (String × Json)} {v w : Json} (hm : Single members "nullable" v)
      (h : Holds v w) :
      Holds (.object members) w
  | key {members entries : List (String × Json)} {k w : Json}
      (hm : Single members "map" (.object entries))
      (hk : entries.lookup "key" = some k) (h : Holds k w) : Holds (.object members) w
  | value {members entries : List (String × Json)} {v w : Json}
      (hm : Single members "map" (.object entries))
      (hv : entries.lookup "value" = some v) (h : Holds v w) : Holds (.object members) w
  | argument {members : List (String × Json)} {items : List Json} {v w : Json}
      (hm : HasKeys members ["generic", "arguments"])
      (hi : members.lookup "arguments" = some (.array items)) (hv : v ∈ items) (h : Holds v w) :
      Holds (.object members) w

/-- Items and types belong together one by one. -/
lemma EncodesAll.matched {vs : List Json} {ts : List TypeExpr} (h : EncodesAll vs ts) :
    (∀ v ∈ vs, ∃ t ∈ ts, Encodes v t) ∧ ∀ t ∈ ts, ∃ v ∈ vs, Encodes v t := by
  induction vs generalizing ts with
  | nil =>
    cases h
    simp
  | cons v vs ih =>
    cases h with
    | @cons _ _ t ts hv hs =>
      obtain ⟨hvs, hts⟩ := ih hs
      constructor
      · intro w hw
        rcases List.mem_cons.mp hw with rfl | hw
        · exact ⟨t, by simp, hv⟩
        · obtain ⟨u, hu, he⟩ := hvs w hw
          exact ⟨u, by simp [hu], he⟩
      · intro u hu
        rcases List.mem_cons.mp hu with rfl | hu
        · exact ⟨v, by simp, hv⟩
        · obtain ⟨w, hw, he⟩ := hts u hu
          exact ⟨w, by simp [hw], he⟩

/-- Each part of a type is encoded by a value in the value of the type. -/
theorem exists_holds_of_part {v : Json} {t u : TypeExpr} (h : Encodes v t) (hu : Part t u) :
    ∃ w, Holds v w ∧ Encodes w u := by
  induction hu generalizing v with
  | self => exact ⟨v, .self v, h⟩
  | element _ ih =>
    cases h with
    | word _ ht => cases ht
    | array hm he =>
      obtain ⟨w, hw, hu⟩ := ih he
      exact ⟨w, .element hm hw, hu⟩
  | key _ ih =>
    cases h with
    | word _ ht => cases ht
    | map hm _ hk _ hkey _ =>
      obtain ⟨w, hw, hu⟩ := ih hkey
      exact ⟨w, .key hm hk hw, hu⟩
  | value _ ih =>
    cases h with
    | word _ ht => cases ht
    | map hm _ _ hv _ hvalue =>
      obtain ⟨w, hw, hu⟩ := ih hvalue
      exact ⟨w, .value hm hv hw, hu⟩
  | inner _ ih =>
    cases h with
    | word _ ht => cases ht
    | nullable hm hi =>
      obtain ⟨w, hw, hu⟩ := ih hi
      exact ⟨w, .inner hm hw, hu⟩
  | argument ha _ ih =>
    cases h with
    | word _ ht => cases ht
    | generic hm _ _ hi hs =>
      obtain ⟨item, hitem, he⟩ := hs.matched.2 _ ha
      obtain ⟨w, hw, hu⟩ := ih he
      exact ⟨w, .argument hm hi hitem hw, hu⟩

section
variable {members : List (String × Json)} {t : TypeExpr}

lemma Encodes.readShaped {shape : Shape} {v : Json} (h : Encodes (.object members) t)
    (hs : shape.Fits members) (hv : members.lookup shape.key = some v) :
    readShaped ⟨"", []⟩ members v shape = .ok t :=
  (read_object hs hv _).symm.trans (read_of_encodes h _)

lemma Encodes.of_array {v : Json} (h : Encodes (.object members) t)
    (hm : Single members "array" v) :
    ∃ e, t = .array e ∧ Encodes v e := by
  obtain ⟨e, he, ht⟩ := bind_eq_ok (h.readShaped (Single.fits .array hm) hm.2)
  cases ht
  exact ⟨e, rfl, encodes_of_read he⟩

lemma Encodes.of_nullable {v : Json} (h : Encodes (.object members) t)
    (hm : Single members "nullable" v) :
    ∃ i, t = .nullable i ∧ Encodes v i := by
  obtain ⟨i, hi, ht⟩ := bind_eq_ok (h.readShaped (Single.fits .nullable hm) hm.2)
  cases ht
  exact ⟨i, rfl, encodes_of_read hi⟩

lemma Encodes.of_reference {v : Json} (h : Encodes (.object members) t)
    (hm : Single members "reference" v) :
    ∃ name, t = .reference (TypeName.parse name) ∧ Named v name := by
  obtain ⟨name, hn, ht⟩ := bind_eq_ok (h.readShaped (Single.fits .reference hm) hm.2)
  cases ht
  exact ⟨name, rfl, (verdict_readName v).of_ok hn⟩

lemma Encodes.of_generic (h : Encodes (.object members) t)
    (hm : HasKeys members ["generic", "arguments"]) :
    ∃ v name items as, t = .generic (TypeName.parse name) as ∧ members.lookup "generic" = some v ∧
      Named v name ∧
      members.lookup "arguments" = some (.array items) ∧ EncodesAll items as := by
  have hs : Shape.generic.Fits members := hm.fits (by decide) (by decide)
  obtain ⟨v, hv⟩ := Option.isSome_iff_exists.mp (lookup_isSome_iff_mem.mpr hs.1)
  obtain ⟨name, hn, ht⟩ := bind_eq_ok (h.readShaped hs hv)
  split at ht
  · next items hi =>
    obtain ⟨as, ha, ht⟩ := bind_eq_ok ht
    cases ht
    exact ⟨v, name, items, as, rfl, hv, (verdict_readName v).of_ok hn, hi,
      (verdict_readAll 0 items).of_ok ha⟩
  · cases ht

lemma Encodes.of_map {entries : List (String × Json)} (h : Encodes (.object members) t)
    (hm : Single members "map" (.object entries)) :
    ∃ k v key value, t = .map key value ∧ entries.lookup "key" = some k ∧
      entries.lookup "value" = some v ∧
      Encodes k key ∧ Encodes v value := by
  have hr := h.readShaped (Single.fits .map hm) hm.2
  rw [TypeExpr.readShaped] at hr
  cases hf : entries.find? fun m => m.1 != "key" && m.1 != "value" with
  | some m =>
    rw [readMap, hf] at hr
    cases hr
  | none =>
    rw [readMap_object (find?_key_or_value.mp hf)] at hr
    split at hr
    · cases hr
    · cases hr
    · next k v hk hv =>
      obtain ⟨key, hkey, hr⟩ := bind_eq_ok hr
      obtain ⟨value, hvalue, hr⟩ := bind_eq_ok hr
      cases hr
      exact ⟨k, v, key, value, rfl, hk, hv, encodes_of_read hkey, encodes_of_read hvalue⟩

end

/-- What a value in the value of a type encodes is a part of the type. -/
theorem exists_part_of_holds {v w : Json} {t : TypeExpr} (h : Encodes v t) (hw : Holds v w) :
    ∃ u, Part t u ∧ Encodes w u := by
  induction hw generalizing t with
  | self => exact ⟨t, .self t, h⟩
  | element hm _ ih =>
    obtain ⟨e, rfl, he⟩ := h.of_array hm
    obtain ⟨u, hu, henc⟩ := ih he
    exact ⟨u, .element hu, henc⟩
  | inner hm _ ih =>
    obtain ⟨i, rfl, hi⟩ := h.of_nullable hm
    obtain ⟨u, hu, henc⟩ := ih hi
    exact ⟨u, .inner hu, henc⟩
  | key hm hk _ ih =>
    obtain ⟨_, _, key, value, rfl, hk', -, hkey, -⟩ := h.of_map hm
    obtain rfl := Option.some.inj (hk.symm.trans hk')
    obtain ⟨u, hu, henc⟩ := ih hkey
    exact ⟨u, .key hu, henc⟩
  | value hm hv _ ih =>
    obtain ⟨_, _, key, value, rfl, -, hv', -, hvalue⟩ := h.of_map hm
    obtain rfl := Option.some.inj (hv.symm.trans hv')
    obtain ⟨u, hu, henc⟩ := ih hvalue
    exact ⟨u, .value hu, henc⟩
  | argument hm hi hv _ ih =>
    obtain ⟨_, _, _, as, rfl, -, -, hi', has⟩ := h.of_generic hm
    obtain rfl : _ = _ := Json.array.inj (Option.some.inj (hi.symm.trans hi'))
    obtain ⟨a, ha, he⟩ := has.matched.1 _ hv
    obtain ⟨u, hu, henc⟩ := ih he
    exact ⟨u, .argument ha hu, henc⟩

/-- The name that an expression has by itself. -/
inductive NamedBy : TypeExpr → TypeName → Prop
  | reference (name : TypeName) : NamedBy (.reference name) name
  | generic (d : TypeName) (as : List TypeExpr) : NamedBy (.generic d as) d

lemma NamesType.namedBy {u : TypeExpr} {name : TypeName} (h : NamesType u name) :
    NamedBy u name := by
  cases h with
  | reference => exact .reference name
  | generic _ a as => exact .generic name (a :: as)

/-- The text by which a value names a type. -/
inductive NameText : Json → String → Prop
  | word {s word : String} (hw : Named (.string s) word)
      (hs : Spells word (.reference (TypeName.parse word))) :
      NameText (.string s) word
  | reference {members : List (String × Json)} {v : Json} {word : String}
      (hm : Single members "reference" v) (hw : Named v word) : NameText (.object members) word
  | generic {members : List (String × Json)} {v : Json} {word : String}
      (hm : HasKeys members ["generic", "arguments"]) (hv : members.lookup "generic" = some v)
      (hw : Named v word) : NameText (.object members) word

lemma Named.unique {v : Json} {a b : String} (ha : Named v a) (hb : Named v b) : a = b := by
  obtain ⟨s, rfl, -⟩ := id ha
  exact (trimmed_of_named ha).1.symm.trans (trimmed_of_named hb).1

lemma Named.ne_empty {v : Json} {word : String} (h : Named v word) : word ≠ "" := by
  obtain ⟨_, _, _, hne⟩ := h
  exact hne

lemma NameText.ne_empty {v : Json} {word : String} (h : NameText v word) : word ≠ "" := by
  cases h with
  | word hw _ | reference _ hw | generic _ _ hw => exact hw.ne_empty

/-- The text that names a type is cut into the name. -/
lemma NameText.namedBy {v : Json} {word : String} {u : TypeExpr} (hw : NameText v word)
    (h : Encodes v u) : NamedBy u (TypeName.parse word) := by
  cases hw with
  | word hw hs =>
    cases h with
    | word hw' ht =>
      obtain rfl := hw'.unique hw
      obtain rfl := (ofWord_eq_iff.mpr ht).symm.trans (ofWord_eq_iff.mpr hs)
      exact .reference _
  | reference hm hw =>
    obtain ⟨name, rfl, hn⟩ := h.of_reference hm
    obtain rfl := hn.unique hw
    exact .reference _
  | generic hm hv hw =>
    obtain ⟨_, name, _, as, rfl, hv', hn, -⟩ := h.of_generic hm
    obtain rfl := Option.some.inj (hv'.symm.trans hv)
    obtain rfl := hn.unique hw
    exact .generic _ as

lemma NamedBy.exists_nameText {v : Json} {u : TypeExpr} {name : TypeName} (hu : NamedBy u name)
    (h : Encodes v u) :
    ∃ word, NameText v word ∧ TypeName.parse word = name := by
  cases hu with
  | reference =>
    cases h with
    | word hw ht =>
      cases ht with
      | reference hs ha => exact ⟨_, .word hw (.reference hs ha), rfl⟩
    | reference hm hn => exact ⟨_, .reference hm hn, rfl⟩
  | generic =>
    cases h with
    | word _ ht => cases ht
    | generic hm hv hn _ _ => exact ⟨_, .generic hm hv hn, rfl⟩

/-- A name of a reference or of a generic type, at any depth. -/
def HasName (t : TypeExpr) (name : TypeName) : Prop :=
  ∃ u, Part t u ∧ NamedBy u name

/-- A text that names a type, at any depth. -/
def TypeWord (v : Json) (word : String) : Prop :=
  ∃ w, Holds v w ∧ NameText w word

/-- The names in a type are cut out of the texts that name types in its value. -/
theorem hasName_iff {v : Json} {t : TypeExpr} (h : Encodes v t) {name : TypeName} :
    t.HasName name ↔ ∃ word, TypeWord v word ∧ TypeName.parse word = name := by
  constructor
  · rintro ⟨u, hu, hn⟩
    obtain ⟨w, hw, he⟩ := exists_holds_of_part h hu
    obtain ⟨word, hword, hp⟩ := hn.exists_nameText he
    exact ⟨word, ⟨w, hw, hword⟩, hp⟩
  · rintro ⟨word, ⟨w, hw, hword⟩, rfl⟩
    obtain ⟨u, hu, he⟩ := exists_part_of_holds h hw
    exact ⟨u, hu, hword.namedBy he⟩

/-- The texts of parameters and of types that could not be resolved are not blank. -/
lemma text_ne_empty {v : Json} {t : TypeExpr} (h : Encodes v t) {text : String}
    (hu : Part t (.parameter text) ∨ Part t (.unresolved text)) : text ≠ "" := by
  rcases hu with hu | hu <;> obtain ⟨w, -, he⟩ := exists_holds_of_part h hu
  · cases he with
    | word _ ht => cases ht
    | parameter _ hn => exact hn.ne_empty
  · cases he with
    | word _ ht => cases ht
    | unresolved _ hn => exact hn.ne_empty

/-- The text is the name, or the name with arguments. -/
def WritesName (text name : String) : Prop :=
  text = name ∨ ∃ arguments, text = Rendering.applied name arguments

lemma NamesType.writesName {u : TypeExpr} {name : TypeName} {policy : UnresolvedPolicy}
    {r : Rendering} (hu : NamesType u name) (h : u.render policy = .ok r) :
    WritesName r.text name.simple := by
  obtain ⟨s, hs, h⟩ := bind_eq_ok h
  cases h
  cases hu with
  | reference =>
    cases hs
    exact .inl rfl
  | generic _ a as =>
    obtain ⟨rs, -, hs⟩ := bind_eq_ok hs
    cases hs
    exact .inr ⟨_, rfl⟩

lemma TypeWord.simple_parse_eq_empty_iff {v : Json} {word : String} (h : TypeWord v word) :
    (TypeName.parse word).simple = "" ↔ word.toList.getLast? = some '.' := by
  obtain ⟨w, -, hw⟩ := h
  exact TypeName.simple_parse_eq_empty_iff hw.ne_empty

/-- No text in a type that has been read is empty. Its names are those that the texts which name
types spell, and a simple name is empty exactly if its text ends with a dot. So none is empty
exactly if no text ends with a dot, and then every type is written with a name. -/
theorem names_empty_only_behind_final_dot {l : Location} {v : Json} {t : TypeExpr}
    (h : read l v = .ok t) :
    (∀ text, Part t (.parameter text) ∨ Part t (.unresolved text) → text ≠ "") ∧
    (∀ name, t.HasName name ↔ ∃ word, TypeWord v word ∧ TypeName.parse word = name) ∧
    (∀ word, TypeWord v word →
      ((TypeName.parse word).simple = "" ↔ word.toList.getLast? = some '.')) ∧
    ((∀ name, t.HasName name → name.simple ≠ "") ↔
      ∀ word, TypeWord v word → word.toList.getLast? ≠ some '.') ∧
    ((∀ word, TypeWord v word → word.toList.getLast? ≠ some '.') →
      ∀ u name policy r, Part t u → NamesType u name →
      u.render policy = .ok r → name.simple ≠ "" ∧ WritesName r.text name.simple) := by
  have he := encodes_of_read h
  have hiff : (∀ name, t.HasName name → name.simple ≠ "") ↔
      ∀ word, TypeWord v word → word.toList.getLast? ≠ some '.' := by
    constructor
    · intro hnames word hword hdot
      have hname : t.HasName (TypeName.parse word) := (hasName_iff he).mpr ⟨word, hword, rfl⟩
      exact hnames _ hname (hword.simple_parse_eq_empty_iff.mpr hdot)
    · intro hwords name hname hempty
      obtain ⟨word, hword, rfl⟩ := (hasName_iff he).mp hname
      exact hwords word hword (hword.simple_parse_eq_empty_iff.mp hempty)
  refine ⟨fun text hu => text_ne_empty he hu, fun name => hasName_iff he,
    fun word hword => hword.simple_parse_eq_empty_iff, hiff, fun hwords u name policy r hu hn hr =>
      ?_⟩
  exact ⟨hiff.mpr hwords name ⟨u, hu, hn.namedBy⟩, hn.writesName hr⟩

/-- A generic type with a reference among its arguments, below a map with a parameter as key. -/
def parameterToPair : Json :=
  .object [("map", .object [("key", .object [("parameter", .string "T")]),
    ("value", .object [("generic", .string "Shop.Pair"),
      ("arguments", .array [.string " Shop.Order ", .string "int"])])])]

lemma encodes_parameterToPair : Encodes parameterToPair
    (.map (.parameter "T") (.generic (TypeName.parse "Shop.Pair")
      [.reference (TypeName.parse "Shop.Order"), .scalar .number])) := by
  have hnamed : ∀ s word : String, Text.trimmed s = word → word ≠ "" → Named (.string s) word :=
    fun s word ht hne => ⟨s, rfl, Text.trimmed_eq_iff.mp ht, hne⟩
  have hparameter := hnamed "T" "T" (by decide) (by decide)
  have hpair := hnamed "Shop.Pair" "Shop.Pair" (by decide) (by decide)
  have horder := hnamed " Shop.Order " "Shop.Order" (by decide) (by decide)
  have hint := hnamed "int" "int" (by decide) (by decide)
  have hspells : Spells "Shop.Order" (.reference (TypeName.parse "Shop.Order")) :=
    .reference (fun kind => by cases kind <;> decide) (by decide)
  refine .map (single_self _ _) (by simp [HasKeys]) rfl rfl
    (.parameter (single_self _ _) hparameter) ?_
  refine .generic (by simp [HasKeys]) rfl hpair rfl
    (.cons (.word horder hspells) (.cons (.word hint ?_) .nil))
  exact .scalar (by decide)

theorem parameterToPair_names_not_empty : ∃ t, (∀ l, read l parameterToPair = .ok t) ∧
    (∀ text, Part t (.parameter text) ∨ Part t (.unresolved text) → text ≠ "") ∧
    (∀ name, t.HasName name → name.simple ≠ "") ∧
    (∀ word, TypeWord parameterToPair word → word.toList.getLast? ≠ some '.') ∧
    ∀ u name policy r, Part t u → NamesType u name → u.render policy = .ok r →
      name.simple ≠ "" ∧ WritesName r.text name.simple := by
  have hread := read_of_encodes encodes_parameterToPair
  obtain ⟨htexts, -, -, hiff, hwritten⟩ := names_empty_only_behind_final_dot (hread ⟨"", []⟩)
  have hwords := hiff.mp <| by
    rintro name ⟨u, hu, hn⟩
    cases hu with
    | self => cases hn
    | key hu =>
      cases hu
      cases hn
    | value hu =>
      cases hu with
      | self =>
        cases hn
        decide
      | argument ha hu =>
        simp only [List.mem_cons, List.not_mem_nil, or_false] at ha
        rcases ha with rfl | rfl
        · cases hu
          cases hn
          decide
        · cases hu
          cases hn
  exact ⟨_, hread, htexts, hiff.mpr hwords, hwords, hwritten hwords⟩

/-- A text that ends with a dot is read as a name, and nothing is written for it. -/
theorem final_dot_leaves_no_name :
    (∀ l, read l (.string "A.") = .ok (.reference ⟨some "A", ""⟩)) ∧
      (reference ⟨some "A", ""⟩).render .fail = .ok ⟨"", ["A."]⟩ := by
  have hn : Named (.string "A.") "A." := ⟨_, rfl, Text.trims_self (by decide), by decide⟩
  have hs : Spells "A." (.reference (TypeName.parse "A.")) :=
    .reference (fun kind => by cases kind <;> decide) (by decide)
  have hp : TypeName.parse "A." = ⟨some "A", ""⟩ := by decide
  exact ⟨fun l => hp ▸ read_of_encodes (.word hn hs) l, rfl⟩

end Typescribe.TypeExpr
