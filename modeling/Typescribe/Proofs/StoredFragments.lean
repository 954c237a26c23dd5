import Mathlib
import Typescribe.Fragment
import Typescribe.Proofs.Dependencies
import Typescribe.Proofs.Except
import Typescribe.Proofs.JsonText

/-!
# Stored fragments read back

`Fragments.Stored` is the stored form, told by the fields of records and without the reader. `read?`
accepts exactly the texts of stored fragments, and what is written is such a text. A stored list of
dependencies may repeat itself; only the first of each is kept.
-/
namespace Typescribe

namespace Json

/-- A key occurs once among the members, with this value. -/
def Once (key : String) (v : Json) (members : List (String × Json)) : Prop :=
  ∃ before after, members = before ++ (key, v) :: after ∧ key ∉ before.map Prod.fst ∧
    key ∉ after.map Prod.fst

/-- The value of a field of a record with the given fields, or that it is absent. -/
inductive Field (names : List String) (name : String) : Json → Option Json → Prop
  | member {members : List (String × Json)} {v : Json} (h : Once name v members) :
      Field names name (.object members) (some v)
  | absent {members : List (String × Json)} (h : name ∉ members.map Prod.fst) :
      Field names name (.object members) none
  | item {items : List Json} (h : items.length ≤ names.length) :
      Field names name (.array items) items[names.idxOf name]?

lemma valuesOf_eq_nil_iff {key : String} {members : List (String × Json)} :
    valuesOf key members = [] ↔ key ∉ members.map Prod.fst := by
  simp only [valuesOf, List.filterMap_eq_nil_iff, ite_eq_right_iff, reduceCtorEq, imp_false,
    List.mem_map, not_exists, not_and]

lemma valuesOf_eq_singleton_iff {key : String} {v : Json} {members : List (String × Json)} :
    valuesOf key members = [v] ↔ Once key v members := by
  constructor
  · intro h
    induction members with
    | nil => cases h
    | cons m ms ih =>
      obtain ⟨k, w⟩ := m
      by_cases hk : k = key
      · subst hk
        have hc : w :: valuesOf k ms = [v] := by simpa [valuesOf] using h
        obtain ⟨rfl, hn⟩ := List.cons.inj hc
        exact ⟨[], ms, rfl, by simp, valuesOf_eq_nil_iff.mp hn⟩
      · have hc : valuesOf key ms = [v] := by simpa [valuesOf, hk] using h
        obtain ⟨before, after, rfl, hb, ha⟩ := ih hc
        refine ⟨(k, w) :: before, after, rfl, ?_, ha⟩
        simp only [List.map_cons, List.mem_cons, not_or]
        exact ⟨fun he => hk he.symm, hb⟩
  · rintro ⟨before, after, rfl, hb, ha⟩
    have hb := valuesOf_eq_nil_iff.mpr hb
    have ha := valuesOf_eq_nil_iff.mpr ha
    simp only [valuesOf] at hb ha
    simp [valuesOf, hb, ha]

lemma items_by_name {names : List String} (hn : names.Nodup) {items : List Json}
    (hl : items.length ≤ names.length) :
    items.map some ++ List.replicate (names.length - items.length) none =
      names.map fun name => items[names.idxOf name]? := by
  apply List.ext_getElem
  · simp only [List.length_append, List.length_map, List.length_replicate]
    omega
  · intro i _ hi
    have hname : i < names.length := by simpa using hi
    have hidx : names.idxOf names[i] = i := List.get_idxOf hn ⟨i, hname⟩
    rw [List.getElem_map, hidx, List.getElem_append]
    split_ifs with h
    · have hi' : i < items.length := by simpa using h
      simp [hi']
    · have hi' : items.length ≤ i := by simpa using h
      simp [hi']

lemma fields?_object {names : List String} {members : List (String × Json)}
    {xs : List (Option Json)} :
    (object members).fields? false names = some xs ↔
      List.Forall₂ (fun name x => Field names name (.object members) x) names xs := by
  rw [fields?, fieldsOf?, if_neg (by simp), mapM_eq_some_iff]
  apply iff_of_eq
  congr 1
  funext name x
  apply propext
  constructor
  · intro h
    split at h
    · next hv =>
      cases h
      exact .absent (valuesOf_eq_nil_iff.mp hv)
    · next hv =>
      cases h
      exact .member (valuesOf_eq_singleton_iff.mp hv)
    · cases h
  · intro h
    cases h with
    | member h => rw [valuesOf_eq_singleton_iff.mpr h]
    | absent h => rw [valuesOf_eq_nil_iff.mpr h]

lemma fields?_array {names : List String} (hn : names.Nodup) (hne : names ≠ []) {items : List Json}
    {xs : List (Option Json)} :
    (array items).fields? false names = some xs ↔
      List.Forall₂ (fun name x => Field names name (.array items) x) names xs := by
  have hf : ∀ name x, Field names name (.array items) x ↔
      items.length ≤ names.length ∧ x = items[names.idxOf name]? := by
    intro name x
    constructor
    · rintro ⟨⟩
      exact ⟨‹_›, rfl⟩
    · rintro ⟨h, rfl⟩
      exact .item h
  simp only [fields?, hf]
  constructor
  · intro h
    split_ifs at h with hl
    obtain rfl := Option.some.inj h
    rw [items_by_name hn hl, List.forall₂_map_right_iff]
    exact List.forall₂_same.mpr fun _ _ => ⟨hl, rfl⟩
  · intro h
    obtain ⟨name, hname⟩ := List.exists_mem_of_ne_nil names hne
    obtain ⟨hl, hx⟩ := (List.forall₂_and_left names xs).mp h
    have hm : List.Forall₂ (· = ·) (names.map fun name => items[names.idxOf name]?) xs :=
      List.forall₂_map_left_iff.mpr (hx.imp fun _ _ he => he.symm)
    rw [List.forall₂_eq_eq_eq] at hm
    rw [if_pos (hl name hname), items_by_name hn (hl name hname), hm]

/-- Reading a record finds each of its fields. -/
lemma fields?_eq_some_iff {names : List String} (hn : names.Nodup) (hne : names ≠ []) {v : Json}
    {xs : List (Option Json)} :
    v.fields? false names = some xs ↔
      List.Forall₂ (fun name x => Field names name v x) names xs := by
  cases v with
  | object members => exact fields?_object
  | array items => exact fields?_array hn hne
  | null | bool | number | string | unvalued =>
    obtain ⟨name, rest, rfl⟩ := List.exists_cons_of_ne_nil hne
    constructor
    · rintro ⟨⟩
    · intro h
      obtain ⟨_, _, hx, -⟩ := List.forall₂_cons_left_iff.mp h
      cases hx

lemma string?_eq_some_iff {v : Json} {s : String} : v.string? = some s ↔ v = .string s := by
  cases v <;> simp [string?]

lemma strings?_eq_some_iff {v : Json} {xs : List String} :
    v.strings? = some xs ↔ v = .array (xs.map .string) := by
  have hm : ∀ items : List Json, items.mapM string? = some xs ↔ items = xs.map .string := by
    intro items
    simp only [mapM_eq_some_iff, string?_eq_some_iff]
    rw [← List.forall₂_map_right_iff, List.forall₂_eq_eq_eq]
  cases v with
  | array items => simp [strings?, array?, hm]
  | null | bool | number | string | object | unvalued => simp [strings?, array?]

end Json

lemma FragmentId.filter_distinct (p : FragmentId → Bool) (xs : List FragmentId) :
    (distinct xs).filter p = distinct (xs.filter p) := by
  induction xs with
  | nil => rfl
  | cons x xs ih =>
    by_cases hx : p x
    · rw [distinct, List.filter_cons_of_pos hx, List.filter_cons_of_pos hx, distinct, ← ih,
        List.filter_filter, List.filter_filter]
      simp only [Bool.and_comm]
    · rw [distinct, List.filter_cons_of_neg hx, List.filter_cons_of_neg hx, ← ih,
        List.filter_filter]
      apply List.filter_congr
      intro y _
      by_cases hy : y = x
      · simp [hy, hx]
      · simp [hy]

lemma FragmentId.distinct_eq_eraseDups (xs : List FragmentId) : distinct xs = xs.eraseDups := by
  induction hn : xs.length using Nat.strong_induction_on generalizing xs with
  | _ n ih =>
    cases xs with
    | nil => rfl
    | cons x xs =>
      have hlen : (xs.filter fun y => !y == x).length < n := by
        have := List.length_filter_le (fun y => !y == x) xs
        simp only [List.length_cons] at hn
        omega
      have hfilter := filter_distinct (fun y => !y == x) xs
      rw [List.eraseDups_cons, ← ih _ hlen _ rfl, ← hfilter]
      rfl

namespace Fragment

def Has (v : Json) (name : String) (x : Option Json) : Prop :=
  Json.Field ["id", "dependencies", "code"] name v x

/-- Dependencies may be left out. -/
structure Stored (v : Json) (f : Fragment) : Prop where
  id : Has v "id" (some (.string f.id))
  code : Has v "code" (some (.string f.code))
  dependencies : (Has v "dependencies" none ∧ f.dependencies = []) ∨
    ∃ listed : List FragmentId, Has v "dependencies" (some (.array (listed.map .string))) ∧
      f.dependencies = listed.eraseDups

lemma dependencies_make (id : FragmentId) (listed : List FragmentId) (code : String) :
    (make id listed code).dependencies = listed.eraseDups :=
  FragmentId.distinct_eq_eraseDups listed

lemma eq_make {f : Fragment} {listed : List FragmentId} (h : f.dependencies = listed.eraseDups) :
    f = make f.id listed f.code := by
  obtain ⟨id, dependencies, code, hn⟩ := f
  simp only at h
  simp [make, FragmentId.distinct_eq_eraseDups, h]

lemma fields?_eq_some_iff {v : Json} {xs : List (Option Json)} :
    v.fields? false ["id", "dependencies", "code"] = some xs ↔
      ∃ x y z, xs = [x, y, z] ∧ Has v "id" x ∧ Has v "dependencies" y ∧ Has v "code" z := by
  rw [Json.fields?_eq_some_iff (by decide) (by simp)]
  constructor
  · intro h
    obtain ⟨x, _, hx, h₁, rfl⟩ := List.forall₂_cons_left_iff.mp h
    obtain ⟨y, _, hy, h₂, rfl⟩ := List.forall₂_cons_left_iff.mp h₁
    obtain ⟨z, _, hz, h₃, rfl⟩ := List.forall₂_cons_left_iff.mp h₂
    obtain rfl := List.forall₂_nil_left_iff.mp h₃
    exact ⟨x, y, z, rfl, hx, hy, hz⟩
  · rintro ⟨x, y, z, rfl, hx, hy, hz⟩
    exact .cons hx (.cons hy (.cons hz .nil))

/-- What a record is read as, once its fields are known. -/
lemma ofJson?_eq {v id code : Json} {dependencies : Option Json} (hid : Has v "id" (some id))
    (hd : Has v "dependencies" dependencies) (hcode : Has v "code" (some code)) :
    ofJson? v = (dependencies.elim (some []) Json.strings?).bind fun listed =>
      id.string?.bind fun id => code.string?.bind fun code => some (make id listed code) := by
  rw [ofJson?, fields?_eq_some_iff.mpr ⟨_, _, _, rfl, hid, hd, hcode⟩]
  cases dependencies <;> rfl

lemma has_of_ofJson? {v : Json} {f : Fragment} (h : ofJson? v = some f) :
    ∃ id dependencies code, Has v "id" (some id) ∧ Has v "dependencies" dependencies ∧
      Has v "code" (some code) := by
  obtain ⟨xs, hxs, h⟩ := Option.bind_eq_some_iff.mp h
  obtain ⟨x, y, z, rfl, hx, hy, hz⟩ := fields?_eq_some_iff.mp hxs
  cases x with
  | none => cases h
  | some id =>
    cases z with
    | none => cases h
    | some code => exact ⟨id, y, code, hx, hy, hz⟩

lemma stored_of_ofJson? {v : Json} {f : Fragment} (h : ofJson? v = some f) : Stored v f := by
  obtain ⟨x, y, z, hx, hy, hz⟩ := has_of_ofJson? h
  rw [ofJson?_eq hx hy hz] at h
  obtain ⟨listed, hlisted, h⟩ := Option.bind_eq_some_iff.mp h
  obtain ⟨id, hid, h⟩ := Option.bind_eq_some_iff.mp h
  obtain ⟨code, hcode, h⟩ := Option.bind_eq_some_iff.mp h
  obtain rfl := Option.some.inj h
  obtain rfl := Json.string?_eq_some_iff.mp hid
  obtain rfl := Json.string?_eq_some_iff.mp hcode
  refine ⟨hx, hz, ?_⟩
  rw [dependencies_make]
  cases y with
  | none =>
    obtain rfl := Option.some.inj hlisted
    exact .inl ⟨hy, rfl⟩
  | some y =>
    obtain rfl := Json.strings?_eq_some_iff.mp hlisted
    exact .inr ⟨listed, hy, rfl⟩

lemma ofJson?_of_stored {v : Json} {f : Fragment} (h : Stored v f) : ofJson? v = some f := by
  rcases h.dependencies with ⟨hd, he⟩ | ⟨listed, hd, he⟩
  · rw [ofJson?_eq h.id hd h.code]
    exact congrArg some (@eq_make f [] he).symm
  · have hs : (Json.array (listed.map .string)).strings? = some listed :=
      Json.strings?_eq_some_iff.mpr rfl
    rw [ofJson?_eq h.id hd h.code, Option.elim_some, hs]
    exact congrArg some (eq_make he).symm

lemma stored_toJson (f : Fragment) : Stored f.toJson f where
  id := .member ⟨[], _, rfl, by simp, by simp⟩
  code := .member ⟨[_, _], [], rfl, by simp, by simp⟩
  dependencies := by
    refine .inr ⟨f.dependencies, .member ⟨[_], [_], rfl, by simp, by simp⟩, ?_⟩
    rw [← FragmentId.distinct_eq_eraseDups, FragmentId.distinct_eq_self f.nodup_dependencies]

end Fragment

namespace Fragments

/-- One record for each fragment. -/
def Stored (v : Json) (fs : Fragments) : Prop :=
  ∃ items, Json.Field ["code_fragments"] "code_fragments" v (some (.array items)) ∧
    List.Forall₂ Fragment.Stored items fs.list

lemma ofJson?_eq_some_iff {v : Json} {fs : Fragments} : ofJson? v = some fs ↔ Stored v fs := by
  have hm : ∀ items list,
      items.mapM Fragment.ofJson? = some list ↔ List.Forall₂ Fragment.Stored items list := by
    intro items list
    rw [mapM_eq_some_iff]
    exact ⟨fun h => h.imp fun _ _ => Fragment.stored_of_ofJson?,
      fun h => h.imp fun _ _ => Fragment.ofJson?_of_stored⟩
  constructor
  · intro h
    obtain ⟨xs, hxs, h⟩ := Option.bind_eq_some_iff.mp h
    rw [Json.fields?_eq_some_iff (by decide) (by simp)] at hxs
    obtain ⟨x, _, hx, hrest, rfl⟩ := List.forall₂_cons_left_iff.mp hxs
    obtain rfl := List.forall₂_nil_left_iff.mp hrest
    cases x with
    | none => cases h
    | some v =>
      obtain ⟨items, hitems, h⟩ := Option.bind_eq_some_iff.mp h
      obtain ⟨list, hlist, h⟩ := Option.bind_eq_some_iff.mp h
      obtain rfl := Option.some.inj h
      cases v with
      | array items' =>
        obtain rfl := Option.some.inj hitems
        exact ⟨_, hx, (hm _ _).mp hlist⟩
      | null | bool | number | string | object | unvalued => cases hitems
  · rintro ⟨items, hv, hs⟩
    have hf :=
      (@Json.fields?_eq_some_iff ["code_fragments"] (by decide) (by simp) v _).mpr (.cons hv .nil)
    rw [ofJson?, hf]
    simp [Json.array?, (hm items fs.list).mpr hs]

lemma isTextual_toJson (fs : Fragments) : fs.toJson.isTextual := by
  have hf : ∀ f : Fragment, f.toJson.isTextual := by
    intro f
    have hd : Json.areTextual (f.dependencies.map Json.string) :=
      Json.areTextual_map (fun _ => rfl) _
    simp [Fragment.toJson, Json.isTextual, Json.areMembersTextual, hd]
  have hl : Json.areTextual (fs.list.map Fragment.toJson) := Json.areTextual_map hf fs.list
  simp [toJson, Json.isTextual, Json.areMembersTextual, hl]

lemma stored_toJson (fs : Fragments) : Stored fs.toJson fs := by
  refine ⟨_, .member ⟨[], [], rfl, by simp, by simp⟩, ?_⟩
  rw [List.forall₂_map_left_iff, List.forall₂_same]
  exact fun f _ => f.stored_toJson

lemma read?_eq_some_iff {text : String} {fs : Fragments} :
    read? text = some fs ↔ ∃ v, Json.read? text = some v ∧ Stored v fs := by
  simp only [read?, Option.bind_eq_bind, Option.bind_eq_some_iff, ofJson?_eq_some_iff]

lemma read?_write (fs : Fragments) : read? fs.write = some fs :=
  read?_eq_some_iff.mpr ⟨fs.toJson, Json.read?_compact fs.isTextual_toJson, fs.stored_toJson⟩

/-- Fragments, which never repeat a dependency, read back as they were written. A text is read as
fragments exactly if it stores them, where of a list of dependencies the first of each counts, and
storing them again changes nothing. -/
theorem stored_fragments_round_trip :
    (∀ fs : Fragments, (∀ f ∈ fs.list, f.dependencies.Nodup) ∧ read? fs.write = some fs) ∧
    (∀ id listed code, (Fragment.make id listed code).dependencies = listed.eraseDups) ∧
    ∀ text fs, (read? text = some fs ↔ ∃ v, Json.read? text = some v ∧ Stored v fs) ∧
      (read? text = some fs → read? fs.write = some fs) :=
  ⟨fun fs => ⟨fun f _ => f.nodup_dependencies, read?_write fs⟩, Fragment.dependencies_make,
    fun _ fs => ⟨read?_eq_some_iff, fun _ => read?_write fs⟩⟩

end Fragments

end Typescribe
