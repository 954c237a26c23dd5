import Mathlib
import Typescribe.Proofs.Dictionary
import Typescribe.Proofs.Except
import Typescribe.TypeModel

/-!
# The registry after any sequence of calls

A list and two indexes stay in step: a full name leads to the one type that has it, and a simple
name goes from free to taken to shared and never back. Whatever calls fail, a look-up finds what the
list of types says.
-/
namespace Typescribe.TypeModel

variable {m m' : TypeModel}

def fullNames (types : List TypeDescriptor) : List String :=
  types.map fun t => t.name.fullName

def withSimpleName (types : List TypeDescriptor) (name : String) : List TypeDescriptor :=
  types.filter fun t => t.name.simple = name

/-- One more type, whatever its name. -/
def append (m : TypeModel) (t : TypeDescriptor) : TypeModel where
  types := m.types ++ [t]
  byFullName := m.byFullName.insert t.name.fullName m.types.length
  bySimpleName := m.bySimpleName.insert t.name.simple
    (if m.bySimpleName.contains t.name.simple then none else some m.types.length)

/-- A call is settled before it changes anything. -/
lemma run_add (m : TypeModel) (t : TypeDescriptor) :
    (add t).run.run m = if m.byFullName.contains t.name.fullName then
      (.error (.duplicateType t.name.fullName), m) else (.ok (), m.append t) := by
  have hg : (get : ExceptT Error (StateM TypeModel) TypeModel).run.run m = (.ok m, m) := rfl
  rw [add, run_bind, hg]
  dsimp only
  split_ifs <;> rfl

lemma extend_eq (m : TypeModel) (t : TypeDescriptor) :
    m.extend t =
      if m.byFullName.contains t.name.fullName then .error (.duplicateType t.name.fullName)
      else .ok (m.append t) := by
  rw [extend, run_add]
  split_ifs <;> rfl

lemma eq_append_of_extend {t : TypeDescriptor} (h : m.extend t = .ok m') : m' = m.append t := by
  rw [extend_eq] at h
  split at h <;> cases h
  rfl

/-- What a call leaves, whether it fails or not. -/
def afterCall (m : TypeModel) (t : TypeDescriptor) : TypeModel :=
  ((add t).run.run m).2

def afterCalls (calls : List TypeDescriptor) : TypeModel :=
  calls.foldl afterCall empty

/-- What a simple name has in its index, by the types that have the name. -/
inductive Slot (types : List TypeDescriptor) (name : String) : Option (Option ℕ) → Prop
  | free (h : withSimpleName types name = []) : Slot types name none
  | taken {t : TypeDescriptor} {i : ℕ} (h : withSimpleName types name = [t])
      (hi : types[i]? = some t) :
      Slot types name (some (some i))
  | shared {t u : TypeDescriptor} {rest : List TypeDescriptor}
      (h : withSimpleName types name = t :: u :: rest) :
      Slot types name (some none)

/-- Both indexes say where the types are. -/
structure Indexed (m : TypeModel) : Prop where
  full : ∀ name i, m.byFullName.get? name = some i ↔ ∃ t,
    m.types[i]? = some t ∧ t.name.fullName = name
  simple : ∀ name, Slot m.types name (m.bySimpleName.get? name)

/-- What a name finds: the type with this full name, or else the only type with this simple name. -/
inductive Finds (types : List TypeDescriptor) (name : String) : Option TypeDescriptor → Prop
  | byFullName {t : TypeDescriptor} (ht : t ∈ types) (hn : t.name.fullName = name) :
      Finds types name (some t)
  | bySimpleName {t : TypeDescriptor} (hf : name ∉ fullNames types)
      (hs : withSimpleName types name = [t]) :
      Finds types name (some t)
  | nothing (hf : name ∉ fullNames types) (hs : ∀ t, withSimpleName types name ≠ [t]) :
      Finds types name none

lemma getElem?_concat {types : List TypeDescriptor} {t u : TypeDescriptor} {i : ℕ} :
    (types ++ [t])[i]? = some u ↔ types[i]? = some u ∨ i = types.length ∧ u = t := by
  rcases lt_trichotomy i types.length with hi | rfl | hi
  · have hne : i ≠ types.length := by omega
    simp [List.getElem?_append_left hi, hne]
  · simp [eq_comm]
  · have hne : i ≠ types.length := by omega
    have hn : (types ++ [t])[i]? = none := List.getElem?_eq_none (by simp; omega)
    have ho : types[i]? = none := List.getElem?_eq_none (by omega)
    simp [hn, ho, hne]

lemma Indexed.contains_iff (h : Indexed m) (name : String) :
    m.byFullName.contains name ↔ name ∈ fullNames m.types := by
  rw [Dictionary.contains_iff, fullNames, List.mem_map]
  constructor
  · rintro ⟨i, hi⟩
    obtain ⟨t, ht, hn⟩ := (h.full name i).mp hi
    exact ⟨t, List.mem_of_getElem? ht, hn⟩
  · rintro ⟨t, ht, hn⟩
    obtain ⟨i, hi⟩ := List.getElem?_of_mem ht
    exact ⟨i, (h.full name i).mpr ⟨t, hi, hn⟩⟩

lemma Indexed.run_add_of_mem (h : Indexed m) {t : TypeDescriptor}
    (ht : t.name.fullName ∈ fullNames m.types) :
    (add t).run.run m = (.error (.duplicateType t.name.fullName), m) := by
  rw [run_add, if_pos ((h.contains_iff _).mpr ht)]

lemma Indexed.run_add_of_notMem (h : Indexed m) {t : TypeDescriptor}
    (ht : t.name.fullName ∉ fullNames m.types) : (add t).run.run m = (.ok (), m.append t) := by
  rw [run_add, if_neg (mt (h.contains_iff _).mp ht)]

lemma withSimpleName_append (types : List TypeDescriptor) (t : TypeDescriptor) (name : String) :
    withSimpleName (types ++ [t]) name =
      withSimpleName types name ++ if t.name.simple = name then [t] else [] := by
  by_cases h : t.name.simple = name <;> simp [withSimpleName, h]

lemma Slot.append_other {types : List TypeDescriptor} {name : String} {slot : Option (Option ℕ)}
    {t : TypeDescriptor} (h : Slot types name slot) (ht : t.name.simple ≠ name) :
    Slot (types ++ [t]) name slot := by
  have hs : withSimpleName (types ++ [t]) name = withSimpleName types name := by
    simp [withSimpleName_append, ht]
  cases h with
  | free h => exact .free (hs.trans h)
  | taken h hi => exact .taken (hs.trans h) (getElem?_concat.mpr (.inl hi))
  | shared h => exact .shared (hs.trans h)

lemma Slot.append_same {types : List TypeDescriptor} {name : String} {slot : Option (Option ℕ)}
    {t : TypeDescriptor} (h : Slot types name slot) (ht : t.name.simple = name) :
    Slot (types ++ [t]) name (some (if slot.isSome then none else some types.length)) := by
  have hs : withSimpleName (types ++ [t]) name = withSimpleName types name ++ [t] := by
    simp [withSimpleName_append, ht]
  cases h with
  | free h =>
    have ht : withSimpleName (types ++ [t]) name = [t] := by rw [hs, h]; rfl
    exact .taken ht (getElem?_concat.mpr (.inr ⟨rfl, rfl⟩))
  | taken h hi => exact .shared (by rw [hs, h]; rfl)
  | shared h => exact .shared (by rw [hs, h]; rfl)

lemma indexed_empty : Indexed empty where
  full := by simp [empty]
  simple name := .free rfl

/-- A type with a new full name keeps the indexes in step with the list. -/
theorem Indexed.append (h : Indexed m) {t : TypeDescriptor}
    (ht : t.name.fullName ∉ fullNames m.types) : Indexed (m.append t) := by
  constructor
  · intro name i
    simp only [TypeModel.append, Dictionary.get?_insert, getElem?_concat]
    by_cases hn : name = t.name.fullName
    · subst hn
      rw [if_pos rfl, Option.some.injEq]
      constructor
      · rintro rfl
        exact ⟨t, .inr ⟨rfl, rfl⟩, rfl⟩
      · rintro ⟨u, hu | ⟨hi, -⟩, hf⟩
        · -- no type that is there already has the name
          exact absurd (List.mem_map.mpr ⟨u, List.mem_of_getElem? hu, hf⟩) ht
        · exact hi.symm
    · rw [if_neg hn, h.full]
      constructor
      · rintro ⟨u, hu, hf⟩
        exact ⟨u, .inl hu, hf⟩
      · rintro ⟨u, hu | ⟨-, rfl⟩, hf⟩
        · exact ⟨u, hu, hf⟩
        · exact absurd hf.symm hn
  · intro name
    have hs := h.simple name
    rw [TypeModel.append, Dictionary.get?_insert]
    by_cases hn : name = t.name.simple
    · subst hn
      rw [if_pos rfl]
      exact hs.append_same rfl
    · rw [if_neg hn]
      exact hs.append_other (Ne.symm hn)

lemma Indexed.afterCall_of_mem (h : Indexed m) {t : TypeDescriptor}
    (ht : t.name.fullName ∈ fullNames m.types) : m.afterCall t = m := by
  rw [afterCall, h.run_add_of_mem ht]

lemma Indexed.afterCall_of_notMem (h : Indexed m) {t : TypeDescriptor}
    (ht : t.name.fullName ∉ fullNames m.types) : m.afterCall t = m.append t := by
  rw [afterCall, h.run_add_of_notMem ht]

lemma afterCalls_append (calls : List TypeDescriptor) (t : TypeDescriptor) :
    afterCalls (calls ++ [t]) = (afterCalls calls).afterCall t := by
  simp [afterCalls]

theorem indexed_afterCalls (calls : List TypeDescriptor) : Indexed (afterCalls calls) := by
  induction calls using List.reverseRecOn with
  | nil => exact indexed_empty
  | append_singleton calls t ih =>
    rw [afterCalls_append]
    by_cases ht : t.name.fullName ∈ fullNames (afterCalls calls).types
    · rw [ih.afterCall_of_mem ht]
      exact ih
    · rw [ih.afterCall_of_notMem ht]
      exact ih.append ht

/-- A full name is taken once some call has brought it, and never set free. -/
lemma mem_fullNames_afterCalls (calls : List TypeDescriptor) (name : String) :
    name ∈ fullNames (afterCalls calls).types ↔ name ∈ fullNames calls := by
  induction calls using List.reverseRecOn with
  | nil => rfl
  | append_singleton calls t ih =>
    have h := indexed_afterCalls calls
    have hc : fullNames (calls ++ [t]) = fullNames calls ++ [t.name.fullName] := by simp [fullNames]
    rw [afterCalls_append, hc, List.mem_append, List.mem_singleton, ← ih]
    by_cases ht : t.name.fullName ∈ fullNames (afterCalls calls).types
    · rw [h.afterCall_of_mem ht]
      constructor
      · exact .inl
      · rintro (hn | rfl)
        · exact hn
        · exact ht
    · rw [h.afterCall_of_notMem ht]
      simp [fullNames, append]

lemma Indexed.nodup_fullNames (h : Indexed m) : (fullNames m.types).Nodup := by
  rw [List.nodup_iff_getElem?_ne_getElem?]
  intro i j hij hj he
  rw [fullNames, List.length_map] at hj
  have ht : m.types[j]? = some m.types[j] := List.getElem?_eq_getElem hj
  rw [fullNames, List.getElem?_map, List.getElem?_map, ht, Option.map_some,
    Option.map_eq_some_iff] at he
  obtain ⟨u, hu, hn⟩ := he
  have hi := (h.full _ i).mpr ⟨u, hu, hn⟩
  have hj := (h.full _ j).mpr ⟨_, ht, rfl⟩
  have hlt : i = j := Option.some.inj (hi.symm.trans hj)
  omega

lemma Indexed.lt_length (h : Indexed m) {name : String} {i : ℕ}
    (hi : m.byFullName.get? name = some i ∨ m.bySimpleName.get? name = some (some i)) :
    i < m.types.length := by
  have ht : ∃ t, m.types[i]? = some t := by
    rcases hi with hi | hi
    · obtain ⟨t, ht, -⟩ := (h.full name i).mp hi
      exact ⟨t, ht⟩
    · have hs := h.simple name
      rw [hi] at hs
      cases hs with
      | taken _ ht => exact ⟨_, ht⟩
  obtain ⟨t, ht⟩ := ht
  exact (List.getElem?_eq_some_iff.mp ht).1

/-- A full name wins over a simple name. -/
lemma Indexed.finds (h : Indexed m) (name : String) : Finds m.types name (m.get? name) := by
  cases hf : m.byFullName.get? name with
  | some i =>
    obtain ⟨t, ht, hn⟩ := (h.full name i).mp hf
    have hg : m.get? name = some t := by simp [get?, position?, hf, ht]
    rw [hg]
    exact .byFullName (List.mem_of_getElem? ht) hn
  | none =>
    have hn : name ∉ fullNames m.types := by
      rw [← h.contains_iff, Dictionary.contains_iff]
      simp [hf]
    have hg : m.get? name = (m.bySimpleName.get? name).join.bind fun i => m.types[i]? := by
      simp [get?, position?, hf]
    rw [hg]
    have hslot := h.simple name
    generalize m.bySimpleName.get? name = slot at hslot ⊢
    cases hslot with
    | free hs => exact .nothing hn (by simp [hs])
    | taken hs hi =>
      simp only [Option.join_some, Option.bind_some, hi]
      exact .bySimpleName hn hs
    | shared hs => exact .nothing hn (by simp [hs])

/-- After any calls, whatever of them fail, the next one fails exactly on a full name that some call
has brought, and then changes nothing; else it appends its type. Full names are distinct, every
position is one of the list, and a look-up finds the type with that full name, or else the only one
with that simple name, or else nothing. -/
theorem registry_faithful_after_calls (calls : List TypeDescriptor) :
    (∀ t, if t.name.fullName ∈ fullNames calls then
        (add t).run.run
        (afterCalls calls) = (.error (.duplicateType t.name.fullName), afterCalls calls)
      else
        (add t).run.run (afterCalls calls) = (.ok (), afterCalls (calls ++ [t])) ∧
          (afterCalls (calls ++ [t])).types = (afterCalls calls).types ++ [t]) ∧
    (∀ name, name ∈ fullNames (afterCalls calls).types ↔ name ∈ fullNames calls) ∧
    (fullNames (afterCalls calls).types).Nodup ∧
    (∀ name i, (afterCalls calls).byFullName.get? name = some i ∨
        (afterCalls calls).bySimpleName.get? name = some (some i) →
          i < (afterCalls calls).types.length) ∧
    ∀ name, Finds (afterCalls calls).types name ((afterCalls calls).get? name) := by
  have h := indexed_afterCalls calls
  refine ⟨fun t => ?_, mem_fullNames_afterCalls calls, h.nodup_fullNames,
    fun _ _ hi => h.lt_length hi, h.finds⟩
  split
  · next ht => exact h.run_add_of_mem ((mem_fullNames_afterCalls calls t.name.fullName).mpr ht)
  · next ht =>
    have hm := mt (mem_fullNames_afterCalls calls t.name.fullName).mp ht
    rw [afterCalls_append, h.afterCall_of_notMem hm]
    exact ⟨h.run_add_of_notMem hm, rfl⟩

end Typescribe.TypeModel
