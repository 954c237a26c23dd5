import Mathlib
import Typescribe.Job
import Typescribe.Proofs.Dependencies
import Typescribe.Proofs.Except
import Typescribe.Proofs.Registry

/-!
# A selection agrees with the whole

Each fragment comes from its own type, and full names are distinct, so that the fragment of a
selected type is the one that the run over all types has under the identity of the type. A selection
fails only for a name that finds nothing.
-/
namespace Typescribe

open TypeModel (afterCalls fullNames)

/-- What a run over the named types gives, told by a run over all types. -/
structure SelectionOf (m : TypeModel) (all : Fragments) (names : List String)
    (result : Except Error Fragments) : Prop where
  succeeds : (∃ fs, result = .ok fs) ↔ ∀ name ∈ names, ∃ t, m.get? name = some t
  selected : ∀ fs, result = .ok fs → List.Forall₂
    (fun name f => ∃ t, m.get? name = some t ∧ all.get? (.ofType t.name) = some f) names fs.list
  fails : ∀ e, result = .error e → ∃ before name after, names = before ++ name :: after ∧
    (∀ n ∈ before, ∃ t, m.get? n = some t) ∧ m.get? name = none ∧ e = .unknownType name

variable {g : Generator} {m : TypeModel}

namespace Generator

/-- The first fragment with the identity of a type is the fragment of that type, since no other type
has its name. -/
lemma get?_of_fragment {types : List TypeDescriptor} {fs : List Fragment} {t : TypeDescriptor}
    (h : List.Forall₂ (fun t f => g.fragment t = .ok f) types fs) (hn : (fullNames types).Nodup)
    (ht : t ∈ types) :
    ∃ f, g.fragment t = .ok f ∧ Fragments.get? ⟨fs⟩ (.ofType t.name) = some f := by
  induction h with
  | nil => cases ht
  | @cons u f types fs hu _ ih =>
    obtain ⟨hne, hn⟩ := List.nodup_cons.mp hn
    have hid : f.id = FragmentId.ofType u.name := id_of_fragment hu
    rcases List.mem_cons.mp ht with rfl | ht
    · exact ⟨f, hu, by simp [Fragments.get?, hid]⟩
    · obtain ⟨f', hf', hg⟩ := ih hn ht
      have hd : FragmentId.ofType u.name ≠ FragmentId.ofType t.name := by
        intro he
        exact hne (List.mem_map.mpr ⟨t, ht, he.symm⟩)
      refine ⟨f', hf', ?_⟩
      rw [← hg]
      simp [Fragments.get?, hid, hd]

end Generator

namespace TypeModel

lemma select_eq_ok_iff {names : List String} {types : List TypeDescriptor} :
    m.select names = .ok types ↔ List.Forall₂ (fun name t => m.get? name = some t) names types := by
  rw [select, mapM_eq_ok_iff]
  constructor
  · intro h
    refine h.imp fun name t ht => ?_
    cases hg : m.get? name with
    | none => simp [hg] at ht
    | some u => simpa [hg] using ht
  · intro h
    refine h.imp fun name t ht => ?_
    rw [ht]

lemma select_eq_error {names : List String} {e : Error} (h : m.select names = .error e) :
    ∃ before name after, names = before ++ name :: after ∧ (∀ n ∈ before, ∃ t, m.get? n = some t) ∧
      m.get? name = none ∧ e = .unknownType name := by
  obtain ⟨before, name, after, rfl, hb, hn⟩ := mapM_eq_error h
  refine ⟨before, name, after, rfl, fun n hm => ?_, ?_⟩
  · obtain ⟨t, ht⟩ := hb n hm
    cases hg : m.get? n with
    | some u => exact ⟨u, rfl⟩
    | none => simp [hg] at ht
  · cases hg : m.get? name with
    | some u => simp [hg] at hn
    | none => exact ⟨rfl, by simpa [hg] using hn.symm⟩

lemma Indexed.mem_of_get? (h : Indexed m) {name : String} {t : TypeDescriptor}
    (ht : m.get? name = some t) : t ∈ m.types := by
  have hf := h.finds name
  rw [ht] at hf
  cases hf with
  | byFullName hm _ => exact hm
  | bySimpleName _ hs => exact List.mem_of_mem_filter (hs ▸ List.mem_singleton_self t)

/-- Every selected type has its fragment in the run over all types. -/
lemma Indexed.fragments_selected (h : Indexed m) {all : List Fragment} {names : List String}
    {types : List TypeDescriptor}
    (hall : List.Forall₂ (fun t f => g.fragment t = .ok f) m.types all)
    (hs : List.Forall₂ (fun name t => m.get? name = some t) names types) :
    ∃ fs, types.mapM g.fragment = .ok fs ∧ List.Forall₂
      (fun name f => ∃ t,
        m.get? name = some t ∧ Fragments.get? ⟨all⟩ (.ofType t.name) = some f) names fs := by
  induction hs with
  | nil => exact ⟨[], rfl, .nil⟩
  | @cons name t names types hname _ ih =>
    obtain ⟨fs, hfs, hrest⟩ := ih
    obtain ⟨f, hf, hget⟩ := Generator.get?_of_fragment hall h.nodup_fullNames (h.mem_of_get? hname)
    refine ⟨f :: fs, ?_, .cons ⟨t, hname, hget⟩ hrest⟩
    rw [List.mapM_cons, hf, hfs]
    rfl

theorem Documented.generate_selection {source : Documented} (h : Indexed source.model)
    {all : Fragments} {names : List String} (hne : names ≠ [])
    (hall : source.generate g [] = .ok all) :
    SelectionOf source.model all names (source.generate g names) := by
  obtain ⟨_, ⟨⟩, hall⟩ := bind_eq_ok hall
  obtain ⟨list, hlist, hall⟩ := bind_eq_ok hall
  obtain rfl : ⟨list⟩ = all := Except.ok.inj hall
  have hselect : source.model.selectOrAll names = source.model.select names := by
    simp [selectOrAll, hne]
  rw [generate, hselect]
  cases hs : source.model.select names with
  | ok types =>
    have hnames := select_eq_ok_iff.mp hs
    obtain ⟨fs, hfs, hselected⟩ := h.fragments_selected (mapM_eq_ok_iff.mp hlist) hnames
    have hrun : g.fragments types = .ok ⟨fs⟩ := by
      rw [Generator.fragments, hfs]
      rfl
    change SelectionOf _ _ _ (g.fragments types)
    rw [hrun]
    refine ⟨⟨fun _ name hm => ?_, fun _ => ⟨_, rfl⟩⟩, ?_, ?_⟩
    · have hboth := hnames.imp fun _ t ht => And.intro (Exists.intro t ht) ht
      exact ((List.forall₂_and_left names types).mp hboth).1 name hm
    · rintro _ ⟨⟩
      exact hselected
    · rintro _ ⟨⟩
  | error e =>
    obtain ⟨before, name, after, rfl, hb, hn, rfl⟩ := select_eq_error hs
    refine ⟨⟨?_, fun hall => ?_⟩, ?_, ?_⟩
    · rintro ⟨_, ⟨⟩⟩
    · obtain ⟨t, ht⟩ := hall name (by simp)
      rw [hn] at ht
      cases ht
    · rintro _ ⟨⟩
    · rintro _ ⟨⟩
      exact ⟨before, name, after, rfl, hb, hn, rfl⟩

/-- If all types can be declared, a selection gives the same fragments, in the order of the names
and as often as they are named, or else fails for the first name that finds nothing. -/
theorem Documented.selection_agrees_with_all {source : Documented} {calls : List TypeDescriptor}
    (hm : source.model = afterCalls calls) {names : List String} (hne : names ≠ []) :
    (∀ templates settings all, source.declare templates settings [] = .ok all →
      SelectionOf source.model all names (source.declare templates settings names)) ∧
    ∀ g all, source.generate g [] = .ok all →
      SelectionOf source.model all names (source.generate g names) := by
  have h : Indexed source.model := hm ▸ indexed_afterCalls calls
  constructor
  · intro templates settings all hall
    exact generate_selection h hne hall
  · intro g all hall
    exact generate_selection h hne hall

/-- Two types share a simple name, and one call repeats a full name. -/
def orderCalls : List TypeDescriptor :=
  [⟨⟨some "A", "Item"⟩, [⟨"Next", .nullable (.reference ⟨some "A", "Item"⟩)⟩]⟩,
    ⟨⟨some "B", "Item"⟩, []⟩, ⟨⟨some "A", "Item"⟩, []⟩,
    ⟨⟨some "B", "Order"⟩, [⟨"Items", .array (.reference ⟨some "B", "Item"⟩)⟩]⟩]

def orderSource : Documented := ⟨afterCalls orderCalls, .empty⟩

theorem orders_selection_agrees :
    ∃ all, orderSource.declare .standard {} [] = .ok all ∧
      all.list.map Fragment.id = ["A.Item", "B.Item", "B.Order"] ∧
      SelectionOf orderSource.model all ["Order", "A.Item", "Order"]
        (orderSource.declare .standard {} ["Order", "A.Item", "Order"]) ∧
      SelectionOf orderSource.model all ["Order", "Item"]
        (orderSource.generate (.make .standard Documentation.silent {}) ["Order", "Item"]) := by
  refine ⟨_, rfl, rfl, ?_, ?_⟩
  · exact (@Documented.selection_agrees_with_all orderSource orderCalls rfl _ (by simp)).1 _ _ _ rfl
  · exact (@Documented.selection_agrees_with_all orderSource orderCalls rfl _ (by simp)).2 _ _ rfl

end TypeModel

end Typescribe
