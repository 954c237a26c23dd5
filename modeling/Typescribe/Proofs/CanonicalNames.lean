import Mathlib
import Typescribe.Documentation
import Typescribe.Fragment
import Typescribe.Proofs.TypeNames

/-!
# Names that can be told apart

Full names identify fragments, and documentation keys are made of them. On names whose parts can be
found again in the full name both are free of clashes, and every text but a dot in front of text
without dots is the identity of one such name.
-/
namespace Typescribe

namespace TypeName

/-- The parts can be found again in the full name. -/
structure IsCanonical (t : TypeName) : Prop where
  dot_notMem : '.' ∉ t.simple.toList
  qualifier_ne : t.qualifier ≠ some ""

lemma isCanonical_iff {t : TypeName} : t.IsCanonical ↔ parse t.fullName = t := by
  rw [parse_fullName_eq_iff]
  exact ⟨fun h => ⟨h.dot_notMem, h.qualifier_ne⟩, fun h => ⟨h.1, h.2⟩⟩

lemma isCanonical_parse (s : String) : (parse s).IsCanonical :=
  ⟨dot_notMem_parse s, qualifier_parse_ne s⟩

/-- A dot in front is lost if it is the only one. -/
lemma fullName_parse_eq_iff (s : String) : (parse s).fullName = s ↔ ¬ IsLoneDotFirst s := by
  refine ⟨?_, fullName_parse⟩
  rintro h ⟨rest, hs, hn⟩
  have hcut : s.toList = [] ++ '.' :: rest := hs
  have hp : parse s = ⟨none, String.ofList rest⟩ := by
    rw [parse_of_append hcut hn]
    rfl
  have hl : rest = '.' :: rest := by
    rw [← hs, ← h, hp, fullName, String.toList_ofList]
  have := congrArg List.length hl
  simp at this

lemma IsCanonical.not_isLoneDotFirst {t : TypeName} (h : t.IsCanonical) :
    ¬ IsLoneDotFirst t.fullName := by
  rw [← fullName_parse_eq_iff, isCanonical_iff.mp h]

end TypeName

lemma FragmentId.injOn_ofType : Set.InjOn ofType {t | t.IsCanonical} := by
  intro a ha b hb h
  calc a = .parse a.fullName := (TypeName.isCanonical_iff.mp ha).symm
    _ = .parse b.fullName := congrArg TypeName.parse h
    _ = b := TypeName.isCanonical_iff.mp hb

lemma FragmentId.bijOn_ofType :
    Set.BijOn ofType {t | t.IsCanonical} {id | ¬ TypeName.IsLoneDotFirst id} := by
  refine ⟨fun t ht => ht.not_isLoneDotFirst, injOn_ofType, fun id hid => ?_⟩
  exact ⟨.parse id, TypeName.isCanonical_parse id, TypeName.fullName_parse hid⟩

namespace Member

/-- The type and, of a property, its own name can be found again in the key. -/
def IsCanonical : Member → Prop
  | .type name => name.IsCanonical
  | .property declaring name => declaring.IsCanonical ∧ '.' ∉ name.toList

lemma toList_key_type (name : TypeName) :
    (type name).key.toList = 'T' :: ':' :: name.fullName.toList := by
  simp [key]

lemma toList_key_property (declaring : TypeName) (name : String) :
    (property declaring name).key.toList = 'P' :: ':' ::
      (declaring.fullName.toList ++ '.' :: name.toList) := by
  simp [key]

lemma key_type_ne_key_property (t declaring : TypeName) (name : String) :
    (type t).key ≠ (property declaring name).key := by
  intro h
  have hl := congrArg String.toList h
  rw [toList_key_type, toList_key_property] at hl
  exact absurd (List.cons.inj hl).1 (by decide)

lemma fullName_eq_of_key_type {a b : TypeName} (h : (type a).key = (type b).key) :
    a.fullName = b.fullName := by
  have hl := congrArg String.toList h
  rw [toList_key_type, toList_key_type] at hl
  simpa [String.toList_inj] using hl

/-- The last dot of the key stands in front of the property's name. -/
lemma parts_eq_of_key_property {d e : TypeName} {m n : String} (hm : '.' ∉ m.toList)
    (hn : '.' ∉ n.toList) (h : (property d m).key = (property e n).key) :
    d.fullName = e.fullName ∧ m = n := by
  have hl := congrArg String.toList h
  rw [toList_key_property, toList_key_property] at hl
  have hk : d.fullName.toList ++ '.' :: m.toList = e.fullName.toList ++ '.' :: n.toList := by
    simpa using hl
  have hs := congrArg (Text.splitLast '.') hk
  rw [Text.splitLast_append _ hm, Text.splitLast_append _ hn] at hs
  simpa [String.toList_inj] using hs

lemma injOn_key : Set.InjOn key {m | m.IsCanonical} := by
  intro a ha b hb h
  cases a with
  | type s =>
    cases b with
    | type t =>
      have hst : s = t := FragmentId.injOn_ofType ha hb (fullName_eq_of_key_type h)
      rw [hst]
    | property e n => exact absurd h (key_type_ne_key_property s e n)
  | property d m =>
    cases b with
    | type t => exact absurd h.symm (key_type_ne_key_property t d m)
    | property e n =>
      obtain ⟨hf, hmn⟩ := parts_eq_of_key_property ha.2 hb.2 h
      have hde : d = e := FragmentId.injOn_ofType ha.1 hb.1 hf
      rw [hde, hmn]

end Member

namespace TypeName

/-- Cutting and joining full names undo each other exactly where nothing is lost, so fragments and
documented members with canonical names never share an identity. -/
theorem canonical_names_unambiguous :
    (∀ s, (parse s).fullName = s ↔ ¬ IsLoneDotFirst s) ∧
    (∀ t, parse t.fullName = t ↔ '.' ∉ t.simple.toList ∧ t.qualifier ≠ some "") ∧
    Set.BijOn FragmentId.ofType {t | t.IsCanonical} {id | ¬ IsLoneDotFirst id} ∧
    Set.InjOn Member.key {m | m.IsCanonical} ∧
    ∀ t declaring name, (Member.type t).key ≠ (Member.property declaring name).key :=
  ⟨fullName_parse_eq_iff, parse_fullName_eq_iff, FragmentId.bijOn_ofType, Member.injOn_key,
    Member.key_type_ne_key_property⟩

end TypeName

end Typescribe
