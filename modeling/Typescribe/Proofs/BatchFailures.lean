import Mathlib
import Typescribe.Declaration
import Typescribe.Proofs.Except
import Typescribe.Proofs.UnresolvedTypes

/-!
# When a run fails, and for what

A run has two nested loops, over types and over the properties of a type, and three causes of
failure: a type that is not resolved, no template for a property, and no template for a declaration.
`PropertyFault` and `TypeFault` say which of them is told. Both name what is wrong with the input
and not how the loops come upon it.
-/
namespace Typescribe

namespace TypeExpr

/-- Nothing has to be resolved, or all is. -/
def Renders (policy : UnresolvedPolicy) (t : TypeExpr) : Prop :=
  policy = .any ∨ t.IsResolved

/-- Rendering fails only without a stand-in, and then for the first that is not resolved. -/
lemma render_eq_error_iff {policy : UnresolvedPolicy} {t : TypeExpr} {cause : UnresolvedType} :
    t.render policy = .error cause ↔ policy = .fail ∧ t.FirstUnresolved cause := by
  cases policy with
  | any =>
    obtain ⟨r, hr⟩ := t.spell_any
    simp [render, hr, bind, Except.bind, pure, Except.pure]
  | fail =>
    have hs := t.spelled_spell
    rw [render]
    generalize t.spell .fail = x at hs
    cases hs with
    | resolved ht _ =>
      constructor
      · intro h
        cases h
      · intro h
        exact absurd ht h.2.not_isResolved
    | failed hf =>
      constructor
      · intro h
        cases h
        exact ⟨rfl, hf⟩
      · intro h
        rw [hf.unique h.2]
        rfl

lemma FirstUnresolved.exists_of_not_isResolved {t : TypeExpr} (h : ¬ t.IsResolved) :
    ∃ cause, t.FirstUnresolved cause := by
  have hs := t.spelled_spell
  generalize t.spell .fail = x at hs
  cases hs with
  | resolved ht _ => exact absurd ht h
  | failed hf => exact ⟨_, hf⟩

lemma renders_iff {policy : UnresolvedPolicy} {t : TypeExpr} :
    t.Renders policy ↔ ∀ cause, t.render policy ≠ .error cause := by
  simp only [ne_eq, render_eq_error_iff, Renders]
  cases policy with
  | any => simp
  | fail =>
    simp only [reduceCtorEq, false_or, true_and]
    constructor
    · exact fun ht cause hc => hc.not_isResolved ht
    · intro h
      by_contra ht
      obtain ⟨cause, hc⟩ := FirstUnresolved.exists_of_not_isResolved ht
      exact h cause hc

end TypeExpr

lemma Templates.fill_eq_error_iff {templates : Templates} {name : String}
    {substitutions : Dictionary String} {e : Error} :
    templates.fill name substitutions = .error e ↔
      templates.contains name = false ∧ .missingTemplate name = e := by
  rw [fill, Dictionary.contains]
  cases templates.get? name with
  | none => simp
  | some text => simp

/-- Why a property has no text. That its type is not resolved comes before that its template is
missing. -/
inductive PropertyFault (templates : Templates) (policy : UnresolvedPolicy) (owner : TypeName)
    (p : Property) : Error → Prop
  | unresolved {cause : UnresolvedType} (hp : policy = .fail) (hc : p.type.FirstUnresolved cause) :
      PropertyFault templates policy owner p (.property owner.fullName p.name cause)
  | noTemplate (hr : p.type.Renders policy)
      (ht : templates.contains Templates.propertyName = false) :
      PropertyFault templates policy owner p (.missingTemplate Templates.propertyName)

/-- Why a type has no fragment: the fault of its first property that has one, or else that the
template of declarations is missing. -/
inductive TypeFault (templates : Templates) (policy : UnresolvedPolicy)
    (t : TypeDescriptor) : Error → Prop
  | property {before after : List Property} {p : Property} {e : Error}
      (hs : t.properties = before ++ p :: after)
      (hb : ∀ q ∈ before, ∀ e', ¬ PropertyFault templates policy t.name q e')
      (hp : PropertyFault templates policy t.name p e) : TypeFault templates policy t e
  | noTemplate (hp : ∀ p ∈ t.properties, ∀ e', ¬ PropertyFault templates policy t.name p e')
      (ht : templates.contains Templates.declarationName = false) :
      TypeFault templates policy t (.missingTemplate Templates.declarationName)

variable {templates : Templates} {documentation : DocumentationSource} {settings : Settings}

lemma not_propertyFault_iff {policy : UnresolvedPolicy} {owner : TypeName} {p : Property} :
    (∀ e, ¬ PropertyFault templates policy owner p e) ↔
      p.type.Renders policy ∧ templates.contains Templates.propertyName = true := by
  constructor
  · intro h
    have hr : p.type.Renders policy := by
      rw [TypeExpr.renders_iff]
      intro cause hc
      obtain ⟨hp, hf⟩ := TypeExpr.render_eq_error_iff.mp hc
      exact h _ (.unresolved hp hf)
    refine ⟨hr, ?_⟩
    by_contra ht
    exact h _ (.noTemplate hr (by simpa using ht))
  · intro h e he
    cases he with
    | unresolved hp hc =>
      exact TypeExpr.renders_iff.mp h.1 _ (TypeExpr.render_eq_error_iff.mpr ⟨hp, hc⟩)
    | noTemplate _ ht => simp [h.2] at ht

namespace Generator

lemma property_eq_error_iff {owner : TypeName} {p : Property} {e : Error} :
    (make templates documentation settings).property owner p = .error e ↔
      PropertyFault templates settings.unresolved owner p e := by
  rw [property, bind_eq_error_iff]
  cases hr : (make templates documentation settings).render p.type with
  | error cause =>
    obtain ⟨hp, hc⟩ := TypeExpr.render_eq_error_iff.mp hr
    constructor
    · rintro (h | ⟨_, h, -⟩) <;> cases h
      exact .unresolved hp hc
    · intro h
      cases h with
      | unresolved _ hc' =>
        rw [hc.unique hc']
        exact .inl rfl
      | noTemplate hr' _ => exact absurd hr (TypeExpr.renders_iff.mp hr' cause)
  | ok type =>
    have hrenders : p.type.Renders settings.unresolved := by
      rw [TypeExpr.renders_iff]
      intro cause hc
      cases hr.symm.trans hc
    constructor
    · rintro (h | ⟨_, h, hrest⟩) <;> cases h
      rcases bind_eq_error_iff.mp hrest with h | ⟨_, -, h⟩
      · obtain ⟨ht, rfl⟩ := Templates.fill_eq_error_iff.mp h
        exact .noTemplate hrenders ht
      · cases h
    · intro h
      refine .inr ⟨type, rfl, bind_eq_error_iff.mpr (.inl ?_)⟩
      cases h with
      | unresolved hp hc =>
        exact absurd (TypeExpr.render_eq_error_iff.mpr ⟨hp, hc⟩)
          (TypeExpr.renders_iff.mp hrenders _)
      | noTemplate _ ht => exact Templates.fill_eq_error_iff.mpr ⟨ht, rfl⟩

lemma property_succeeds_iff {owner : TypeName} {p : Property} :
    (∃ s, (make templates documentation settings).property owner p = .ok s) ↔
      ∀ e, ¬ PropertyFault templates settings.unresolved owner p e := by
  simp only [exists_ok_iff, ne_eq, property_eq_error_iff]

lemma declaration_eq_error_iff {name : TypeName} {properties : List String} {e : Error} :
    (make templates documentation settings).declaration name properties = .error e ↔
      templates.contains Templates.declarationName = false ∧
        .missingTemplate Templates.declarationName = e :=
  Templates.fill_eq_error_iff

lemma fragment_eq_error_iff {t : TypeDescriptor} {e : Error} :
    (make templates documentation settings).fragment t = .error e ↔
      TypeFault templates settings.unresolved t e := by
  rw [fragment, bind_eq_error_iff, mapM_eq_error_iff]
  simp only [property_succeeds_iff, property_eq_error_iff]
  constructor
  · rintro (⟨before, p, after, hs, hb, hp⟩ | ⟨snippets, hs, h⟩)
    · exact .property hs hb hp
    · have hp := mapM_succeeds_iff.mp ⟨snippets, hs⟩
      rcases bind_eq_error_iff.mp h with h | ⟨_, -, h⟩
      · obtain ⟨ht, rfl⟩ := declaration_eq_error_iff.mp h
        exact .noTemplate (fun p hm => property_succeeds_iff.mp (hp p hm)) ht
      · cases h
  · intro h
    cases h with
    | property hs hb hp => exact .inl ⟨_, _, _, hs, hb, hp⟩
    | noTemplate hp ht =>
      obtain ⟨snippets, hs⟩ := mapM_succeeds_iff.mpr fun p hm => property_succeeds_iff.mpr (hp p hm)
      exact .inr ⟨snippets, hs,
        bind_eq_error_iff.mpr (.inl (declaration_eq_error_iff.mpr ⟨ht, rfl⟩))⟩

lemma declaration_succeeds_iff {name : TypeName} {properties : List String} :
    (∃ code, (make templates documentation settings).declaration name properties = .ok code) ↔
      templates.contains Templates.declarationName = true := by
  simp [exists_ok_iff, declaration_eq_error_iff]

/-- A type has a fragment if each of its properties has a text and the template of declarations is
there. -/
lemma fragment_succeeds_iff {t : TypeDescriptor} :
    (∃ f, (make templates documentation settings).fragment t = .ok f) ↔
      templates.contains Templates.declarationName = true ∧
        ∀ p ∈ t.properties, p.type.Renders settings.unresolved ∧
          templates.contains Templates.propertyName = true := by
  constructor
  · rintro ⟨f, h⟩
    obtain ⟨snippets, hs, h⟩ := bind_eq_ok h
    obtain ⟨code, hc, -⟩ := bind_eq_ok h
    have hp := mapM_succeeds_iff.mp ⟨snippets, hs⟩
    exact ⟨declaration_succeeds_iff.mp ⟨code, hc⟩,
      fun p hm => not_propertyFault_iff.mp (property_succeeds_iff.mp (hp p hm))⟩
  · rintro ⟨hd, hp⟩
    have hproperties : ∀ p ∈ t.properties, ∃ s,
        (make templates documentation settings).property t.name p = .ok s :=
      fun p hm => property_succeeds_iff.mpr (not_propertyFault_iff.mpr (hp p hm))
    obtain ⟨snippets, hs⟩ := mapM_succeeds_iff.mpr hproperties
    have hdeclared : ∃ code,
      (make templates documentation settings).declaration t.name (snippets.map Snippet.text) =
        .ok code := declaration_succeeds_iff.mpr hd
    obtain ⟨code, hc⟩ := hdeclared
    rw [fragment, hs]
    change ∃ f, (declaration _ _ _ >>= _) = .ok f
    rw [hc]
    exact ⟨_, rfl⟩

lemma fragments_singleton_eq_error_iff {g : Generator} {t : TypeDescriptor} {e : Error} :
    g.fragments [t] = .error e ↔ g.fragment t = .error e := by
  cases h : g.fragment t with
  | error e' => simp [fragments, h, bind, Except.bind]
  | ok f => simp [fragments, h, bind, Except.bind, pure, Except.pure]

lemma fragments_eq_error_iff {g : Generator} {types : List TypeDescriptor} {e : Error} :
    g.fragments types = .error e ↔ types.mapM g.fragment = .error e := by
  rw [fragments, bind_eq_error_iff]
  simp [pure, Except.pure]

lemma fragments_succeed_iff {g : Generator} {types : List TypeDescriptor} :
    (∃ fs, g.fragments types = .ok fs) ↔ ∀ t ∈ types, ∃ f, g.fragment t = .ok f := by
  rw [← mapM_succeeds_iff]
  simp only [exists_ok_iff, ne_eq, fragments_eq_error_iff]

/-- What every type asks, told of the list as a whole: a template is asked for as soon as something
is to be written with it. -/
lemma forall_types_iff {types : List TypeDescriptor} {policy : UnresolvedPolicy}
    {declares writes : Prop} :
    (∀ t ∈ types, declares ∧ ∀ p ∈ t.properties, p.type.Renders policy ∧ writes) ↔
      (types = [] ∨ declares) ∧ ((∀ t ∈ types, t.properties = []) ∨ writes) ∧
        (policy = .any ∨ ∀ t ∈ types, ∀ p ∈ t.properties, p.type.IsResolved) := by
  constructor
  · intro h
    refine ⟨?_, ?_, ?_⟩
    · cases types with
      | nil => exact .inl rfl
      | cons t types => exact .inr (h t (by simp)).1
    · by_cases hw : writes
      · exact .inr hw
      · refine .inl fun t ht => List.eq_nil_iff_forall_not_mem.mpr fun p hp => ?_
        exact hw ((h t ht).2 p hp).2
    · by_cases ha : policy = .any
      · exact .inl ha
      · exact .inr fun t ht p hp => ((h t ht).2 p hp).1.resolve_left ha
  · rintro ⟨hd, hw, hr⟩ t ht
    refine ⟨hd.resolve_left (List.ne_nil_of_mem ht), fun p hp => ⟨?_, ?_⟩⟩
    · exact hr.imp id fun h => h t ht p hp
    · refine hw.resolve_left fun h => ?_
      rw [h t ht] at hp
      cases hp

/-- A run succeeds exactly if the templates that it uses are there and what it renders is resolved
or need not be. It fails for the first type that fails by itself, and a type by itself fails for the
fault that `TypeFault` tells. -/
theorem fragments_fail_for_first_fault (templates : Templates) (documentation : DocumentationSource)
    (settings : Settings) (types : List TypeDescriptor) :
    ((∃ fs, (make templates documentation settings).fragments types = .ok fs) ↔
      (types = [] ∨ templates.contains Templates.declarationName = true) ∧
      ((∀ t ∈ types, t.properties = []) ∨ templates.contains Templates.propertyName = true) ∧
      (settings.unresolved = .any ∨ ∀ t ∈ types, ∀ p ∈ t.properties, p.type.IsResolved)) ∧
    (∀ e, (make templates documentation settings).fragments types = .error e ↔
      ∃ before t after, types = before ++ t :: after ∧
        (∀ u ∈ before, ∃ fs, (make templates documentation settings).fragments [u] = .ok fs) ∧
        (make templates documentation settings).fragments [t] = .error e) ∧
    ∀ t e, (make templates documentation settings).fragments [t] = .error e ↔
      TypeFault templates settings.unresolved t e := by
  refine ⟨?_, fun e => ?_, fun t e => ?_⟩
  · simp only [fragments_succeed_iff, fragment_succeeds_iff, forall_types_iff]
  · rw [fragments_eq_error_iff, mapM_eq_error_iff]
    simp only [fragments_succeed_iff, fragments_singleton_eq_error_iff, List.forall_mem_singleton]
  · rw [fragments_singleton_eq_error_iff, fragment_eq_error_iff]

end Generator

end Typescribe
