import Mathlib
import Typescribe.Proofs.Dependencies
import Typescribe.Proofs.Except
import Typescribe.Rendering

/-!
# Types that are not resolved, under both policies

`erase` puts `any` for every expression that stands for no type. Rendering with `any` for them is
rendering the erased type, and rendering without fails for the first of them in preorder. Positions
are those of `At`, so that keys of maps do not count.
-/
namespace Typescribe.TypeExpr

mutual

def erase : TypeExpr → TypeExpr
  | .scalar kind => .scalar kind
  | .any => .any
  | .reference name => .reference name
  | .array element => .array element.erase
  | .map key value => .map key.erase value.erase
  | .nullable inner => .nullable inner.erase
  | .generic _ [] => .any
  | .generic definition (a :: as) => .generic definition (eraseAll (a :: as))
  | .parameter _ => .any
  | .unresolved _ => .any

def eraseAll : List TypeExpr → List TypeExpr
  | [] => []
  | t :: ts => t.erase :: eraseAll ts

end

/-- An expression that stands for no type by itself, and how a failure tells it. -/
inductive IsUnresolved : TypeExpr → UnresolvedType → Prop
  | noArguments (definition : TypeName) :
      IsUnresolved (.generic definition []) ⟨definition.fullName, .noArguments⟩
  | parameter (name : String) : IsUnresolved (.parameter name) ⟨name, .unboundParameter⟩
  | unresolved (description : String) :
      IsUnresolved (.unresolved description) ⟨description, .notResolved⟩

def UnresolvedAt (t : TypeExpr) (p : List ℕ) (cause : UnresolvedType) : Prop :=
  ∃ u, At t p u ∧ IsUnresolved u cause

def IsResolved (t : TypeExpr) : Prop :=
  ∀ p cause, ¬ UnresolvedAt t p cause

/-- The cause stands before all others in preorder. -/
def FirstUnresolved (t : TypeExpr) (cause : UnresolvedType) : Prop :=
  ∃ p, UnresolvedAt t p cause ∧ ∀ q other, UnresolvedAt t q other → p ≤ q

/-- Induction with the hypothesis for every argument of a generic type. -/
@[elab_as_elim]
theorem nested_induction {motive : TypeExpr → Prop} (scalar : ∀ kind, motive (.scalar kind))
    (reference : ∀ name, motive (.reference name)) (array : ∀ e, motive e → motive (.array e))
    (map : ∀ k v, motive k → motive v → motive (.map k v))
    (nullable : ∀ i, motive i → motive (.nullable i))
    (generic : ∀ d as, (∀ a ∈ as, motive a) → motive (.generic d as))
    (parameter : ∀ name, motive (.parameter name))
    (unresolved : ∀ description, motive (.unresolved description)) (any : motive .any)
    (t : TypeExpr) : motive t := by
  apply @TypeExpr.rec motive (fun as => ∀ a ∈ as,
    motive a) scalar reference array map nullable generic parameter
    unresolved any
  · intro a ha
    cases ha
  · intro t ts ht hts a ha
    rcases List.mem_cons.mp ha with rfl | ha
    · exact ht
    · exact hts a ha

lemma spellAll_erase {ts : List TypeExpr} (h : ∀ t ∈ ts, t.erase.spell .fail = t.spell .any) :
    spellAll .fail (eraseAll ts) = spellAll .any ts := by
  induction ts with
  | nil => rfl
  | cons t ts ih =>
    have ht := h t (by simp)
    have hts := ih fun u hu => h u (by simp [hu])
    simp only [eraseAll, spellAll, ht, hts]

lemma indexKey_erase (key : TypeExpr) : Rendering.indexKey key.erase = Rendering.indexKey key := by
  cases key with
  | generic d as => cases as <;> rfl
  | _ => simp [erase, Rendering.indexKey]

lemma spell_erase (t : TypeExpr) : t.erase.spell .fail = t.spell .any := by
  induction t using nested_induction with
  | scalar | reference | parameter | unresolved | any => rfl
  | array e ih => simp only [erase, spell, ih]
  | map k v _ ih => simp only [erase, spell, ih, Rendering.mapOf, indexKey_erase]
  | nullable i ih => simp only [erase, spell, ih]
  | generic d as ih =>
    cases as with
    | nil => rfl
    | cons a as =>
      have hs := spellAll_erase ih
      simp only [eraseAll] at hs
      simp only [erase, eraseAll, spell, hs]

lemma spellAll_any {ts : List TypeExpr} (h : ∀ t ∈ ts, ∃ r, t.spell .any = .ok r) :
    ∃ rs, spellAll .any ts = .ok rs := by
  induction ts with
  | nil => exact ⟨[], rfl⟩
  | cons t ts ih =>
    obtain ⟨r, hr⟩ := h t (by simp)
    obtain ⟨rs, hrs⟩ := ih fun u hu => h u (by simp [hu])
    refine ⟨r :: rs, ?_⟩
    rw [spellAll, hr, hrs]
    rfl

lemma spell_any (t : TypeExpr) : ∃ r, t.spell .any = .ok r := by
  induction t using nested_induction with
  | scalar | reference | parameter | unresolved | any => exact ⟨_, rfl⟩
  | array e ih | map _ e _ ih | nullable e ih =>
    obtain ⟨r, hr⟩ := ih
    rw [spell, hr]
    exact ⟨_, rfl⟩
  | generic d as ih =>
    cases as with
    | nil => exact ⟨_, rfl⟩
    | cons a as =>
      obtain ⟨rs, hrs⟩ := spellAll_any ih
      rw [spell, hrs]
      exact ⟨_, rfl⟩

/-- The expression with a number directly below another, as positions count. -/
inductive Child : TypeExpr → ℕ → TypeExpr → Prop
  | element (e : TypeExpr) : Child (.array e) 0 e
  | value (k v : TypeExpr) : Child (.map k v) 1 v
  | inner (i : TypeExpr) : Child (.nullable i) 0 i
  | argument {d : TypeName} {as : List TypeExpr} {n : ℕ} {a : TypeExpr} (h : as[n]? = some a) :
      Child (.generic d as) n a

lemma unresolvedAt_cases {t : TypeExpr} {p : List ℕ} {cause : UnresolvedType}
    (h : UnresolvedAt t p cause) :
    IsUnresolved t cause ∨ ∃ n q u, p = n :: q ∧ Child t n u ∧ UnresolvedAt u q cause := by
  obtain ⟨v, hv, hc⟩ := h
  cases hv with
  | here => exact .inl hc
  | element hv => exact .inr ⟨_, _, _, rfl, .element _, v, hv, hc⟩
  | value hv => exact .inr ⟨_, _, _, rfl, .value _ _, v, hv, hc⟩
  | inner hv => exact .inr ⟨_, _, _, rfl, .inner _, v, hv, hc⟩
  | argument ha hv => exact .inr ⟨_, _, _, rfl, .argument ha, v, hv, hc⟩

lemma Child.unresolvedAt {t u : TypeExpr} {n : ℕ} {q : List ℕ} {cause : UnresolvedType}
    (hu : Child t n u) (h : UnresolvedAt u q cause) : UnresolvedAt t (n :: q) cause := by
  obtain ⟨v, hv, hc⟩ := h
  cases hu with
  | element => exact ⟨v, .element hv, hc⟩
  | value => exact ⟨v, .value hv, hc⟩
  | inner => exact ⟨v, .inner hv, hc⟩
  | argument ha => exact ⟨v, .argument ha hv, hc⟩

lemma isResolved_of_children {t : TypeExpr} (ht : ∀ cause, ¬ IsUnresolved t cause)
    (hc : ∀ n u, Child t n u → IsResolved u) : IsResolved t := by
  intro p cause hp
  rcases unresolvedAt_cases hp with h | ⟨n, q, u, -, hu, hq⟩
  · exact ht cause h
  · exact hc n u hu q cause hq

/-- The first child that is not resolved has the first cause. -/
lemma firstUnresolved_of_child {t u : TypeExpr} {n : ℕ} {cause : UnresolvedType}
    (ht : ∀ cause, ¬ IsUnresolved t cause) (hu : Child t n u)
    (hc : ∀ m v, Child t m v → IsResolved v ∨ m = n ∧ v = u ∨ n < m) (h : FirstUnresolved u cause) :
    FirstUnresolved t cause := by
  obtain ⟨p, hp, hfirst⟩ := h
  refine ⟨n :: p, hu.unresolvedAt hp, fun q other hq => ?_⟩
  rcases unresolvedAt_cases hq with h | ⟨m, q, v, rfl, hv, hq⟩
  · exact absurd h (ht other)
  · rcases hc m v hv with hr | ⟨rfl, rfl⟩ | hlt
    · exact absurd hq (hr q other)
    · exact List.cons_le_cons m (hfirst q other hq)
    · exact le_of_lt (List.Lex.rel hlt)

/-- What spelling without a stand-in gives: the spelling with one where nothing is needed, or else
the first cause. -/
inductive Spelled (t : TypeExpr) : Except UnresolvedType Rendering → Prop
  | resolved {r : Rendering} (ht : IsResolved t) (hr : t.spell .any = .ok r) : Spelled t (.ok r)
  | failed {cause : UnresolvedType} (h : FirstUnresolved t cause) : Spelled t (.error cause)

lemma spelled_unresolved {t : TypeExpr} {cause : UnresolvedType} (h : IsUnresolved t cause) :
    Spelled t (.error cause) :=
  .failed ⟨[], ⟨t, .here t, h⟩, fun q _ _ => not_lt.mp (List.not_lt_nil q)⟩

lemma Spelled.wrap {t u : TypeExpr} {n : ℕ} {f : Rendering → Rendering}
    (ht : ∀ cause, ¬ IsUnresolved t cause) (hu : Child t n u)
    (hc : ∀ m v, Child t m v → m = n ∧ v = u)
    (hs : ∀ policy, t.spell policy = u.spell policy >>= fun r => pure (f r))
    (h : Spelled u (u.spell .fail)) : Spelled t (t.spell .fail) := by
  rw [hs]
  generalize hx : u.spell .fail = x at h
  cases h with
  | @resolved r hr ha =>
    refine .resolved (isResolved_of_children ht fun m v hv => ?_) (by rw [hs, ha]; rfl)
    obtain ⟨-, rfl⟩ := hc m v hv
    exact hr
  | failed hf =>
    exact .failed (firstUnresolved_of_child ht hu (fun m v hv => .inr (.inl (hc m v hv))) hf)

/-- Siblings are spelled up to the first that fails. -/
lemma spellAll_fail_cases {ts : List TypeExpr} (h : ∀ t ∈ ts, Spelled t (t.spell .fail)) :
    (∃ rs, spellAll .fail ts = .ok rs ∧ spellAll .any ts = .ok rs ∧ ∀ t ∈ ts, IsResolved t) ∨
      ∃ before t after cause, ts = before ++ t :: after ∧ (∀ u ∈ before, IsResolved u) ∧
        FirstUnresolved t cause ∧
        spellAll .fail ts = .error cause := by
  induction ts with
  | nil => exact .inl ⟨[], rfl, rfl, by simp⟩
  | cons t ts ih =>
    have ht := h t (by simp)
    generalize hx : t.spell .fail = x at ht
    cases ht with
    | failed hf => exact .inr ⟨[], t, ts, _, rfl, by simp, hf, by rw [spellAll, hx]; rfl⟩
    | @resolved r hres hr =>
      rcases ih fun u hu =>
        h u (by simp [hu]) with
          ⟨rs, hfail, hany, hall⟩ | ⟨before, u, after, cause, he, hb, hf, hfail⟩
      · refine .inl ⟨r :: rs, by rw [spellAll, hx, hfail]; rfl, by rw [spellAll, hr, hany]; rfl, ?_⟩
        simpa using ⟨hres, hall⟩
      · refine .inr ⟨t :: before, u, after, cause, by rw [he]; rfl, ?_, hf,
          by rw [spellAll, hx, hfail]; rfl⟩
        simpa using ⟨hres, hb⟩

lemma firstUnresolved_generic {d : TypeName} {before after : List TypeExpr} {t : TypeExpr}
    {cause : UnresolvedType} (hb : ∀ u ∈ before, IsResolved u) (ht : FirstUnresolved t cause) :
    FirstUnresolved (.generic d (before ++ t :: after)) cause := by
  have hchild : Child (.generic d (before ++ t :: after)) before.length t := .argument (by simp)
  refine firstUnresolved_of_child (fun cause h => ?_) hchild (fun m v hv => ?_) ht
  · generalize has : before ++ t :: after = as at h
    cases h
    simp at has
  · cases hv with
    | argument hv =>
      rcases Nat.lt_trichotomy m before.length with hlt | rfl | hgt
      · rw [List.getElem?_append_left hlt] at hv
        exact .inl (hb v (List.mem_of_getElem? hv))
      · rw [List.getElem?_append_right le_rfl, Nat.sub_self] at hv
        exact .inr (.inl ⟨rfl, (Option.some.inj hv).symm⟩)
      · exact .inr (.inr hgt)

theorem spelled_spell (t : TypeExpr) : Spelled t (t.spell .fail) := by
  induction t using nested_induction with
  | scalar | reference | any =>
    refine .resolved (isResolved_of_children ?_ ?_) rfl
    · rintro cause ⟨⟩
    · rintro n u ⟨⟩
  | array e ih =>
    refine ih.wrap ?_ (.element e) ?_ fun _ => rfl
    · rintro cause ⟨⟩
    · rintro m v ⟨⟩
      exact ⟨rfl, rfl⟩
  | map k v _ ih =>
    refine ih.wrap ?_ (.value k v) ?_ fun _ => rfl
    · rintro cause ⟨⟩
    · rintro m v ⟨⟩
      exact ⟨rfl, rfl⟩
  | nullable i ih =>
    refine ih.wrap ?_ (.inner i) ?_ fun _ => rfl
    · rintro cause ⟨⟩
    · rintro m v ⟨⟩
      exact ⟨rfl, rfl⟩
  | parameter name => exact spelled_unresolved (.parameter name)
  | unresolved description => exact spelled_unresolved (.unresolved description)
  | generic d as ih =>
    cases as with
    | nil => exact spelled_unresolved (.noArguments d)
    | cons a as =>
      rw [spell]
      rcases spellAll_fail_cases ih with
        ⟨rs, hfail, hany, hall⟩ | ⟨before, t, after, cause, he, hb, ht, hfail⟩
      · rw [hfail]
        refine .resolved (isResolved_of_children ?_ ?_) (by rw [spell, hany]; rfl)
        · rintro cause ⟨⟩
        · rintro n u ⟨⟩
          exact hall u (List.mem_of_getElem? ‹_›)
      · rw [hfail, he]
        exact .failed (firstUnresolved_generic hb ht)

lemma FirstUnresolved.not_isResolved {t : TypeExpr} {cause : UnresolvedType}
    (h : FirstUnresolved t cause) : ¬ IsResolved t := by
  obtain ⟨p, hp, -⟩ := h
  exact fun hr => hr p cause hp

lemma At.unique {t u v : TypeExpr} {p : List ℕ} (hu : At t p u) (hv : At t p v) : u = v := by
  induction hu with
  | here => cases hv; rfl
  | element _ ih | value _ ih | inner _ ih =>
    cases hv with
    | _ hv => exact ih hv
  | argument ha _ ih =>
    cases hv with
    | argument hb hv =>
      cases ha.symm.trans hb
      exact ih hv

lemma IsUnresolved.unique {t : TypeExpr} {cause other : UnresolvedType} (h : IsUnresolved t cause)
    (g : IsUnresolved t other) : cause = other := by
  cases h <;> cases g <;> rfl

lemma FirstUnresolved.unique {t : TypeExpr} {cause other : UnresolvedType}
    (h : FirstUnresolved t cause) (g : FirstUnresolved t other) : cause = other := by
  obtain ⟨p, ⟨u, hu, hc⟩, hp⟩ := h
  obtain ⟨q, ⟨v, hv, ho⟩, hq⟩ := g
  obtain rfl : p = q := le_antisymm (hp q other ⟨v, hv, ho⟩) (hq p cause ⟨u, hu, hc⟩)
  obtain rfl := hu.unique hv
  exact hc.unique ho

/-- With `any` for what is not resolved, rendering succeeds and renders the erased type. Without, it
gives the same where all is resolved, and else fails for the first that is not. -/
theorem policies_agree_up_to_erasure (t : TypeExpr) :
    (∃ r, t.render .any = .ok r ∧ t.erase.render .fail = .ok r) ∧
    ((∃ r, t.render .fail = .ok r) ↔ IsResolved t) ∧
    (∀ r, t.render .fail = .ok r → t.render .any = .ok r) ∧
    ∀ cause, t.render .fail = .error cause ↔ FirstUnresolved t cause := by
  obtain ⟨r, hr⟩ := spell_any t
  have hany : t.render .any = .ok ⟨r.text, FragmentId.distinct r.dependencies⟩ := by
    rw [render, hr]
    rfl
  refine ⟨⟨_, hany, ?_⟩, ?_⟩
  · rw [render, spell_erase, hr]
    rfl
  have hs := spelled_spell t
  generalize hx : t.spell .fail = x at hs
  cases hs with
  | resolved ht hs =>
    have hfail : t.render .fail = t.render .any := by
      rw [render, render, hx, hs]
    rw [hfail, hany]
    refine ⟨⟨fun _ => ht, fun _ => ⟨_, rfl⟩⟩, fun _ h => h,
      fun cause => ⟨?_, fun h => absurd ht h.not_isResolved⟩⟩
    rintro ⟨⟩
  | @failed cause hf =>
    have hfail : t.render .fail = .error cause := by
      rw [render, hx]
      rfl
    rw [hfail]
    refine ⟨⟨?_, fun h => absurd h hf.not_isResolved⟩, ?_, fun other => ⟨?_, fun h => ?_⟩⟩
    · rintro ⟨_, ⟨⟩⟩
    · rintro _ ⟨⟩
    · rintro ⟨⟩
      exact hf
    · rw [hf.unique h]

end Typescribe.TypeExpr
