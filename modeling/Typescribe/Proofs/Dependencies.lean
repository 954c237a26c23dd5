import Mathlib
import Typescribe.Declaration
import Typescribe.Proofs.Except

/-!
# Dependencies are the types that a type mentions

A mention has a position: the way down from the list of properties, each step by the number of the
child, so that the order of positions is the left-to-right preorder. `occurrences` lists the
mentions in this order, and the dependencies of a fragment are the first of each.
-/
namespace Typescribe

namespace FragmentId

lemma mem_distinct {x : FragmentId} {xs : List FragmentId} : x ∈ distinct xs ↔ x ∈ xs := by
  induction xs with
  | nil => rfl
  | cons y ys ih =>
    rw [distinct, List.mem_cons, List.mem_cons, List.mem_filter, ih]
    by_cases hxy : x = y <;> simp [hxy]

lemma distinct_eq_self {xs : List FragmentId} (h : xs.Nodup) : distinct xs = xs := by
  induction xs with
  | nil => rfl
  | cons x xs ih =>
    obtain ⟨hx, hxs⟩ := List.nodup_cons.mp h
    rw [distinct, ih hxs, List.filter_eq_self.mpr]
    intro y hy
    have hn : y ≠ x := fun he => hx (he ▸ hy)
    simpa using hn

lemma distinct_append (xs ys : List FragmentId) :
    distinct (xs ++ ys) = distinct xs ++ (distinct ys).filter fun y => !xs.contains y := by
  induction xs with
  | nil => simp [distinct]
  | cons x xs ih =>
    rw [List.cons_append, distinct, distinct, ih, List.filter_append, List.filter_filter,
      List.cons_append]
    congr 2
    apply List.filter_congr
    intro y _
    by_cases hy : y = x <;> simp [hy]

/-- Removing repetitions from the parts first changes nothing. -/
lemma distinct_append_distinct (xs ys zs : List FragmentId) (h : distinct ys = distinct zs) :
    distinct (distinct xs ++ ys) = distinct (xs ++ zs) := by
  rw [distinct_append, distinct_append, distinct_eq_self (nodup_distinct xs), h]
  congr 1
  apply List.filter_congr
  intro y _
  rw [Bool.eq_iff_iff]
  simp [mem_distinct]

/-- Of a sorted list of labelled items, the first item with an earlier label comes before every item
with a later one. -/
theorem distinct_pairwise {α : Type} {R : α → α → Prop} (label : α → FragmentId) {items : List α}
    (h : items.Pairwise R) :
    (distinct (items.map label)).Pairwise fun d e =>
      ∃ a ∈ items, label a = d ∧ ∀ b ∈ items, label b = e → R a b := by
  induction items with
  | nil => exact .nil
  | cons a items ih =>
    obtain ⟨ha, hs⟩ := List.pairwise_cons.mp h
    rw [List.map_cons, distinct, List.pairwise_cons]
    refine ⟨?_, ?_⟩
    · intro e he
      have hne : e ≠ label a := by simpa using (List.mem_filter.mp he).2
      refine ⟨a, by simp, rfl, fun b hb hbe => ?_⟩
      rcases List.mem_cons.mp hb with rfl | hb
      · exact absurd hbe.symm hne
      · exact ha b hb
    · refine ((ih hs).filter _).imp_of_mem fun {d e} _ he hde => ?_
      have hne : e ≠ label a := by simpa using (List.mem_filter.mp he).2
      obtain ⟨c, hc, hcd, hall⟩ := hde
      refine ⟨c, by simp [hc], hcd, fun b hb hbe => ?_⟩
      rcases List.mem_cons.mp hb with rfl | hb
      · exact absurd hbe.symm hne
      · exact hall b hb hbe

end FragmentId

namespace TypeExpr

/-- `At t p u`: at position `p` of `t` stands `u`. The key of a map is its child 0 and the value its
child 1; no position is inside a key. -/
inductive At : TypeExpr → List ℕ → TypeExpr → Prop
  | here (t : TypeExpr) : At t [] t
  | element {e u : TypeExpr} {p : List ℕ} (h : At e p u) : At (.array e) (0 :: p) u
  | value {k v u : TypeExpr} {p : List ℕ} (h : At v p u) : At (.map k v) (1 :: p) u
  | inner {i u : TypeExpr} {p : List ℕ} (h : At i p u) : At (.nullable i) (0 :: p) u
  | argument {d : TypeName} {as : List TypeExpr} {n : ℕ} {a u : TypeExpr} {p : List ℕ}
      (ha : as[n]? = some a) (h : At a p u) : At (.generic d as) (n :: p) u

/-- The fragment that an expression names by itself: a reference, or a generic type that is applied
to something. -/
inductive Names : TypeExpr → FragmentId → Prop
  | reference (name : TypeName) : Names (.reference name) (.ofType name)
  | generic (d : TypeName) (a : TypeExpr) (as : List TypeExpr) :
      Names (.generic d (a :: as)) (.ofType d)

/-- A position with the fragment that is named there. -/
abbrev Occurrence := List ℕ × FragmentId

def Occurrence.below (n : ℕ) (o : Occurrence) : Occurrence := (n :: o.1, o.2)

mutual

/-- What the expression names, in preorder. -/
def occurrences : TypeExpr → List Occurrence
  | .reference name => [([], .ofType name)]
  | .array element => element.occurrences.map (Occurrence.below 0)
  | .map _ value => value.occurrences.map (Occurrence.below 1)
  | .nullable inner => inner.occurrences.map (Occurrence.below 0)
  | .generic definition (a :: as) => ([], .ofType definition) :: occurrencesFrom 0 (a :: as)
  | _ => []

/-- The same for siblings, the first of which has the number `n`. -/
def occurrencesFrom (n : ℕ) : List TypeExpr → List Occurrence
  | [] => []
  | t :: ts => t.occurrences.map (Occurrence.below n) ++ occurrencesFrom (n + 1) ts

end

lemma mem_map_below {n : ℕ} {os : List Occurrence} {p : List ℕ} {d : FragmentId} :
    (p, d) ∈ os.map (Occurrence.below n) ↔ ∃ q, p = n :: q ∧ (q, d) ∈ os := by
  simp only [List.mem_map, Occurrence.below, Prod.mk.injEq, Prod.exists]
  constructor
  · rintro ⟨q, e, hq, rfl, rfl⟩
    exact ⟨q, rfl, hq⟩
  · rintro ⟨q, rfl, hq⟩
    exact ⟨q, d, hq, rfl, rfl⟩

mutual

theorem mem_occurrences (t : TypeExpr) {p : List ℕ} {d : FragmentId} :
    (p, d) ∈ t.occurrences ↔ ∃ u, At t p u ∧ Names u d := by
  match t with
  | .reference name =>
    simp only [occurrences, List.mem_singleton, Prod.mk.injEq]
    constructor
    · rintro ⟨rfl, rfl⟩
      exact ⟨_, .here _, .reference name⟩
    · rintro ⟨u, ⟨⟩, ⟨⟩⟩
      exact ⟨rfl, rfl⟩
  | .array e =>
    simp only [occurrences, mem_map_below, mem_occurrences e]
    constructor
    · rintro ⟨q, rfl, u, hu, hd⟩
      exact ⟨u, .element hu, hd⟩
    · rintro ⟨u, hu, hd⟩
      cases hu with
      | here => cases hd
      | element hu => exact ⟨_, rfl, u, hu, hd⟩
  | .map k v =>
    simp only [occurrences, mem_map_below, mem_occurrences v]
    constructor
    · rintro ⟨q, rfl, u, hu, hd⟩
      exact ⟨u, .value hu, hd⟩
    · rintro ⟨u, hu, hd⟩
      cases hu with
      | here => cases hd
      | value hu => exact ⟨_, rfl, u, hu, hd⟩
  | .nullable i =>
    simp only [occurrences, mem_map_below, mem_occurrences i]
    constructor
    · rintro ⟨q, rfl, u, hu, hd⟩
      exact ⟨u, .inner hu, hd⟩
    · rintro ⟨u, hu, hd⟩
      cases hu with
      | here => cases hd
      | inner hu => exact ⟨_, rfl, u, hu, hd⟩
  | .generic def_ [] =>
    simp only [occurrences, List.not_mem_nil, false_iff]
    rintro ⟨u, hu, hd⟩
    cases hu with
    | here => cases hd
    | argument ha => simp at ha
  | .generic def_ (a :: as) =>
    simp only [occurrences, List.mem_cons, Prod.mk.injEq, mem_occurrencesFrom]
    constructor
    · rintro (⟨rfl, rfl⟩ | ⟨i, q, b, u, rfl, hb, hu, hd⟩)
      · exact ⟨_, .here _, .generic def_ a as⟩
      · exact ⟨u, .argument (by simpa using hb) hu, hd⟩
    · rintro ⟨u, hu, hd⟩
      cases hu with
      | here =>
        cases hd
        exact .inl ⟨rfl, rfl⟩
      | @argument _ _ n b _ q ha hu => exact .inr ⟨n, q, b, u, by simp, ha, hu, hd⟩
  | .scalar _ | .any | .parameter _ | .unresolved _ =>
    simp only [occurrences, List.not_mem_nil, false_iff]
    rintro ⟨u, ⟨⟩, ⟨⟩⟩

theorem mem_occurrencesFrom {n : ℕ} (ts : List TypeExpr) {p : List ℕ} {d : FragmentId} :
    (p, d) ∈ occurrencesFrom n ts ↔
      ∃ i q t u, p = (n + i) :: q ∧ ts[i]? = some t ∧ At t q u ∧ Names u d := by
  match ts with
  | [] => simp [occurrencesFrom]
  | t :: ts =>
    simp only [occurrencesFrom, List.mem_append, mem_map_below, mem_occurrences t,
      mem_occurrencesFrom ts]
    constructor
    · rintro (⟨q, rfl, u, hu, hd⟩ | ⟨i, q, b, u, rfl, hb, hu, hd⟩)
      · exact ⟨0, q, t, u, rfl, rfl, hu, hd⟩
      · exact ⟨i + 1, q, b, u, by rw [Nat.add_right_comm, Nat.add_assoc], by simpa using hb, hu, hd⟩
    · rintro ⟨i, q, b, u, rfl, hb, hu, hd⟩
      cases i with
      | zero =>
        cases hb
        exact .inl ⟨q, rfl, u, hu, hd⟩
      | succ i =>
        exact .inr ⟨i, q, b, u, by rw [Nat.add_right_comm, Nat.add_assoc], by simpa using hb, hu,
          hd⟩

end

def Occurrence.Before (a b : Occurrence) : Prop := a.1 < b.1

lemma pairwise_below {n : ℕ} {os : List Occurrence} (h : os.Pairwise Occurrence.Before) :
    (os.map (Occurrence.below n)).Pairwise Occurrence.Before := by
  rw [List.pairwise_map]
  exact h.imp fun hab => List.Lex.cons hab

/-- Positions of later siblings begin with larger numbers. -/
lemma le_of_mem_occurrencesFrom {n : ℕ} {ts : List TypeExpr} {o : Occurrence}
    (h : o ∈ occurrencesFrom n ts) :
    ∃ m q, n ≤ m ∧ o.1 = m :: q := by
  obtain ⟨i, q, _, _, hp, _⟩ := (mem_occurrencesFrom ts (p := o.1) (d := o.2)).mp h
  exact ⟨n + i, q, Nat.le_add_right n i, hp⟩

mutual

theorem pairwise_occurrences (t : TypeExpr) : t.occurrences.Pairwise Occurrence.Before := by
  match t with
  | .array e => exact pairwise_below (pairwise_occurrences e)
  | .map k v => exact pairwise_below (pairwise_occurrences v)
  | .nullable i => exact pairwise_below (pairwise_occurrences i)
  | .generic d (a :: as) =>
    rw [occurrences, List.pairwise_cons]
    refine ⟨fun o ho => ?_, pairwise_occurrencesFrom 0 (a :: as)⟩
    obtain ⟨m, q, -, hp⟩ := le_of_mem_occurrencesFrom ho
    rw [Occurrence.Before, hp]
    exact List.Lex.nil
  | .reference _ => exact List.pairwise_singleton _ _
  | .generic _ [] | .scalar _ | .any | .parameter _ | .unresolved _ => exact .nil

theorem pairwise_occurrencesFrom (n : ℕ) (ts : List TypeExpr) :
    (occurrencesFrom n ts).Pairwise Occurrence.Before := by
  match ts with
  | [] => exact .nil
  | t :: ts =>
    rw [occurrencesFrom, List.pairwise_append]
    refine ⟨pairwise_below (pairwise_occurrences t), pairwise_occurrencesFrom (n + 1) ts, ?_⟩
    intro a ha b hb
    obtain ⟨c, -, rfl⟩ := List.mem_map.mp ha
    obtain ⟨m, q, hm, hp⟩ := le_of_mem_occurrencesFrom hb
    rw [Occurrence.Before, hp]
    exact List.Lex.rel hm

end

lemma dependencies_unresolved {policy : UnresolvedPolicy} {name : String}
    {reason : UnresolvedReason} {r : Rendering}
    (h : Rendering.unresolved policy name reason = .ok r) : r.dependencies = [] := by
  cases policy with
  | fail => simp [Rendering.unresolved] at h
  | any =>
    cases h
    rfl

lemma map_snd_below (n : ℕ) (os : List Occurrence) :
    (os.map (Occurrence.below n)).map Prod.snd = os.map Prod.snd := by
  simp [Occurrence.below]

mutual

theorem dependencies_spell {policy : UnresolvedPolicy} (t : TypeExpr) {r : Rendering}
    (h : t.spell policy = .ok r) : r.dependencies = t.occurrences.map Prod.snd := by
  match t with
  | .scalar _ | .any | .reference _ =>
    cases h
    rfl
  | .array e =>
    obtain ⟨s, hs, h⟩ := bind_eq_ok h
    cases h
    rw [occurrences, map_snd_below, ← dependencies_spell e hs]
  | .map k v =>
    obtain ⟨s, hs, h⟩ := bind_eq_ok h
    cases h
    rw [occurrences, map_snd_below, ← dependencies_spell v hs]
  | .nullable i =>
    obtain ⟨s, hs, h⟩ := bind_eq_ok h
    cases h
    rw [occurrences, map_snd_below, ← dependencies_spell i hs]
  | .generic d (a :: as) =>
    obtain ⟨rs, hrs, h⟩ := bind_eq_ok h
    cases h
    rw [occurrences, List.map_cons]
    exact congrArg (FragmentId.ofType d :: ·) (dependencies_spellAll 0 (a :: as) hrs)
  | .generic _ [] | .parameter _ | .unresolved _ => exact dependencies_unresolved h

theorem dependencies_spellAll {policy : UnresolvedPolicy} (n : ℕ) (ts : List TypeExpr)
    {rs : List Rendering} (h : spellAll policy ts = .ok rs) :
    rs.flatMap Rendering.dependencies = (occurrencesFrom n ts).map Prod.snd := by
  match ts with
  | [] =>
    cases h
    rfl
  | t :: ts =>
    obtain ⟨r, hr, h⟩ := bind_eq_ok h
    obtain ⟨rest, hrest, h⟩ := bind_eq_ok h
    cases h
    rw [occurrencesFrom, List.map_append, map_snd_below, List.flatMap_cons, dependencies_spell t hr,
      dependencies_spellAll (n + 1) ts hrest]

end

lemma dependencies_render {policy : UnresolvedPolicy} {t : TypeExpr} {r : Rendering}
    (h : t.render policy = .ok r) :
    r.dependencies = FragmentId.distinct (t.occurrences.map Prod.snd) := by
  obtain ⟨s, hs, h⟩ := bind_eq_ok h
  cases h
  exact congrArg FragmentId.distinct (dependencies_spell t hs)

end TypeExpr

namespace TypeDescriptor

/-- `MentionsAt t p d`: the type of the property with the number that `p` begins with names `d` at
the rest of `p`. -/
def MentionsAt (t : TypeDescriptor) (p : List ℕ) (d : FragmentId) : Prop :=
  ∃ i q property u, p = i :: q ∧ t.properties[i]? = some property ∧ property.type.At q u ∧ u.Names d

def Mentions (t : TypeDescriptor) (d : FragmentId) : Prop :=
  ∃ p, t.MentionsAt p d

/-- Some mention of `d` comes before every mention of `e`. -/
def MentionsBefore (t : TypeDescriptor) (d e : FragmentId) : Prop :=
  ∃ p, t.MentionsAt p d ∧ ∀ q, t.MentionsAt q e → p < q

def occurrences (t : TypeDescriptor) : List TypeExpr.Occurrence :=
  TypeExpr.occurrencesFrom 0 (t.properties.map Property.type)

/-- What the fragment of a type depends on: the first of each mention. -/
def dependencies (t : TypeDescriptor) : List FragmentId :=
  FragmentId.distinct (t.occurrences.map Prod.snd)

lemma mem_occurrences {t : TypeDescriptor} {p : List ℕ} {d : FragmentId} :
    (p, d) ∈ t.occurrences ↔ t.MentionsAt p d := by
  rw [occurrences, TypeExpr.mem_occurrencesFrom]
  constructor
  · rintro ⟨i, q, e, u, rfl, he, hu, hd⟩
    rw [List.getElem?_map, Option.map_eq_some_iff] at he
    obtain ⟨property, hp, rfl⟩ := he
    exact ⟨i, q, property, u, by rw [Nat.zero_add], hp, hu, hd⟩
  · rintro ⟨i, q, property, u, rfl, hp, hu, hd⟩
    exact ⟨i, q, property.type, u, by rw [Nat.zero_add], by simp [hp], hu, hd⟩

lemma mem_dependencies {t : TypeDescriptor} {d : FragmentId} :
    d ∈ t.dependencies ↔ t.Mentions d := by
  rw [dependencies, FragmentId.mem_distinct, List.mem_map]
  constructor
  · rintro ⟨o, ho, rfl⟩
    exact ⟨o.1, mem_occurrences.mp ho⟩
  · rintro ⟨p, hp⟩
    exact ⟨(p, d), mem_occurrences.mpr hp, rfl⟩

lemma pairwise_dependencies (t : TypeDescriptor) : t.dependencies.Pairwise t.MentionsBefore := by
  have hs := FragmentId.distinct_pairwise Prod.snd
    (TypeExpr.pairwise_occurrencesFrom 0 (t.properties.map Property.type))
  refine hs.imp fun {d e} h => ?_
  obtain ⟨a, ha, rfl, hall⟩ := h
  refine ⟨a.1, mem_occurrences.mp ha, fun q hq => ?_⟩
  exact hall (q, e) (mem_occurrences.mpr hq) rfl

end TypeDescriptor

namespace Generator

variable {templates : Templates} {documentation : DocumentationSource} {settings : Settings}

lemma property_dependencies {owner : TypeName} {p : Property} {s : Snippet}
    (h : (make templates documentation settings).property owner p = .ok s) :
    s.dependencies = FragmentId.distinct (p.type.occurrences.map Prod.snd) := by
  obtain ⟨r, hr, h⟩ := bind_eq_ok h
  obtain ⟨text, _, h⟩ := bind_eq_ok h
  cases h
  exact TypeExpr.dependencies_render (mapError_eq_ok hr)

lemma flatMap_dependencies {ps : List Property} {snippets : List Snippet} (n : ℕ)
    (h : List.Forall₂ (fun p s =>
      s.dependencies = FragmentId.distinct (p.type.occurrences.map Prod.snd)) ps snippets) :
    FragmentId.distinct (snippets.flatMap Snippet.dependencies) =
      FragmentId.distinct ((TypeExpr.occurrencesFrom n (ps.map Property.type)).map Prod.snd) := by
  induction h generalizing n with
  | nil => rfl
  | cons hs _ ih =>
    rw [List.flatMap_cons, hs, List.map_cons, TypeExpr.occurrencesFrom, List.map_append,
      TypeExpr.map_snd_below]
    exact FragmentId.distinct_append_distinct _ _ _ (ih (n + 1))

lemma id_of_fragment {g : Generator} {t : TypeDescriptor} {f : Fragment}
    (h : g.fragment t = .ok f) : f.id = .ofType t.name := by
  obtain ⟨snippets, -, h⟩ := bind_eq_ok h
  obtain ⟨code, -, h⟩ := bind_eq_ok h
  cases h
  rfl

/-- The fragment of a type has the name of the type and depends on what the type mentions. -/
theorem fragment_spec {t : TypeDescriptor} {f : Fragment}
    (h : (make templates documentation settings).fragment t = .ok f) :
    f.id = t.name.fullName ∧ f.dependencies = t.dependencies := by
  obtain ⟨snippets, hs, h⟩ := bind_eq_ok h
  obtain ⟨code, _, h⟩ := bind_eq_ok h
  cases h
  have hd := (mapM_eq_ok_iff.mp hs).imp fun _ _ hp => property_dependencies hp
  refine ⟨rfl, ?_⟩
  change FragmentId.distinct (FragmentId.distinct _) = _
  rw [FragmentId.distinct_eq_self (FragmentId.nodup_distinct _)]
  exact flatMap_dependencies 0 hd

theorem fragments_spec {types : List TypeDescriptor} {fs : Fragments}
    (h : (make templates documentation settings).fragments types = .ok fs) :
    List.Forall₂ (fun t f => f.id = t.name.fullName ∧
      f.dependencies = t.dependencies) types fs.list := by
  obtain ⟨list, hl, h⟩ := bind_eq_ok h
  cases h
  exact (mapM_eq_ok_iff.mp hl).imp fun _ _ hf => fragment_spec hf

lemma map_dependencies {types : List TypeDescriptor} {fs : List Fragment}
    (h : List.Forall₂ (fun t f => f.id = t.name.fullName ∧
      f.dependencies = t.dependencies) types fs) :
    fs.map Fragment.dependencies = types.map TypeDescriptor.dependencies := by
  induction h with
  | nil => rfl
  | cons hf _ ih => rw [List.map_cons, List.map_cons, hf.2, ih]

/-- `f` depends on exactly what `t` mentions, each fragment once and in the order of first
mention. -/
structure ExactFor (t : TypeDescriptor) (f : Fragment) : Prop where
  id : f.id = t.name.fullName
  mem : ∀ d, d ∈ f.dependencies ↔ t.Mentions d
  nodup : f.dependencies.Nodup
  ordered : f.dependencies.Pairwise t.MentionsBefore
  selfReferencing : f.isSelfReferencing = true ↔ t.Mentions t.name.fullName

lemma exactFor_of_spec {t : TypeDescriptor} {f : Fragment} (hid : f.id = t.name.fullName)
    (hd : f.dependencies = t.dependencies) : ExactFor t f where
  id := hid
  mem d := by rw [hd, TypeDescriptor.mem_dependencies]
  nodup := f.nodup_dependencies
  ordered := by
    rw [hd]
    exact t.pairwise_dependencies
  selfReferencing := by
    rw [Fragment.isSelfReferencing, List.contains_iff_mem, hid, hd, TypeDescriptor.mem_dependencies]

/-- The dependency graph of a run is exact, and only the types decide it. -/
theorem fragments_dependencies_exact {types : List TypeDescriptor} {fs : Fragments}
    (h : (make templates documentation settings).fragments types = .ok fs) :
    List.Forall₂ ExactFor types fs.list ∧
      ∀ templates' documentation' settings' fs',
        (make templates' documentation' settings').fragments types = .ok fs' →
          fs'.list.map Fragment.dependencies = fs.list.map Fragment.dependencies := by
  constructor
  · exact (fragments_spec h).imp fun _ _ hf => exactFor_of_spec hf.1 hf.2
  · intro _ _ _ fs' h'
    rw [map_dependencies (fragments_spec h'), map_dependencies (fragments_spec h)]

/-- Mentions itself below a map and below an application. The key of the map and the generic type
that is applied to nothing do not count. -/
def node : TypeDescriptor where
  name := ⟨some "Shop", "Node"⟩
  properties := [
    ⟨"Next", .map (.reference ⟨some "Shop", "Key"⟩) (.array (.reference ⟨some "Shop", "Node"⟩))⟩,
    ⟨"Pair", .generic ⟨some "Shop", "Pair"⟩
      [.nullable (.reference ⟨none, "Leaf"⟩), .reference ⟨some "Shop", "Node"⟩]⟩,
    ⟨"Open", .generic ⟨some "Shop", "Open"⟩ []⟩]

theorem node_dependencies_exact :
    ∃ fs, (make .standard Documentation.silent { unresolved := .any }).fragments [node] = .ok fs ∧
      fs.list.map Fragment.dependencies = [["Shop.Node", "Shop.Pair", "Leaf"]] ∧
      List.Forall₂ ExactFor [node] fs.list ∧
      ∀ templates' documentation' settings' fs',
        (make templates' documentation' settings').fragments [node] = .ok fs' →
          fs'.list.map Fragment.dependencies = fs.list.map Fragment.dependencies :=
  ⟨_, rfl, rfl,
    @fragments_dependencies_exact .standard Documentation.silent { unresolved := .any } [node] _
      rfl⟩

end Generator

end Typescribe
