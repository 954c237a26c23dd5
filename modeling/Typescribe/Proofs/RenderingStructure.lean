import Mathlib
import Typescribe.Proofs.Except
import Typescribe.Proofs.TypeGrammar
import Typescribe.Rendering

/-!
# A rendered type reads back as the type

The scan for open bars tells unions from other derivations, so an array puts exactly its union
elements in parentheses. Every rendering is then derived by the grammar with the type's own tree.
-/
namespace Typescribe
open TypeGrammar

/-- A name that the grammar can read. -/
def isPlainName (s : String) : Bool :=
  !s.toList.isEmpty && s.toList.all isNameChar

namespace TypeExpr

mutual

/-- Whether every reference and every generic definition, at any depth, has a plain simple name. -/
def hasPlainNames : TypeExpr → Bool
  | .reference name => isPlainName name.simple
  | .array element => element.hasPlainNames
  | .map key value => key.hasPlainNames && value.hasPlainNames
  | .nullable inner => inner.hasPlainNames
  | .generic definition arguments => isPlainName definition.simple && allHavePlainNames arguments
  | _ => true

def allHavePlainNames : List TypeExpr → Bool
  | [] => true
  | t :: ts => t.hasPlainNames && allHavePlainNames ts

end

/-- The key of the index signature: numbers index by number, all else by string. -/
def indexKey : TypeExpr → IndexKey
  | .scalar .number => .number
  | _ => .string

mutual

/-- What a written form of the type has to say. What is not resolved is `any`. -/
def tree : TypeExpr → Tree
  | .scalar kind => .atom kind.spelling
  | .any => .atom "any"
  | .reference name => .atom name.simple
  | .array element => .array element.tree
  | .map key value => .index key.indexKey value.tree
  | .nullable inner => .union (inner.tree.members ++ [.atom "null"])
  | .generic _ [] => .atom "any"
  | .generic definition (argument :: arguments) =>
    .application definition.simple (trees (argument :: arguments))
  | .parameter _ => .atom "any"
  | .unresolved _ => .atom "any"

def trees : List TypeExpr → List Tree
  | [] => []
  | t :: ts => t.tree :: trees ts

end

end TypeExpr

namespace TypeGrammar
open Rendering (hasOpenBar isUnion arrayOf nullableOf mapOf applied)

lemma hasOpenBar_nameChar {c : Char} (hc : isNameChar c = true) (d : ℤ) (r : List Char) :
    hasOpenBar d (c :: r) = hasOpenBar d r := by
  have hd : c ∉ delimiters := by simpa using (Bool.and_eq_true_iff.mp hc).2
  simp only [delimiters, List.mem_cons, not_or] at hd
  simp [hasOpenBar, hd]

lemma hasOpenBar_name (n : Name) (d : ℤ) (r : List Char) :
    hasOpenBar d (n.chars ++ r) = hasOpenBar d r := by
  have h : ∀ cs : List Char, (∀ c ∈ cs, isNameChar c = true) →
      hasOpenBar d (cs ++ r) = hasOpenBar d r := by
    intro cs hp
    induction cs with
    | nil => rfl
    | cons c cs ih =>
      rw [List.cons_append, hasOpenBar_nameChar (hp c (by simp))]
      exact ih fun e he => hp e (by simp [he])
  exact h n.chars n.plain

lemma hasOpenBar_brackets (n : ℕ) (d : ℤ) (r : List Char) :
    hasOpenBar d (brackets n ++ r) = hasOpenBar d r := by
  induction n with
  | zero => rfl
  | succ n ih => simpa [brackets, hasOpenBar] using ih

lemma hasOpenBar_key (k : IndexKey) (d : ℤ) (r : List Char) :
    hasOpenBar d (k.text ++ r) = hasOpenBar d r := by
  cases k <;> simp [IndexKey.text, hasOpenBar]

mutual

/-- Inside brackets the bars of a union are not open. -/
theorem Union.hasOpenBar_inside (u : Union) {d : ℤ} (hd : 0 < d) (r : List Char) :
    hasOpenBar d (u.text ++ r) = hasOpenBar d r := by
  match u with
  | .single p => exact p.hasOpenBar_text hd.le r
  | .either p u =>
    rw [Union.text, List.append_assoc, p.hasOpenBar_text hd.le]
    simp [hasOpenBar, hd.ne', u.hasOpenBar_inside hd r]

theorem Postfix.hasOpenBar_text (p : Postfix) {d : ℤ} (hd : 0 ≤ d) (r : List Char) :
    hasOpenBar d (p.text ++ r) = hasOpenBar d r := by
  match p with
  | .mk p n => rw [Postfix.text, List.append_assoc, p.hasOpenBar_text hd, hasOpenBar_brackets]

theorem Primary.hasOpenBar_text (p : Primary) {d : ℤ} (hd : 0 ≤ d) (r : List Char) :
    hasOpenBar d (p.text ++ r) = hasOpenBar d r := by
  have hi : 0 < d + 1 := by omega
  match p with
  | .name n => exact hasOpenBar_name n d r
  | .applied n as =>
    rw [Primary.text, List.append_assoc, hasOpenBar_name]
    simp [hasOpenBar, as.hasOpenBar_inside hi]
  | .index k u =>
    simp [Primary.text, hasOpenBar, hasOpenBar_key, u.hasOpenBar_inside hi]
  | .group u => simp [Primary.text, hasOpenBar, u.hasOpenBar_inside hi]

theorem Arguments.hasOpenBar_inside (as : Arguments) {d : ℤ} (hd : 0 < d) (r : List Char) :
    hasOpenBar d (as.text ++ r) = hasOpenBar d r := by
  match as with
  | .last u => exact u.hasOpenBar_inside hd r
  | .more u as =>
    rw [Arguments.text, List.append_assoc, u.hasOpenBar_inside hd]
    simp [hasOpenBar, as.hasOpenBar_inside hd]

end

lemma isUnion_single {s : String} {p : Postfix} (h : (Union.single p).text = s.toList) :
    isUnion s = false := by
  have hp := p.hasOpenBar_text le_rfl []
  rw [isUnion, ← h, Union.text, ← List.append_nil p.text, hp]
  rfl

lemma isUnion_either {s : String} {p : Postfix} {u : Union}
    (h : (Union.either p u).text = s.toList) : isUnion s = true := by
  rw [isUnion, ← h, Union.text, p.hasOpenBar_text le_rfl]
  simp [hasOpenBar]

/-- `u` derives the text and says the tree. The members are told apart from the tree because a group
in front would hide them. -/
structure Derives (u : Union) (s : String) (t : Tree) : Prop where
  text : u.text = s.toList
  members : u.members = t.members
  tree : u.tree = t

def Name.ofString (s : String) (h : isPlainName s = true) : Name where
  chars := s.toList
  nonempty := by
    intro he
    simp [isPlainName, he] at h
  plain := by
    rw [isPlainName, Bool.and_eq_true] at h
    exact List.all_eq_true.mp h.2

lemma derives_primary {p : Primary} {s : String} (hs : p.text = s.toList)
    (ht : p.tree.members = [p.tree]) : Derives (.single (.mk p 0)) s p.tree where
  text := by simp [Union.text, Postfix.text, brackets, hs]
  members := by simp [Union.members, Postfix.tree, Tree.arrays, ht]
  tree := rfl

lemma derives_name {s : String} (h : isPlainName s = true) : ∃ u, Derives u s (.atom s) := by
  have hd := derives_primary (p := .name (Name.ofString s h)) (s := s) rfl rfl
  rw [Primary.tree, Name.ofString, String.ofList_toList] at hd
  exact ⟨_, hd⟩

/-- Exactly the unions are put in parentheses. -/
lemma Derives.array {u : Union} {s : String} {t : Tree} (h : Derives u s t) :
    ∃ v, Derives v (arrayOf s) (.array t) := by
  match u with
  | .single (.mk p n) =>
    have ht : Tree.arrays n p.tree = t := h.tree
    refine ⟨.single (.mk p (n + 1)), ?_, ?_, ?_⟩
    · have hs := h.text
      rw [Union.text, Postfix.text] at hs
      rw [Union.text, Postfix.text, brackets_succ, ← List.append_assoc, hs, arrayOf,
        isUnion_single h.text]
      simp
    · rw [Union.members, Postfix.tree, Tree.arrays, ht]
      rfl
    · rw [← ht]
      rfl
  | .either p u =>
    refine ⟨.single (.mk (.group (.either p u)) 1), ?_, ?_, ?_⟩
    · rw [Union.text, Postfix.text, Primary.text, h.text, arrayOf, isUnion_either h.text]
      simp [brackets]
    · have ht : Tree.ofMembers (Union.either p u).members = t := h.tree
      rw [Union.members, Postfix.tree, Primary.tree, ht]
      rfl
    · rw [← h.tree]
      rfl

/-- One more member at the end. -/
def Union.snoc : Union → Postfix → Union
  | .single q, p => .either q (.single p)
  | .either q u, p => .either q (u.snoc p)

lemma Union.text_snoc (u : Union) (p : Postfix) :
    (u.snoc p).text = u.text ++ ' ' :: '|' :: ' ' :: p.text := by
  match u with
  | .single q => rfl
  | .either q u => simp [Union.snoc, Union.text, u.text_snoc p]

lemma Union.members_snoc (u : Union) (p : Postfix) :
    (u.snoc p).members = u.members ++ [p.tree] := by
  match u with
  | .single q => rfl
  | .either q u => simp [Union.snoc, Union.members, u.members_snoc p]

lemma Union.members_ne_nil (u : Union) : u.members ≠ [] := by
  cases u <;> simp [Union.members]

lemma ofMembers_append {ts : List Tree} (h : ts ≠ []) (t : Tree) :
    Tree.ofMembers (ts ++ [t]) = .union (ts ++ [t]) := by
  match ts with
  | [_] => rfl
  | _ :: _ :: _ => rfl

lemma Derives.nullable {u : Union} {s : String} {t : Tree} (h : Derives u s t) :
    ∃ v, Derives v (nullableOf s) (.union (t.members ++ [.atom "null"])) := by
  let null : Postfix := .mk (.name (Name.ofString "null" (by decide))) 0
  have hn : null.tree = .atom "null" := by
    rw [Postfix.tree, Primary.tree, Name.ofString, String.ofList_toList]
    rfl
  have hm : (u.snoc null).members = t.members ++ [.atom "null"] := by
    rw [Union.members_snoc, h.members, hn]
  refine ⟨u.snoc null, ?_, hm, ?_⟩
  · rw [Union.text_snoc, h.text, nullableOf, String.toList_append]
    rfl
  · have hne : t.members ≠ [] := h.members ▸ u.members_ne_nil
    rw [Union.tree, hm, ofMembers_append hne]

lemma Derives.index {u : Union} {s : String} {t : Tree} (h : Derives u s t) (key : TypeExpr) :
    ∃ v, Derives v (mapOf key s) (.index key.indexKey t) := by
  have hk : key.indexKey.text = (Rendering.indexKey key).toList := by
    cases key with
    | scalar kind => cases kind <;> rfl
    | _ => simp [TypeExpr.indexKey, Rendering.indexKey, IndexKey.text]
  have hd := derives_primary (p := .index key.indexKey u) (s := mapOf key s)
    (by simp [Primary.text, mapOf, h.text, hk]) rfl
  have ht : Tree.ofMembers u.members = t := h.tree
  rw [Primary.tree, ht] at hd
  exact ⟨_, hd⟩

/-- Derivations of the arguments, one for each. -/
inductive DerivesAll : Arguments → List String → List Tree → Prop
  | last {u : Union} {s : String} {t : Tree} (h : Derives u s t) : DerivesAll (.last u) [s] [t]
  | more {u : Union} {s : String} {t : Tree} {as : Arguments} {ss : List String} {ts : List Tree}
      (h : Derives u s t) (rest : DerivesAll as ss ts) : DerivesAll (.more u as) (s :: ss) (t :: ts)

lemma DerivesAll.text {as : Arguments} {ss : List String} {ts : List Tree}
    (h : DerivesAll as ss ts) : as.text = (", ".intercalate ss).toList := by
  induction h with
  | last h => simpa [Arguments.text] using h.text
  | @more u s t as ss ts h rest ih =>
    have hne : ss ≠ [] := by cases rest <;> simp
    rw [Arguments.text, h.text, ih, String.intercalate_cons_of_ne_nil hne]
    simp

lemma DerivesAll.trees {as : Arguments} {ss : List String} {ts : List Tree}
    (h : DerivesAll as ss ts) : as.trees = ts := by
  induction h with
  | last h => exact congrArg (fun t => [t]) h.tree
  | more h _ ih =>
    rw [Arguments.trees, ih]
    exact congrArg (fun t => t :: _) h.tree

lemma DerivesAll.application {as : Arguments} {ss : List String} {ts : List Tree}
    (h : DerivesAll as ss ts) {name : String} (hn : isPlainName name = true) :
    ∃ u, Derives u (applied name ss) (.application name ts) := by
  have hd := derives_primary (p := .applied (Name.ofString name hn) as) (s := applied name ss)
    (by simp [Primary.text, Name.ofString, applied, h.text]) rfl
  rw [Primary.tree, h.trees, Name.ofString, String.ofList_toList] at hd
  exact ⟨_, hd⟩

end TypeGrammar

namespace TypeExpr

lemma isPlainName_spelling (kind : ScalarKind) : isPlainName kind.spelling = true := by
  cases kind <;> decide

lemma derives_unresolved {policy : UnresolvedPolicy} {name : String} {reason : UnresolvedReason}
    {r : Rendering} (h : Rendering.unresolved policy name reason = .ok r) :
    ∃ u, Derives u r.text (.atom "any") := by
  cases policy with
  | fail => simp [Rendering.unresolved] at h
  | any =>
    obtain rfl : (⟨"any", []⟩ : Rendering) = r := by simpa [Rendering.unresolved] using h
    exact derives_name (by decide)

mutual

theorem derives_spell {policy : UnresolvedPolicy} (t : TypeExpr) {r : Rendering}
    (hn : t.hasPlainNames = true) (h : t.spell policy = .ok r) : ∃ u, Derives u r.text t.tree := by
  match t with
  | .scalar kind =>
    rw [spell, Except.ok.injEq] at h
    subst h
    exact derives_name (isPlainName_spelling kind)
  | .any =>
    rw [spell, Except.ok.injEq] at h
    subst h
    exact derives_name (by decide)
  | .reference name =>
    rw [spell, Except.ok.injEq] at h
    subst h
    exact derives_name hn
  | .array element =>
    obtain ⟨e, he, hr⟩ := bind_eq_ok h
    cases hr
    obtain ⟨u, hu⟩ := derives_spell element hn he
    exact hu.array
  | .map key value =>
    obtain ⟨v, hv, hr⟩ := bind_eq_ok h
    cases hr
    rw [hasPlainNames, Bool.and_eq_true] at hn
    obtain ⟨u, hu⟩ := derives_spell value hn.2 hv
    exact hu.index key
  | .nullable inner =>
    obtain ⟨i, hi, hr⟩ := bind_eq_ok h
    cases hr
    obtain ⟨u, hu⟩ := derives_spell inner hn hi
    exact hu.nullable
  | .generic definition [] => exact derives_unresolved h
  | .generic definition (a :: as) =>
    obtain ⟨rs, hrs, hr⟩ := bind_eq_ok h
    cases hr
    rw [hasPlainNames, Bool.and_eq_true] at hn
    obtain ⟨args, hargs⟩ := derives_spellAll (a :: as) (by simp) hn.2 hrs
    exact hargs.application hn.1
  | .parameter name => exact derives_unresolved h
  | .unresolved description => exact derives_unresolved h

theorem derives_spellAll {policy : UnresolvedPolicy} (ts : List TypeExpr) {rs : List Rendering}
    (hne : ts ≠ []) (hn : allHavePlainNames ts = true) (h : spellAll policy ts = .ok rs) :
    ∃ as, DerivesAll as (rs.map Rendering.text) (trees ts) := by
  match ts with
  | [] => exact absurd rfl hne
  | t :: ts =>
    rw [allHavePlainNames, Bool.and_eq_true] at hn
    obtain ⟨r, hr, h⟩ := bind_eq_ok h
    obtain ⟨rest, hrest, h⟩ := bind_eq_ok h
    cases h
    obtain ⟨u, hu⟩ := derives_spell t hn.1 hr
    by_cases hts : ts = []
    · subst hts
      cases hrest
      exact ⟨.last u, .last hu⟩
    · obtain ⟨as, has⟩ := derives_spellAll ts hts hn.2 hrest
      exact ⟨.more u as, .more hu has⟩

end

/-- A rendered type has exactly one derivation, and that derivation says what the type says. -/
theorem render_reads_back {policy : UnresolvedPolicy} {t : TypeExpr} {r : Rendering}
    (hn : t.hasPlainNames = true) (h : t.render policy = .ok r) :
    ∃ u : Union, u.text = r.text.toList ∧ u.tree = t.tree ∧
      ∀ v : Union, v.text = r.text.toList → v = u := by
  obtain ⟨s, hs, hr⟩ := bind_eq_ok h
  cases hr
  obtain ⟨u, hu⟩ := derives_spell t hn hs
  refine ⟨u, hu.text, hu.tree, fun v hv => ?_⟩
  exact Union.text_injective (hv.trans hu.text.symm)

/-- Unions below an array, below an argument and below an index signature, and a parameter left
open. -/
def unionsEverywhere : TypeExpr :=
  .array (.nullable (.generic ⟨some "Shop", "Pair"⟩ [
    .nullable (.array (.nullable (.reference ⟨none, "A"⟩))),
    .map (.scalar .number) (.nullable (.parameter "T"))]))

theorem unionsEverywhere_reads_back :
    unionsEverywhere.hasPlainNames = true ∧ ∃ r, unionsEverywhere.render .any = .ok r ∧
      r.text = "(Pair<(A | null)[] | null, \x7b [key: number]: any | null \x7d> | null)[]" ∧
      ∃ u : Union, u.text = r.text.toList ∧ u.tree = unionsEverywhere.tree ∧
        ∀ v : Union, v.text = r.text.toList → v = u := by
  have hn : unionsEverywhere.hasPlainNames = true := by decide
  have hr : unionsEverywhere.render .any =
      .ok ⟨"(Pair<(A | null)[] | null, \x7b [key: number]: any | null \x7d> | null)[]",
          ["Shop.Pair", "A"]⟩ := by
    rfl
  exact ⟨hn, _, hr, rfl, render_reads_back hn hr⟩

end TypeExpr

end Typescribe
