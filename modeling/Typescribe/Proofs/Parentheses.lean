import Mathlib
import Typescribe.Proofs.MentionedNames
import Typescribe.Proofs.TypeEncoding

/-!
# Parentheses around nullable elements

An array finds out whether its element is a union by counting brackets in the text of the element.
The brackets of the written form itself come in pairs, so what is counted at the bar in front of
`null` is what the names have left open. Names that close what they open are never in the way.
-/
namespace Typescribe

namespace Rendering

/-- What a character adds to the number of open brackets. -/
def bracket (c : Char) : ℤ :=
  if c = '<' ∨ c = '\x7b' ∨ c = '(' ∨ c = '[' then 1
  else if c = '>' ∨ c = '\x7d' ∨ c = ')' ∨ c = ']' then -1
  else 0

/-- How many brackets more a text opens than it closes. -/
def balance (cs : List Char) : ℤ :=
  (cs.map bracket).sum

@[simp] lemma balance_nil : balance [] = 0 := rfl

@[simp] lemma balance_cons (c : Char) (cs : List Char) : balance (c :: cs) = bracket c +
    balance cs := by
  simp [balance]

@[simp] lemma balance_append (a b : List Char) : balance (a ++ b) = balance a + balance b := by
  simp [balance]

/-- One step of the scan. -/
lemma hasOpenBar_cons (depth : ℤ) (c : Char) (cs : List Char) :
    hasOpenBar depth (c :: cs) =
      (decide (c = '|' ∧ depth = 0) || hasOpenBar (depth + bracket c) cs) := by
  rw [hasOpenBar, bracket]
  split_ifs with ho hc hb
  · rcases ho with rfl | rfl | rfl | rfl <;> simp
  · rcases hc with rfl | rfl | rfl | rfl <;> simp [sub_eq_add_neg]
  · simp [hb]
  · simp [hb]

/-- Behind a text the scan goes on at the depth that the text leaves. -/
lemma hasOpenBar_append (depth : ℤ) (a b : List Char) :
    hasOpenBar depth (a ++ b) = (hasOpenBar depth a || hasOpenBar (depth + balance a) b) := by
  induction a generalizing depth with
  | nil => simp [hasOpenBar]
  | cons c a ih =>
    rw [List.cons_append, hasOpenBar_cons, hasOpenBar_cons, ih, balance_cons, Bool.or_assoc,
      add_assoc]

lemma hasOpenBar_iff {depth : ℤ} {cs : List Char} :
    hasOpenBar depth cs = true ↔
      ∃ before after, cs = before ++ '|' :: after ∧ depth + balance before = 0 := by
  constructor
  · intro h
    induction cs generalizing depth with
    | nil => cases h
    | cons c cs ih =>
      rw [hasOpenBar_cons, Bool.or_eq_true, decide_eq_true_iff] at h
      rcases h with ⟨rfl, hd⟩ | h
      · exact ⟨[], cs, rfl, by simpa using hd⟩
      · obtain ⟨before, after, rfl, hb⟩ := ih h
        exact ⟨c :: before, after, rfl, by rw [balance_cons, ← add_assoc, hb]⟩
  · rintro ⟨before, after, rfl, hb⟩
    rw [hasOpenBar_append, hb, hasOpenBar_cons]
    simp

/-- A bar before which as many brackets are closed as opened. -/
def HasBarOutside (text : String) : Prop :=
  ∃ before after, text.toList = before ++ '|' :: after ∧ balance before = 0

lemma isUnion_iff {text : String} : isUnion text = true ↔ HasBarOutside text := by
  rw [isUnion, hasOpenBar_iff]
  simp [HasBarOutside]

lemma hasBarOutside_nullableOf {s : String} (h : balance s.toList = 0) :
    HasBarOutside (nullableOf s) := by
  refine ⟨s.toList ++ [' '], " null".toList, by simp [nullableOf], ?_⟩
  rw [balance_append, h]
  rfl

/-- Around the part stand signs that close as many brackets as they open. -/
def Surrounds (whole part : String) : Prop :=
  ∃ before after, whole.toList = before ++ part.toList ++ after ∧ balance before + balance after = 0

lemma Surrounds.balance_eq {whole part : String} (h : Surrounds whole part) :
    balance whole.toList = balance part.toList := by
  obtain ⟨before, after, hw, hb⟩ := h
  rw [hw, balance_append, balance_append, add_right_comm, hb, zero_add]

lemma Surrounds.isInfix {whole part : String} (h : Surrounds whole part) :
    part.toList <:+: whole.toList := by
  obtain ⟨before, after, hw, -⟩ := h
  exact ⟨before, after, hw.symm⟩

lemma surrounds_arrayOf (s : String) : Surrounds (arrayOf s) s := by
  unfold arrayOf
  split
  · exact ⟨"(".toList, ")[]".toList, by simp, by decide⟩
  · exact ⟨[], "[]".toList, by simp, by decide⟩

lemma surrounds_nullableOf (s : String) : Surrounds (nullableOf s) s :=
  ⟨[], " | null".toList, by simp [nullableOf], by decide⟩

lemma surrounds_mapOf (key : TypeExpr) (s : String) : Surrounds (mapOf key s) s := by
  refine ⟨"\x7b [key: ".toList ++ (indexKey key).toList ++ "]: ".toList, " \x7d".toList,
    by simp [mapOf], ?_⟩
  unfold indexKey
  split <;> decide

lemma balance_intercalate (ss : List String) :
    balance (", ".intercalate ss).toList = (ss.map fun s => balance s.toList).sum := by
  induction ss with
  | nil => rfl
  | cons s ss ih =>
    by_cases hss : ss = []
    · simp [hss]
    · rw [String.intercalate_cons_of_ne_nil hss, String.toList_append, String.toList_append,
        balance_append, balance_append, ih, show balance ", ".toList = 0 by
          decide, add_zero, List.map_cons, List.sum_cons]

lemma balance_applied (name : String) (arguments : List String) :
    balance (applied name arguments).toList = balance name.toList +
      (arguments.map fun s => balance s.toList).sum := by
  rw [applied, String.toList_append, String.toList_append, String.toList_append, balance_append,
    balance_append, balance_append, balance_intercalate, show balance "<".toList = 1 by
      decide, show balance ">".toList = -1 by decide]
  ring

lemma infix_intercalate {s : String} {ss : List String} (h : s ∈ ss) :
    s.toList <:+: (", ".intercalate ss).toList := by
  induction ss with
  | nil => cases h
  | cons a ss ih =>
    by_cases hss : ss = []
    · obtain rfl : s = a := by simpa [hss] using h
      simp [hss]
    · rw [String.intercalate_cons_of_ne_nil hss, String.toList_append]
      rcases List.mem_cons.mp h with rfl | h
      · rw [String.toList_append, List.append_assoc]
        exact (List.prefix_append _ _).isInfix
      · exact (ih h).trans (List.suffix_append _ _).isInfix

lemma infix_applied {s : String} {arguments : List String} (name : String) (h : s ∈ arguments) :
    s.toList <:+: (applied name arguments).toList := by
  rw [applied, String.toList_append, String.toList_append]
  exact (infix_intercalate h).trans
    ((List.suffix_append _ _).isInfix.trans (List.prefix_append _ _).isInfix)

lemma balance_unresolved {policy : UnresolvedPolicy} {name : String} {reason : UnresolvedReason}
    {r : Rendering} (h : unresolved policy name reason = .ok r) : balance r.text.toList = 0 := by
  cases policy with
  | fail => cases h
  | any =>
    cases h
    rfl

lemma balance_ownWord {word : String} (h : word ∈ ownWords) : balance word.toList = 0 := by
  revert word
  decide

end Rendering

namespace TypeExpr
open Rendering (balance HasBarOutside)

/-- What the tokens of a type leave open. -/
def openBrackets (tokens : List Token) : ℤ :=
  (tokens.map fun token => balance token.text.toList).sum

lemma openBrackets_append (as bs : List Token) :
    openBrackets (as ++ bs) = openBrackets as + openBrackets bs := by
  simp [openBrackets]

lemma openBrackets_own {word : String} (h : word ∈ ownWords) (tokens : List Token) :
    openBrackets (.own word h :: tokens) = openBrackets tokens := by
  simp [openBrackets, Token.text, Rendering.balance_ownWord h]

lemma openBrackets_type (name : TypeName) (tokens : List Token) :
    openBrackets (.type name :: tokens) = balance name.simple.toList + openBrackets tokens := by
  simp [openBrackets, Token.text]

mutual

/-- A written form leaves open what the names in it leave open. -/
theorem balance_spell {policy : UnresolvedPolicy} (t : TypeExpr) {r : Rendering}
    (h : t.spell policy = .ok r) : balance r.text.toList = openBrackets t.tokens := by
  match t with
  | .scalar kind =>
    cases h
    cases kind <;> rfl
  | .any =>
    cases h
    rfl
  | .reference name =>
    cases h
    simp [tokens, openBrackets, Token.text]
  | .array e =>
    obtain ⟨s, hs, h⟩ := bind_eq_ok h
    cases h
    rw [(Rendering.surrounds_arrayOf s.text).balance_eq, balance_spell e hs, tokens]
  | .map k v =>
    obtain ⟨s, hs, h⟩ := bind_eq_ok h
    cases h
    rw [(Rendering.surrounds_mapOf k s.text).balance_eq, balance_spell v hs, tokens]
    rw [openBrackets_own, openBrackets_own]
  | .nullable i =>
    obtain ⟨s, hs, h⟩ := bind_eq_ok h
    cases h
    rw [(Rendering.surrounds_nullableOf s.text).balance_eq, balance_spell i hs, tokens,
      openBrackets_append, openBrackets_own]
    exact (add_zero _).symm
  | .generic d (a :: as) =>
    obtain ⟨rs, hrs, h⟩ := bind_eq_ok h
    cases h
    rw [Rendering.balance_applied, List.map_map, tokens, openBrackets_type]
    exact congrArg (balance d.simple.toList + ·) (balance_spellAll (a :: as) hrs)
  | .generic _ [] | .parameter _ | .unresolved _ => exact Rendering.balance_unresolved h

theorem balance_spellAll {policy : UnresolvedPolicy} (ts : List TypeExpr) {rs : List Rendering}
    (h : spellAll policy ts = .ok rs) :
    (rs.map fun r => balance r.text.toList).sum = openBrackets (tokensOfAll ts) := by
  match ts with
  | [] =>
    cases h
    rfl
  | t :: ts =>
    obtain ⟨r, hr, h⟩ := bind_eq_ok h
    obtain ⟨rest, hrest, h⟩ := bind_eq_ok h
    cases h
    rw [List.map_cons, List.sum_cons, balance_spell t hr, balance_spellAll ts hrest, tokensOfAll,
      openBrackets_append]

end

/-- Every type that is mentioned has a name that closes as many brackets as it opens. -/
def MentionsBalanced (t : TypeExpr) : Prop :=
  ∀ name, t.MentionsType name → balance name.simple.toList = 0

lemma MentionsBalanced.openBrackets_tokens {t : TypeExpr} (h : t.MentionsBalanced) :
    openBrackets t.tokens = 0 := by
  refine List.sum_eq_zero fun n hn => ?_
  obtain ⟨token, htoken, rfl⟩ := List.mem_map.mp hn
  cases token with
  | own word hword => exact Rendering.balance_ownWord hword
  | type name => exact h name (type_mem_tokens_iff.mp htoken)

lemma spell_of_mem {policy : UnresolvedPolicy} {ts : List TypeExpr} {rs : List Rendering}
    {t : TypeExpr} (h : spellAll policy ts = .ok rs) (ht : t ∈ ts) :
    ∃ r ∈ rs, t.spell policy = .ok r := by
  induction ts generalizing rs with
  | nil => cases ht
  | cons u ts ih =>
    obtain ⟨r, hr, h⟩ := bind_eq_ok h
    obtain ⟨rest, hrest, h⟩ := bind_eq_ok h
    cases h
    rcases List.mem_cons.mp ht with rfl | ht
    · exact ⟨r, by simp, hr⟩
    · obtain ⟨s, hs, hspell⟩ := ih hrest ht
      exact ⟨s, by simp [hs], hspell⟩

/-- What stands at a position is written somewhere in the whole. -/
theorem At.spell {policy : UnresolvedPolicy} {t u : TypeExpr} {p : List ℕ} {r : Rendering}
    (hp : At t p u) (h : t.spell policy = .ok r) :
    ∃ s, u.spell policy = .ok s ∧ s.text.toList <:+: r.text.toList := by
  induction hp generalizing r with
  | here => exact ⟨r, h, List.infix_refl _⟩
  | element _ ih =>
    obtain ⟨e, he, h⟩ := bind_eq_ok h
    cases h
    obtain ⟨s, hs, hi⟩ := ih he
    exact ⟨s, hs, hi.trans (Rendering.surrounds_arrayOf e.text).isInfix⟩
  | @value k v u p _ ih =>
    obtain ⟨e, he, h⟩ := bind_eq_ok h
    cases h
    obtain ⟨s, hs, hi⟩ := ih he
    exact ⟨s, hs, hi.trans (Rendering.surrounds_mapOf k e.text).isInfix⟩
  | inner _ ih =>
    obtain ⟨e, he, h⟩ := bind_eq_ok h
    cases h
    obtain ⟨s, hs, hi⟩ := ih he
    exact ⟨s, hs, hi.trans (Rendering.surrounds_nullableOf e.text).isInfix⟩
  | @argument d as n a u p ha _ ih =>
    cases as with
    | nil => simp at ha
    | cons b as =>
      obtain ⟨rs, hrs, h⟩ := bind_eq_ok h
      cases h
      obtain ⟨e, he, hspell⟩ := spell_of_mem hrs (List.mem_of_getElem? ha)
      obtain ⟨s, hs, hi⟩ := ih hspell
      exact ⟨s, hs, hi.trans (Rendering.infix_applied d.simple (List.mem_map_of_mem he))⟩

lemma render_of_spell {policy : UnresolvedPolicy} {t : TypeExpr} {r : Rendering}
    (h : t.spell policy = .ok r) :
    t.render policy = .ok ⟨r.text, FragmentId.distinct r.dependencies⟩ := by
  rw [render, h]
  rfl

lemma arrayOf_cases (s : String) :
    (HasBarOutside s → Rendering.arrayOf s = "(" ++ s ++ ")[]") ∧
      (¬ HasBarOutside s → Rendering.arrayOf s = s ++ "[]") := by
  rw [← Rendering.isUnion_iff, Rendering.arrayOf]
  constructor
  · exact fun h => if_pos h
  · exact fun h => if_neg h

/-- An array of a nullable type is written with parentheses exactly if a bar stands outside all
brackets of the element. So it is, at every position, if the element mentions no name that leaves a
bracket open. -/
theorem nullable_element_in_parentheses {policy : UnresolvedPolicy} {t e : TypeExpr} {p : List ℕ}
    {r : Rendering} (h : t.render policy = .ok r) (hp : At t p (.array (.nullable e))) :
    ∃ inner node : Rendering, (nullable e).render policy = .ok inner ∧
      (array (nullable e)).render policy = .ok node ∧
      node.text.toList <:+: r.text.toList ∧
      (e.MentionsBalanced → node.text = "(" ++ inner.text ++ ")[]") ∧
      (HasBarOutside inner.text → node.text = "(" ++ inner.text ++ ")[]") ∧
      (¬ HasBarOutside inner.text → node.text = inner.text ++ "[]") := by
  obtain ⟨whole, hwhole, h⟩ := bind_eq_ok h
  cases h
  obtain ⟨node, hnode, hinfix⟩ := hp.spell hwhole
  obtain ⟨inner, hinner, hn⟩ := bind_eq_ok hnode
  obtain ⟨s, hs, hi⟩ := bind_eq_ok hinner
  cases hi
  cases hn
  have hcases := arrayOf_cases (Rendering.nullableOf s.text)
  refine ⟨_, _, render_of_spell hinner, render_of_spell hnode, hinfix, fun hb => hcases.1 ?_,
    hcases⟩
  have hbalance := balance_spell e hs
  rw [hb.openBrackets_tokens] at hbalance
  exact Rendering.hasBarOutside_nullableOf hbalance

/-- A name with brackets and a bar in it, below a map whose key leaves a bracket open. -/
def bracketedName : TypeExpr :=
  .map (.reference ⟨none, "K<"⟩) (.reference ⟨some "Shop", "Fn(A|B)"⟩)

theorem bracketedName_in_parentheses :
    ∃ r, (generic ⟨none, "Box"⟩ [.any, .array (.nullable bracketedName)]).render .fail = .ok r ∧
      r.text = "Box<any, (\x7b [key: string]: Fn(A|B) \x7d | null)[]>" ∧
        bracketedName.MentionsBalanced ∧
      ∃ inner node : Rendering, (nullable bracketedName).render .fail = .ok inner ∧
        (array (nullable bracketedName)).render .fail = .ok node ∧
          node.text.toList <:+: r.text.toList ∧
        node.text = "(" ++ inner.text ++ ")[]" := by
  have hb : bracketedName.MentionsBalanced := by
    intro name hm
    obtain rfl : name = ⟨some "Shop", "Fn(A|B)"⟩ := by
      simpa [bracketedName, tokens] using type_mem_tokens_iff.mpr hm
    decide
  have hr : (generic ⟨none, "Box"⟩ [.any, .array (.nullable bracketedName)]).render .fail =
      .ok ⟨"Box<any, (\x7b [key: string]: Fn(A|B) \x7d | null)[]>", ["Box", "Shop.Fn(A|B)"]⟩ := rfl
  have hp : At (generic ⟨none, "Box"⟩ [.any, .array (.nullable bracketedName)]) [1]
      (.array (.nullable bracketedName)) :=
    .argument rfl (.here _)
  obtain ⟨inner, node, hinner, hnode, hinfix, hbalanced, -⟩ := nullable_element_in_parentheses hr hp
  exact ⟨_, hr, rfl, hb, inner, node, hinner, hnode, hinfix, hbalanced hb⟩

/-- The value of an array of what a name refers to, or nothing. -/
def nullableArray (name : String) : Json :=
  .object [("array", .object [("nullable", .object [("reference", .string name)])])]

/-- The array is read, and is written without the parentheses that its element needs. -/
def HidesBar (name : String) : Prop :=
  (∀ l, read l (nullableArray name) = .ok (.array (.nullable (.reference ⟨none, name⟩)))) ∧
    ∃ inner node : Rendering, (nullable (.reference ⟨none, name⟩)).render .fail = .ok inner ∧
      (array (nullable (.reference ⟨none, name⟩))).render .fail = .ok node ∧
        node.text ≠ "(" ++ inner.text ++ ")[]"

lemma hidesBar {name : String} (hne : name ≠ "") (ht : Text.IsTrim name.toList)
    (hd : '.' ∉ name.toList)
    (ha : Rendering.arrayOf (Rendering.nullableOf name) ≠ "(" ++ Rendering.nullableOf name ++
      ")[]") : HidesBar name := by
  refine ⟨fun l => ?_, _, _, render_of_spell rfl, render_of_spell rfl, ha⟩
  have hn : Named (.string name) name := ⟨name, rfl, Text.trims_self ht, hne⟩
  rw [← TypeName.parse_of_notMem hd]
  exact read_of_encodes
    (.array (single_self _ _) (.nullable (single_self _ _) (.reference (single_self _ _) hn))) l

/-- A bracket too many on either side of a name hides the bar behind the name. -/
theorem unbalanced_names_hide_bar : HidesBar "A<" ∧ HidesBar "A>" :=
  ⟨@hidesBar "A<" (by decide) (by decide) (by decide) (by decide),
    @hidesBar "A>" (by decide) (by decide) (by decide) (by decide)⟩

end TypeExpr

end Typescribe
