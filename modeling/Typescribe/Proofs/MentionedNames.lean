import Mathlib
import Typescribe.Proofs.Dependencies
import Typescribe.Proofs.RenderingStructure
import Typescribe.Proofs.TypeNames
import Typescribe.Proofs.UnresolvedTypes

/-!
# A rendered type and its dependencies name the same types

The text of a rendering and its dependencies come from one list of tokens, each a word of the
language or the name of a type. `runs` finds the tokens in the text again, as the longest stretches
without a space or a sign, and the dependencies are the names among them.
-/
namespace Typescribe

namespace TypeGrammar

def isBreak (c : Char) : Bool :=
  c = ' ' || delimiters.contains c

/-- A stretch of a text without breaks that no character before or after it would extend. -/
structure IsRun (run text : List Char) : Prop where
  nonempty : run ≠ []
  unbroken : ∀ c ∈ run, isBreak c = false
  maximal : ∃ before after,
    text = before ++ run ++ after ∧ (∀ c ∈ before.getLast?, isBreak c = true) ∧
    ∀ c ∈ after.head?, isBreak c = true

def runs (text : List Char) : List (List Char) :=
  (text.splitOnP isBreak).filter fun run => !run.isEmpty

lemma runs_append_break (a b : List Char) {c : Char} (hc : isBreak c = true) :
    runs (a ++ c :: b) = runs a ++ runs b := by
  rw [runs, List.splitOnP_append_cons a b hc, List.filter_append]
  rfl

lemma runs_cons_break (b : List Char) {c : Char} (hc : isBreak c = true) : runs (c :: b) = runs b :=
  runs_append_break [] b hc

lemma runs_unbroken {a : List Char} (hne : a ≠ []) (ha : ∀ c ∈ a, isBreak c = false) :
    runs a = [a] := by
  rw [runs, List.splitOnP_eq_singleton ha]
  simp [hne]

lemma IsRun.append_left {run a : List Char} (h : IsRun run a) (b : List Char) {c : Char}
    (hc : isBreak c = true) : IsRun run (a ++ c :: b) := by
  obtain ⟨before, after, rfl, hb, ha⟩ := h.maximal
  refine ⟨h.nonempty, h.unbroken, before, after ++ c :: b, by simp, hb, ?_⟩
  cases after with
  | nil => simpa using hc
  | cons d after => simpa using ha

lemma IsRun.append_right {run b : List Char} (h : IsRun run b) (a : List Char) {c : Char}
    (hc : isBreak c = true) : IsRun run (a ++ c :: b) := by
  obtain ⟨before, after, rfl, hb, ha⟩ := h.maximal
  refine ⟨h.nonempty, h.unbroken, a ++ c :: before, after, by simp, ?_, ha⟩
  cases before with
  | nil => simpa using hc
  | cons d before =>
    rw [List.getLast?_append_cons, List.getLast?_cons_cons]
    exact hb

/-- `runs` finds exactly the runs. -/
theorem mem_runs_iff {run text : List Char} : run ∈ runs text ↔ IsRun run text := by
  constructor
  · intro h
    induction hn : text.length using Nat.strong_induction_on generalizing text with
    | _ n ih =>
      by_cases hb : ∃ c ∈ text, isBreak c = true
      · obtain ⟨c, hm, hc⟩ := hb
        obtain ⟨a, b, rfl⟩ := List.append_of_mem hm
        rw [runs_append_break a b hc] at h
        have hlen : (a ++ c :: b).length = a.length + b.length + 1 := by simp; omega
        rcases List.mem_append.mp h with h | h
        · exact (ih a.length (by omega) h rfl).append_left b hc
        · exact (ih b.length (by omega) h rfl).append_right a hc
      · have hu : ∀ c ∈ text, isBreak c = false := by simpa using hb
        rw [runs, List.splitOnP_eq_singleton hu, List.mem_filter, List.mem_singleton] at h
        obtain ⟨rfl, hne⟩ := h
        exact ⟨by simpa using hne, hu, [], [], by simp, by simp, by simp⟩
  · intro h
    obtain ⟨before, after, rfl, hb, ha⟩ := h.maximal
    have hafter : run ∈ runs (run ++ after) := by
      cases after with
      | nil => simp [runs_unbroken h.nonempty h.unbroken]
      | cons d after =>
        rw [runs_append_break run after (ha d rfl), runs_unbroken h.nonempty h.unbroken]
        simp
    rw [List.append_assoc]
    cases before using List.reverseRecOn with
    | nil => exact hafter
    | append_singleton before d =>
      have hd : isBreak d = true := hb d (by simp)
      rw [List.append_assoc, List.singleton_append, runs_append_break before _ hd]
      exact List.mem_append_right _ hafter

lemma runs_plainName {s : String} (h : isPlainName s = true) : runs s.toList = [s.toList] := by
  rw [isPlainName, Bool.and_eq_true] at h
  refine runs_unbroken (by simpa using h.1) fun c hc => ?_
  have hp := List.all_eq_true.mp h.2 c hc
  rw [isNameChar, Bool.and_eq_true] at hp
  have hs : c ≠ ' ' := by
    rintro rfl
    exact absurd hp.1 (by decide)
  simpa [isBreak, hs] using hp.2

end TypeGrammar

/-- The words that a rendering may have of its own. -/
def ownWords : List String :=
  ["number", "boolean", "string", "Date", "any", "null", "key"]

inductive Token where
  | own (word : String) (h : word ∈ ownWords)
  | type (name : TypeName)

def Token.text : Token → String
  | .own word _ => word
  | .type name => name.simple

lemma ScalarKind.spelling_mem (kind : ScalarKind) : kind.spelling ∈ ownWords := by
  cases kind <;> decide

lemma Rendering.indexKey_mem (key : TypeExpr) : indexKey key ∈ ownWords := by
  unfold indexKey
  split <;> decide

namespace TypeExpr

mutual

/-- What the written form consists of, apart from its signs. -/
def tokens : TypeExpr → List Token
  | .scalar kind => [.own kind.spelling kind.spelling_mem]
  | .reference name => [.type name]
  | .array element => element.tokens
  | .map key value =>
    .own "key" (by decide) :: .own (Rendering.indexKey key) (Rendering.indexKey_mem key) ::
      value.tokens
  | .nullable inner => inner.tokens ++ [.own "null" (by decide)]
  | .generic definition (a :: as) => .type definition :: tokensOfAll (a :: as)
  | _ => [.own "any" (by decide)]

def tokensOfAll : List TypeExpr → List Token
  | [] => []
  | t :: ts => t.tokens ++ tokensOfAll ts

end

/-- The type that an expression names by itself. -/
inductive NamesType : TypeExpr → TypeName → Prop
  | reference (name : TypeName) : NamesType (.reference name) name
  | generic (d : TypeName) (a : TypeExpr) (as : List TypeExpr) : NamesType (.generic d (a :: as)) d

/-- A type is named somewhere outside the keys of maps. -/
def MentionsType (t : TypeExpr) (name : TypeName) : Prop :=
  ∃ p u, At t p u ∧ NamesType u name

lemma names_iff {u : TypeExpr} {d : FragmentId} :
    Names u d ↔ ∃ name, NamesType u name ∧ FragmentId.ofType name = d := by
  constructor
  · intro h
    cases h with
    | reference name => exact ⟨name, .reference name, rfl⟩
    | generic definition a as => exact ⟨definition, .generic definition a as, rfl⟩
  · rintro ⟨name, h, rfl⟩
    cases h with
    | reference => exact .reference name
    | generic _ a as => exact .generic name a as

lemma Child.mentionsType {t u : TypeExpr} {n : ℕ} {name : TypeName} (hu : Child t n u)
    (h : u.MentionsType name) : t.MentionsType name := by
  obtain ⟨p, v, hv, hd⟩ := h
  cases hu with
  | element => exact ⟨_, v, .element hv, hd⟩
  | value => exact ⟨_, v, .value hv, hd⟩
  | inner => exact ⟨_, v, .inner hv, hd⟩
  | argument ha => exact ⟨_, v, .argument ha hv, hd⟩

lemma mem_tokensOfAll {ts : List TypeExpr} {token : Token} :
    token ∈ tokensOfAll ts ↔ ∃ t ∈ ts, token ∈ t.tokens := by
  induction ts with
  | nil => simp [tokensOfAll]
  | cons t ts ih => simp [tokensOfAll, ih]

/-- The tokens of a part are tokens of the whole. -/
lemma At.tokens_subset {t u : TypeExpr} {p : List ℕ} (h : At t p u) : u.tokens ⊆ t.tokens := by
  induction h with
  | here => exact List.Subset.refl _
  | element _ ih => exact ih
  | value _ ih =>
    rw [tokens]
    exact List.subset_cons_of_subset _ (List.subset_cons_of_subset _ ih)
  | inner _ ih =>
    rw [tokens]
    exact List.subset_append_of_subset_left _ ih
  | @argument d as n a u p ha _ ih =>
    intro token htoken
    have hm : token ∈ tokensOfAll as := mem_tokensOfAll.mpr ⟨a, List.mem_of_getElem? ha, ih htoken⟩
    cases as with
    | nil => simp at ha
    | cons b as => exact List.mem_cons_of_mem _ hm

/-- The names among the tokens are the types that are mentioned. -/
lemma type_mem_tokens_iff {t : TypeExpr} {name : TypeName} :
    .type name ∈ t.tokens ↔ t.MentionsType name := by
  constructor
  · intro h
    induction t using nested_induction with
    | scalar | parameter | unresolved | any => simp [tokens] at h
    | reference other =>
      obtain rfl : name = other := by simpa [tokens] using h
      exact ⟨[], _, .here _, .reference name⟩
    | array e ih => exact (Child.element e).mentionsType (ih h)
    | map k v _ ih =>
      refine (Child.value k v).mentionsType (ih ?_)
      simpa [tokens] using h
    | nullable i ih =>
      refine (Child.inner i).mentionsType (ih ?_)
      simpa [tokens] using h
    | generic d as ih =>
      cases as with
      | nil => simp [tokens] at h
      | cons a as =>
        rcases List.mem_cons.mp h with h | h
        · cases h
          exact ⟨[], _, .here _, .generic name a as⟩
        · obtain ⟨b, hb, hm⟩ := mem_tokensOfAll.mp h
          obtain ⟨n, hn⟩ := List.mem_iff_getElem?.mp hb
          exact (Child.argument hn).mentionsType (ih b hb hm)
  · rintro ⟨p, u, hu, hd⟩
    apply hu.tokens_subset
    cases hd <;> simp [tokens]

open TypeGrammar (runs runs_append_break runs_cons_break runs_plainName)
open Rendering (arrayOf mapOf nullableOf applied)

lemma runs_arrayOf (s : String) : runs (arrayOf s).toList = runs s.toList := by
  unfold arrayOf
  split
  · have hs : ("(" ++ s ++ ")[]").toList = '(' :: (s.toList ++ ')' :: ['[', ']']) := by simp
    rw [hs, runs_cons_break _ (by decide), runs_append_break _ _ (by decide)]
    simp [show runs ['[', ']'] = [] by decide]
  · have hs : (s ++ "[]").toList = s.toList ++ '[' :: [']'] := by simp
    rw [hs, runs_append_break _ _ (by decide)]
    simp [show runs [']'] = [] by decide]

lemma runs_nullableOf (s : String) :
    runs (nullableOf s).toList = runs s.toList ++ ["null".toList] := by
  have hs : (nullableOf s).toList = s.toList ++ ' ' :: "| null".toList := by simp [nullableOf]
  rw [hs, runs_append_break _ _ (by decide)]
  congr 1

lemma runs_mapOf (key : TypeExpr) (s : String) :
    runs (mapOf key s).toList = "key".toList :: (Rendering.indexKey key).toList ::
      runs s.toList := by
  have hs : (mapOf key s).toList = '\x7b' :: ' ' :: '[' :: ("key".toList ++ ':' :: ' ' ::
      ((Rendering.indexKey key).toList ++ ']' :: ':' :: ' ' :: (s.toList ++ ' ' :: ['\x7d']))) := by
    simp [mapOf]
  have hk : runs (Rendering.indexKey key).toList = [(Rendering.indexKey key).toList] := by
    unfold Rendering.indexKey
    split <;> decide
  rw [hs]
  simp (disch := decide) only [runs_cons_break, runs_append_break, hk,
    show runs "key".toList = ["key".toList] by decide, show runs ['\x7d'] = [] by
      decide, List.append_nil, List.singleton_append]

lemma runs_intercalate (ss : List String) :
    runs (", ".intercalate ss).toList = ss.flatMap fun s => runs s.toList := by
  induction ss with
  | nil => rfl
  | cons s ss ih =>
    by_cases hss : ss = []
    · simp [hss]
    · have hs : (", ".intercalate (s :: ss)).toList = s.toList ++ ',' :: ' ' ::
          (", ".intercalate ss).toList := by
        rw [String.intercalate_cons_of_ne_nil hss]
        simp
      rw [hs, runs_append_break _ _ (by decide), runs_cons_break _ (by decide), ih,
        List.flatMap_cons]

lemma runs_applied {name : String} (hn : isPlainName name = true) (arguments : List String) :
    runs (applied name arguments).toList = name.toList :: arguments.flatMap fun s =>
      runs s.toList := by
  have hs : (applied name arguments).toList =
      name.toList ++ '<' :: ((", ".intercalate arguments).toList ++ '>' :: []) := by
    simp [applied]
  rw [hs, runs_append_break _ _ (by decide), runs_append_break _ _ (by decide), runs_plainName hn,
    runs_intercalate]
  simp [show runs [] = [] by rfl]

lemma runs_unresolved {policy : UnresolvedPolicy} {name : String} {reason : UnresolvedReason}
    {r : Rendering} (h : Rendering.unresolved policy name reason = .ok r) :
    runs r.text.toList = ["any".toList] := by
  cases policy with
  | fail => cases h
  | any =>
    cases h
    decide

/-- Types that are mentioned have names that can stand in a text. -/
def MentionsPlain (t : TypeExpr) : Prop :=
  ∀ name, t.MentionsType name → isPlainName name.simple = true

mutual

theorem runs_spell {policy : UnresolvedPolicy} (t : TypeExpr) {r : Rendering} (hn : t.MentionsPlain)
    (h : t.spell policy = .ok r) : runs r.text.toList = t.tokens.map fun token =>
      token.text.toList := by
  match t with
  | .scalar kind =>
    cases h
    cases kind <;> decide
  | .any =>
    cases h
    decide
  | .reference name =>
    cases h
    exact runs_plainName (hn name ⟨[], _, .here _, .reference name⟩)
  | .array e =>
    obtain ⟨s, hs, h⟩ := bind_eq_ok h
    cases h
    rw [runs_arrayOf, runs_spell e (fun name hm => hn name ((Child.element e).mentionsType hm)) hs,
      tokens]
  | .map k v =>
    obtain ⟨s, hs, h⟩ := bind_eq_ok h
    cases h
    rw [runs_mapOf, runs_spell v (fun name hm => hn name ((Child.value k v).mentionsType hm)) hs,
      tokens]
    rfl
  | .nullable i =>
    obtain ⟨s, hs, h⟩ := bind_eq_ok h
    cases h
    rw [runs_nullableOf, runs_spell i (fun name hm => hn name ((Child.inner i).mentionsType hm)) hs,
      tokens, List.map_append]
    rfl
  | .generic d (a :: as) =>
    obtain ⟨rs, hrs, h⟩ := bind_eq_ok h
    cases h
    have hd : isPlainName d.simple = true := hn d ⟨[], _, .here _, .generic d a as⟩
    rw [runs_applied hd, tokens, List.map_cons, List.flatMap_map]
    refine congrArg (d.simple.toList :: ·) (runs_spellAll (a :: as) (fun t ht name hm => ?_) hrs)
    obtain ⟨n, hat⟩ := List.mem_iff_getElem?.mp ht
    exact hn name ((Child.argument hat).mentionsType hm)
  | .generic _ [] | .parameter _ | .unresolved _ => exact runs_unresolved h

theorem runs_spellAll {policy : UnresolvedPolicy} (ts : List TypeExpr) {rs : List Rendering}
    (hn : ∀ t ∈ ts, t.MentionsPlain) (h : spellAll policy ts = .ok rs) :
    rs.flatMap (fun r => runs r.text.toList) = (tokensOfAll ts).map fun token =>
      token.text.toList := by
  match ts with
  | [] =>
    cases h
    rfl
  | t :: ts =>
    obtain ⟨r, hr, h⟩ := bind_eq_ok h
    obtain ⟨rest, hrest, h⟩ := bind_eq_ok h
    cases h
    rw [List.flatMap_cons, runs_spell t (hn t (by simp)) hr,
      runs_spellAll ts (fun u hu => hn u (by simp [hu])) hrest, tokensOfAll, List.map_append]

end

lemma mem_dependencies_iff {policy : UnresolvedPolicy} {t : TypeExpr} {r : Rendering}
    (h : t.render policy = .ok r) {d : FragmentId} :
    d ∈ r.dependencies ↔ ∃ name, t.MentionsType name ∧ FragmentId.ofType name = d := by
  rw [dependencies_render h, FragmentId.mem_distinct, List.mem_map]
  constructor
  · rintro ⟨⟨p, d⟩, ho, rfl⟩
    obtain ⟨u, hu, hd⟩ := t.mem_occurrences.mp ho
    obtain ⟨name, hname, rfl⟩ := names_iff.mp hd
    exact ⟨name, ⟨p, u, hu, hname⟩, rfl⟩
  · rintro ⟨name, ⟨p, u, hu, hname⟩, rfl⟩
    exact ⟨(p, _), t.mem_occurrences.mpr ⟨u, hu, names_iff.mpr ⟨name, hname, rfl⟩⟩, rfl⟩

/-- The simple name of a type that is mentioned and whose fragment is `d`. -/
def SimpleNameOf (t : TypeExpr) (d : FragmentId) (word : String) : Prop :=
  ∃ name, t.MentionsType name ∧ FragmentId.ofType name = d ∧ name.simple = word

lemma isRun_render_iff {policy : UnresolvedPolicy} {t : TypeExpr} {r : Rendering}
    (hn : t.MentionsPlain) (h : t.render policy = .ok r) {word : String} :
    TypeGrammar.IsRun word.toList r.text.toList ↔ ∃ token ∈ t.tokens, token.text = word := by
  obtain ⟨s, hs, h⟩ := bind_eq_ok h
  cases h
  rw [← TypeGrammar.mem_runs_iff, runs_spell t hn hs, List.mem_map]
  simp only [String.toList_inj]

/-- The runs of a rendering that are not words of its own are the simple names of its dependencies.
Where no simple name has a dot, each dependency has one simple name, the part after its last dot. -/
theorem rendering_names_its_dependencies {policy : UnresolvedPolicy} {t : TypeExpr} {r : Rendering}
    (hn : t.MentionsPlain) (ho : ∀ name, t.MentionsType name → name.simple ∉ ownWords)
    (h : t.render policy = .ok r) :
    (∀ word : String, TypeGrammar.IsRun word.toList r.text.toList ∧ word ∉ ownWords ↔
      ∃ d ∈ r.dependencies, t.SimpleNameOf d word) ∧
    (∀ d ∈ r.dependencies, ∃ word, t.SimpleNameOf d word) ∧
    ((∀ name, t.MentionsType name → '.' ∉ name.simple.toList) →
      ∀ d ∈ r.dependencies, ∀ word, t.SimpleNameOf d word ↔ word = (TypeName.parse d).simple) := by
  refine ⟨fun word => ⟨?_, ?_⟩, fun d hd => ?_, fun hdot d hd word => ?_⟩
  · rintro ⟨hrun, hword⟩
    obtain ⟨token, htoken, rfl⟩ := (isRun_render_iff hn h).mp hrun
    cases token with
    | own word hown => exact absurd hown hword
    | type name =>
      have hm := type_mem_tokens_iff.mp htoken
      exact ⟨_, (mem_dependencies_iff h).mpr ⟨name, hm, rfl⟩, name, hm, rfl, rfl⟩
  · rintro ⟨d, -, name, hm, -, rfl⟩
    exact ⟨(isRun_render_iff hn h).mpr ⟨.type name, type_mem_tokens_iff.mpr hm, rfl⟩, ho name hm⟩
  · obtain ⟨name, hm, he⟩ := (mem_dependencies_iff h).mp hd
    exact ⟨name.simple, name, hm, he, rfl⟩
  · constructor
    · rintro ⟨name, hm, rfl, rfl⟩
      exact (TypeName.simple_parse_fullName (hdot name hm)).symm
    · rintro rfl
      obtain ⟨name, hm, rfl⟩ := (mem_dependencies_iff h).mp hd
      exact ⟨name, hm, rfl, (TypeName.simple_parse_fullName (hdot name hm)).symm⟩

/-- Two types with one simple name, and a key that could not stand in a text. -/
def sharedSimpleName : TypeExpr :=
  .map (.reference ⟨none, "no name"⟩) (.generic ⟨some "Shop", "Pair"⟩
    [.nullable (.reference ⟨some "Old", "Item"⟩), .array (.reference ⟨some "New", "Item"⟩)])

theorem sharedSimpleName_names_its_dependencies :
    ∃ r, sharedSimpleName.render .fail = .ok r ∧
      r.text = "\x7b [key: string]: Pair<Item | null, Item[]> \x7d" ∧
      r.dependencies = ["Shop.Pair", "Old.Item", "New.Item"] ∧ sharedSimpleName.MentionsPlain ∧
      (∀ name, sharedSimpleName.MentionsType name → name.simple ∉ ownWords) ∧
      (∀ word : String, TypeGrammar.IsRun word.toList r.text.toList ∧ word ∉ ownWords ↔
        ∃ d ∈ r.dependencies, sharedSimpleName.SimpleNameOf d word) ∧
      ∀ d ∈ r.dependencies, ∀ word,
        sharedSimpleName.SimpleNameOf d word ↔ word = (TypeName.parse d).simple := by
  have hm : ∀ name, sharedSimpleName.MentionsType name → name.simple ∈ ["Pair", "Item"] := by
    intro name h
    have ht : name = ⟨some "Shop", "Pair"⟩ ∨ name = ⟨some "Old", "Item"⟩ ∨
        name = ⟨some "New", "Item"⟩ := by
      simpa [sharedSimpleName, tokens, tokensOfAll] using type_mem_tokens_iff.mpr h
    rcases ht with rfl | rfl | rfl <;> decide
  have hn : sharedSimpleName.MentionsPlain := fun name h =>
    (show ∀ s ∈ ["Pair", "Item"], isPlainName s = true by decide) _ (hm name h)
  have ho : ∀ name, sharedSimpleName.MentionsType name → name.simple ∉ ownWords := fun name h =>
    (show ∀ s ∈ ["Pair", "Item"], s ∉ ownWords by decide) _ (hm name h)
  have hdot : ∀ name, sharedSimpleName.MentionsType name → '.' ∉ name.simple.toList := fun name h =>
    (show ∀ s ∈ ["Pair", "Item"], '.' ∉ s.toList by decide) _ (hm name h)
  have hr : sharedSimpleName.render .fail =
      .ok ⟨"\x7b [key: string]: Pair<Item | null, Item[]> \x7d",
          ["Shop.Pair", "Old.Item", "New.Item"]⟩ := by
    rfl
  obtain ⟨hruns, -, hparse⟩ := rendering_names_its_dependencies hn ho hr
  exact ⟨_, hr, rfl, rfl, hn, ho, hruns, hparse hdot⟩

end TypeExpr

end Typescribe
