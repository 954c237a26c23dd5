import Mathlib
import Typescribe.Error
import Typescribe.Json.Value
import Typescribe.Proofs.Blanks

/-!
# Places in a document

A place is a list of steps, each to a key of an object or to an item of an array. `follow?` takes
the steps, and `text` writes them. Where no key has a sign of paths in it, a written place can be
read in one way only.
-/
namespace Typescribe

namespace Json

def step? (v : Json) : Step → Option Json
  | .key name => v.get? name
  | .index i =>
    match v with
    | .array items => items[i]?
    | _ => none

/-- The value that the steps lead to. -/
def follow? : Json → List Step → Option Json
  | v, [] => some v
  | v, s :: steps => (v.step? s).bind fun w => w.follow? steps

lemma follow?_append (v : Json) (path steps : List Step) :
    v.follow? (path ++ steps) = (v.follow? path).bind fun w => w.follow? steps := by
  induction path generalizing v with
  | nil => rfl
  | cons s path ih =>
    rw [List.cons_append, follow?, follow?, Option.bind_assoc]
    simp only [ih]

end Json

/-- A name that has no sign of paths in it. -/
def isKeyName (name : String) : Bool :=
  name.toList.all fun c => c != '.' && c != '['

def Step.chars : Step → List Char
  | .key name => '.' :: name.toList
  | .index i => '[' :: (i.repr.toList ++ [']'])

namespace Location

/-- The steps from the whole document. -/
def path (l : Location) : List Step :=
  .key l.root :: l.steps

def IsPlain (l : Location) : Prop :=
  ∀ name, .key name ∈ l.path → isKeyName name = true

lemma toList_text (l : Location) : l.text.toList = l.root.toList ++ l.steps.flatMap Step.chars := by
  obtain ⟨root, steps⟩ := l
  induction steps generalizing root with
  | nil => simp [text]
  | cons s steps ih =>
    cases s with
    | key name =>
      have ht : text ⟨root, .key name :: steps⟩ = text ⟨root ++ "." ++ name, steps⟩ := rfl
      rw [ht, ih]
      simp [Step.chars]
    | index i =>
      have ht : text ⟨root, .index i :: steps⟩ = text ⟨root ++ "[" ++ i.repr ++ "]", steps⟩ := rfl
      rw [ht, ih]
      simp [Step.chars]

lemma head_steps (steps : List Step) :
    ∀ c ∈ (steps.flatMap Step.chars).head?, (c != '.' && c != '[') = false := by
  intro c hc
  cases steps with
  | nil => simp at hc
  | cons s steps =>
    cases s with
    | key name =>
      obtain rfl : '.' = c := by simpa [Step.chars] using hc
      rfl
    | index i =>
      obtain rfl : '[' = c := by simpa [Step.chars] using hc
      rfl

/-- A name ends where the next step begins. -/
lemma name_unique {a b : String} {xs ys : List Step} (ha : isKeyName a = true)
    (hb : isKeyName b = true)
    (h : a.toList ++ xs.flatMap Step.chars = b.toList ++ ys.flatMap Step.chars) :
    a = b ∧ xs.flatMap Step.chars = ys.flatMap Step.chars := by
  obtain ⟨hta, hda⟩ := Text.span_append (List.all_eq_true.mp ha) (head_steps xs)
  obtain ⟨htb, hdb⟩ := Text.span_append (List.all_eq_true.mp hb) (head_steps ys)
  rw [h] at hta hda
  exact ⟨String.toList_inj.mp (hta.symm.trans htb), hda.symm.trans hdb⟩

lemma number_unique {i j : ℕ} {xs ys : List Char}
    (h : i.repr.toList ++ ']' :: xs = j.repr.toList ++ ']' :: ys) : i = j ∧ xs = ys := by
  have hdigits : ∀ n : ℕ, ∀ c ∈ n.repr.toList, c.isDigit = true := by
    intro n c hc
    rw [Nat.repr, String.toList_ofList] at hc
    exact Nat.isDigit_of_mem_toDigits (by decide) (by decide) hc
  have hend : ∀ zs : List Char, ∀ c ∈ (']' :: zs).head?, c.isDigit = false := by
    intro zs c hc
    obtain rfl : ']' = c := by simpa using hc
    decide
  obtain ⟨hti, hdi⟩ := Text.span_append (hdigits i) (hend xs)
  obtain ⟨htj, hdj⟩ := Text.span_append (hdigits j) (hend ys)
  rw [h] at hti hdi
  exact ⟨Nat.repr_inj.mp (String.toList_inj.mp (hti.symm.trans htj)),
    (List.cons.inj (hdi.symm.trans hdj)).2⟩

lemma steps_unique {xs ys : List Step} (hx : ∀ name, .key name ∈ xs → isKeyName name = true)
    (hy : ∀ name, .key name ∈ ys → isKeyName name = true)
    (h : xs.flatMap Step.chars = ys.flatMap Step.chars) : xs = ys := by
  induction xs generalizing ys with
  | nil =>
    cases ys with
    | nil => rfl
    | cons s ys => cases s <;> simp [Step.chars] at h
  | cons s xs ih =>
    have hxs : ∀ name, .key name ∈ xs → isKeyName name = true :=
      fun name hm => hx name (by simp [hm])
    cases ys with
    | nil => cases s <;> simp [Step.chars] at h
    | cons r ys =>
      have hys : ∀ name, .key name ∈ ys → isKeyName name = true :=
        fun name hm => hy name (by simp [hm])
      rw [List.flatMap_cons, List.flatMap_cons] at h
      cases s with
      | key a =>
        cases r with
        | key b =>
          obtain ⟨rfl, hrest⟩ := name_unique (hx a (by simp)) (hy b (by simp)) (List.cons.inj h).2
          rw [ih hxs hys hrest]
        | index j => simp [Step.chars] at h
      | index i =>
        cases r with
        | key b => simp [Step.chars] at h
        | index j =>
          have hn : i.repr.toList ++ ']' :: xs.flatMap Step.chars = j.repr.toList ++ ']' ::
              ys.flatMap Step.chars := by
            simpa [Step.chars] using h
          obtain ⟨rfl, hrest⟩ := number_unique hn
          rw [ih hxs hys hrest]

/-- A written place can be read in one way only. -/
theorem text_injective_of_isPlain {l m : Location} (hl : l.IsPlain) (hm : m.IsPlain)
    (h : l.text = m.text) : l = m := by
  obtain ⟨root, xs⟩ := l
  obtain ⟨root', ys⟩ := m
  have ht := congrArg String.toList h
  rw [toList_text, toList_text] at ht
  obtain ⟨rfl, hrest⟩ := name_unique (hl root (by simp [path])) (hm root' (by simp [path])) ht
  have hs : xs = ys :=
    steps_unique (fun name hn => hl name (by simp [path, hn])) (fun name hn =>
      hm name (by simp [path, hn])) hrest
  rw [hs]

end Location

end Typescribe
