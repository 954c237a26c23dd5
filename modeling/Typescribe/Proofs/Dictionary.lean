import Mathlib
import Typescribe.Dictionary

/-! Look-ups after entries have been put in. -/
namespace Typescribe

lemma lookup_filter_ne {κ ω : Type} [BEq κ] [LawfulBEq κ] {entries : List (κ × ω)} {p q : κ}
    (h : q ≠ p) : (entries.filter fun e => e.1 != p).lookup q = entries.lookup q := by
  induction entries with
  | nil => rfl
  | cons e entries ih =>
    obtain ⟨x, entry⟩ := e
    by_cases hx : x = p
    · subst hx
      have hq : (q == x) = false := by simpa using h
      simp [List.lookup_cons, hq, ih]
    · simp [hx, List.lookup_cons, ih]

lemma lookup_isSome_iff_mem {ω : Type} {entries : List (String × ω)} {key : String} :
    (entries.lookup key).isSome ↔ key ∈ entries.map Prod.fst := by
  rw [List.lookup_isSome_iff, List.mem_map]
  simp only [beq_iff_eq, eq_comm (a := key)]

namespace Dictionary

variable {α : Type} (d : Dictionary α)

@[simp] lemma get?_empty (key : String) : (empty : Dictionary α).get? key = none := rfl

lemma get?_insert (key : String) (value : α) (k : String) :
    (d.insert key value).get? k = if k = key then some value else d.get? k := by
  by_cases hk : k = key
  · subst hk
    simp [get?, insert]
  · have hb : (k == key) = false := by simpa using hk
    simp [get?, insert, List.lookup_cons, hb, hk, lookup_filter_ne hk]

lemma contains_iff {key : String} : d.contains key ↔ ∃ value, d.get? key = some value := by
  rw [contains, Option.isSome_iff_exists]

lemma insertAll_append (xs ys : List (String × α)) :
    d.insertAll (xs ++ ys) = (d.insertAll xs).insertAll ys :=
  List.foldl_append

/-- Entries with distinct keys all go in, whatever their order. -/
lemma get?_insertAll_of_nodup {entries : List (String × α)} (h : (entries.map Prod.fst).Nodup)
    (key : String) : (d.insertAll entries).get? key = (entries.lookup key).or (d.get? key) := by
  induction entries generalizing d with
  | nil => rfl
  | cons e entries ih =>
    obtain ⟨k, value⟩ := e
    obtain ⟨hk, hrest⟩ := List.nodup_cons.mp h
    have hi := ih (d.insert k value) hrest
    rw [get?_insert] at hi
    rw [insertAll, List.foldl_cons]
    rw [insertAll] at hi
    rw [hi, List.lookup_cons]
    by_cases he : key = k
    · subst he
      have hn : entries.lookup key = none := by
        rw [← Option.not_isSome_iff_eq_none, lookup_isSome_iff_mem]
        exact hk
      simp [hn]
    · have hb : (key == k) = false := by simpa using he
      simp [he, hb]

lemma get?_merge (other : Dictionary α) (key : String) :
    (d.merge other).get? key = (other.get? key).or (d.get? key) :=
  d.get?_insertAll_of_nodup other.distinct key

/-- There are as many entries as keys. -/
lemma encard_keys : {key | ∃ value, d.get? key = some value}.encard = d.size := by
  have hs : {key | ∃ value, d.get? key = some value} =
      ((d.entries.map Prod.fst).toFinset : Set String) := by
    ext key
    simp only [Set.mem_ofPred_eq, List.coe_toFinset, ← Option.isSome_iff_exists]
    exact lookup_isSome_iff_mem
  rw [hs, Set.encard_coe_eq_coe_finsetCard, List.toFinset_card_of_nodup d.distinct, List.length_map,
    size]

end Dictionary

end Typescribe
