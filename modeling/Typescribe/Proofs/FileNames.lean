import Mathlib
import Typescribe.Output
import Typescribe.Proofs.FileTree
import Typescribe.Proofs.Lines

/-!
# File names of fragments

A file name is made of lowercase forms of letters and digits, of hyphens, and of its ending. So it
is one part of a path, and it is not the name of the manifest.
-/
namespace Typescribe.Text

lemma lowercaseShifts_targets : ∀ s ∈ lowercaseShifts,
    97 ≤ s.target ∧ (s.target + (s.last - s.first) < 0xD800 ∨
      0xDFFF < s.target ∧ s.target + (s.last - s.first) < 0x110000) := by
  decide +kernel

lemma lowercaseExpansions_points : ∀ e ∈ lowercaseExpansions, ∀ n ∈ e.2, 97 ≤ n ∧ n < 0xD800 := by
  decide

lemma toNat_ofNat_of_valid {n : Nat} (h : n < 0xD800 ∨ 0xDFFF < n ∧ n < 0x110000) :
    (Char.ofNat n).toNat = n := by
  rw [Char.toNat_ofNat, if_pos h]

/-- A lowercase form is the character itself or stands at or after `a`. -/
lemma mem_lowercaseForm {c d : Char} (h : d ∈ lowercaseForm c) : d = c ∨ 97 ≤ d.toNat := by
  rw [lowercaseForm, caseForm] at h
  split at h
  · next points hp =>
    obtain ⟨n, hn, rfl⟩ := List.mem_map.mp h
    obtain ⟨before, after, he, -⟩ := List.lookup_eq_some_iff.mp hp
    have hb := lowercaseExpansions_points (c.toNat, points) (by simp [he]) n hn
    rw [toNat_ofNat_of_valid (.inl hb.2)]
    exact .inr hb.1
  · split at h
    · next point hp =>
      obtain rfl := List.mem_singleton.mp h
      obtain ⟨s, hs, ha⟩ := List.exists_of_findSome?_eq_some hp
      have ht := lowercaseShifts_targets s hs
      simp only [ Shift.apply?, Bool.and_eq_true, decide_eq_true_eq] at ha
      split at ha
      · obtain rfl := Option.some.inj ha
        rw [toNat_ofNat_of_valid (by omega)]
        omega
      · cases ha
    · exact .inl (List.mem_singleton.mp h)

lemma mem_lowercaseWord {cs : List Char} {d : Char} (h : d ∈ lowercaseWord cs) :
    d ∈ cs ∨ 97 ≤ d.toNat := by
  fun_induction lowercaseWord cs with
  | case1 => cases h
  | case2 =>
    obtain rfl := List.mem_singleton.mp h
    exact .inr (by decide)
  | case3 c =>
    rcases mem_lowercaseForm h with rfl | h
    · simp
    · exact .inr h
  | case4 c e rest ih =>
    rcases List.mem_append.mp h with h | h
    · rcases mem_lowercaseForm h with rfl | h
      · simp
      · exact .inr h
    · exact (ih h).imp_left (List.mem_cons_of_mem c)

lemma mem_of_mem_wordsFrom {mode : WordMode} {word cs w : List Char}
    (h : w ∈ wordsFrom mode word cs) : ∀ c ∈ w, c ∈ word ∨ c ∈ cs := by
  fun_induction wordsFrom mode word cs generalizing w with grind

lemma isAlphanumeric_of_mem_words {cs w : List Char} (h : w ∈ words cs) :
    ∀ c ∈ w, isAlphanumeric c = true := by
  obtain ⟨piece, hp, hw⟩ := List.mem_flatMap.mp h
  intro c hc
  have hm : c ∈ piece := by simpa using mem_of_mem_wordsFrom hw c hc
  simpa using eq_false_of_mem_splitOnP hp c hm

lemma mem_of_mem_intercalate {sep : List Char} {ls : List (List Char)} {d : Char}
    (h : d ∈ sep.intercalate ls) : d ∈ sep ∨ ∃ l ∈ ls, d ∈ l := by
  induction ls with
  | nil => simp at h
  | cons l ls ih =>
    cases ls with
    | nil => exact .inr ⟨l, by simpa using h⟩
    | cons l' ls => grind [List.intercalate_cons_cons]

/-- What a spelling with hyphens is made of. -/
lemma mem_kebabCase {cs : List Char} {d : Char} (h : d ∈ kebabCase cs) :
    d = '-' ∨ isAlphanumeric d = true ∨ 97 ≤ d.toNat := by
  rcases mem_of_mem_intercalate h with h | ⟨l, hl, hd⟩
  · exact .inl (List.mem_singleton.mp h)
  · obtain ⟨w, hw, rfl⟩ := List.mem_map.mp hl
    exact .inr ((mem_lowercaseWord hd).imp_left (isAlphanumeric_of_mem_words hw d))

end Typescribe.Text

namespace Typescribe.Output

open FileTree

lemma toList_fileName (id : FragmentId) :
    (fileName id).toList = Text.kebabCase (Text.afterLast '.' id.toList) ++ ['.', 't', 's'] := by
  simp [fileName]

lemma suffix_fileName (id : FragmentId) : ['.', 't', 's'] <:+ (fileName id).toList := by
  rw [toList_fileName]
  exact List.suffix_append _ _

lemma fileName_ne_of_not_suffix {id : FragmentId} {s : String}
    (h : ¬ ['.', 't', 's'] <:+ s.toList) : fileName id ≠ s := by
  rintro rfl
  exact h (suffix_fileName id)

/-- The only signs before the small letters that a file name can have are hyphens and dots. -/
lemma notMem_fileName (id : FragmentId) {c : Char} (hc : c.toNat < 97)
    (ha : Text.isAlphanumeric c = false) (hp : c ∉ ['-', '.']) : c ∉ (fileName id).toList := by
  rw [toList_fileName]
  intro h
  rcases List.mem_append.mp h with h | h
  · rcases Text.mem_kebabCase h with rfl | h | h
    · exact hp (by simp)
    · rw [ha] at h
      cases h
    · omega
  · simp only [List.mem_cons, List.not_mem_nil, or_false] at h
    rcases h with rfl | rfl | rfl
    · exact hp (by simp)
    · exact absurd hc (by decide)
    · exact absurd hc (by decide)

lemma isPart_fileName (id : FragmentId) : IsPart (fileName id) :=
  ⟨notMem_fileName id (by decide) (by decide +kernel) (by decide),
    fileName_ne_of_not_suffix (by decide), fileName_ne_of_not_suffix (by decide),
    fileName_ne_of_not_suffix (by decide)⟩

lemma isPart_manifestName : IsPart manifestName :=
  ⟨by decide, by decide, by decide, by decide⟩

lemma fileName_ne_manifestName (id : FragmentId) : fileName id ≠ manifestName :=
  fileName_ne_of_not_suffix (by decide)

/-- Only its length can keep a file name from being one. -/
lemma isName_fileName (id : FragmentId) :
    isName (fileName id) = decide ((fileName id).utf8ByteSize ≤ 255) := by
  have hz : '\x00' ∉ (fileName id).toList :=
    notMem_fileName id (by decide) (by decide +kernel) (by decide)
  simp [isName, hz]

/-- Whatever an id holds, its file stands right below the directory it is put in, unless the name is
too long for any file, and putting it there changes nothing else, the manifest least of all. -/
theorem file_stays_below_directory (id : FragmentId) :
    ['.', 't', 's'] <:+ (fileName id).toList ∧
      (∀ c ∈ ['/', '\\', '\x00'], c ∉ (fileName id).toList) ∧
      fileName id ∉ [".", "..", manifestName] ∧
      ∀ (t : FileTree) (directory : String) (out : Path),
        t.locate? directory = some out → t.isDirectory out = true →
          (t.locate? (FileSystem.join directory (fileName id)) =
            if (fileName id).utf8ByteSize ≤ 255 then some (out ++ [.text (fileName id)])
              else none) ∧
          ∀ (text : String) (t' : FileTree),
            t.writeText? (FileSystem.join directory (fileName id)) text = some t' →
              t'.get? (out ++ [.text (fileName id)]) = some (.file (.text text)) ∧
              (∀ q, q ≠ out ++ [.text (fileName id)] → t'.get? q = t.get? q) ∧
              t'.readText? (FileSystem.join directory manifestName) =
                t.readText? (FileSystem.join directory manifestName) := by
  refine ⟨suffix_fileName id, ?_, ?_, ?_⟩
  · intro c hc
    simp only [List.mem_cons, List.not_mem_nil, or_false] at hc
    rcases hc with rfl | rfl | rfl <;>
      exact notMem_fileName id (by decide) (by decide +kernel) (by decide)
  · have hp := isPart_fileName id
    simp [hp.ne_dot, hp.ne_dots, fileName_ne_manifestName id]
  · intro t directory out ho hd
    constructor
    · rw [locate?_join (isPart_fileName id) ho, follow?_part (isPart_fileName id) hd,
        isName_fileName]
      simp only [decide_eq_true_eq]
    · intro text t' h
      obtain ⟨-, hg⟩ := writeText?_join (isPart_fileName id) ho h
      refine ⟨by rw [hg, if_pos rfl], fun q hq => by rw [hg, if_neg hq], ?_⟩
      exact readText?_join_of_writeText? (isPart_fileName id) isPart_manifestName
        (fileName_ne_manifestName id) ho h

/-- An id that tries to leave the directory: its file is `x-a-b.ts` beside the manifest. -/
theorem climbing_id_stays_below_directory :
    let id := "../..\\x/A\x00B"
    let t : FileTree :=
      ⟨[(["out"], .directory), (["out", "manifest.json"], .file (.text "[]"))], []⟩
    let t' := t.set ["out", "x-a-b.ts"] (.file (.text "code"))
    fileName id = "x-a-b.ts" ∧ (∀ c ∈ ['/', '\\', '\x00'], c ∉ (fileName id).toList) ∧
      t.locate? "./out" = some [.text "out"] ∧ t.isDirectory ["out"] = true ∧
      t.locate? (FileSystem.join "./out" (fileName id)) = some [.text "out", .text "x-a-b.ts"] ∧
      t.writeText? (FileSystem.join "./out" (fileName id)) "code" = some t' ∧
      t'.get? ["out", "x-a-b.ts"] = some (.file (.text "code")) ∧
      t'.readText? (FileSystem.join "./out" manifestName) = some "[]" := by
  intro id t t'
  have hn : fileName id = "x-a-b.ts" := by decide +kernel
  have ho : t.locate? "./out" = some [.text "out"] := by decide +kernel
  have hd : t.isDirectory ["out"] = true := by decide +kernel
  have hw : t.writeText? (FileSystem.join "./out" (fileName id)) "code" = some t' := by
    decide +kernel
  obtain ⟨-, hc, -, h⟩ := file_stays_below_directory id
  obtain ⟨hf, hwrite⟩ := h t "./out" ["out"] ho hd
  obtain ⟨hg, -, hm⟩ := hwrite "code" t' hw
  refine ⟨hn, hc, ho, hd, ?_, hw, ?_, ?_⟩
  · rw [hf, hn]
    decide
  · rwa [hn] at hg
  · rw [hm]
    decide +kernel

end Typescribe.Output
