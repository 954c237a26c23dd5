import Mathlib
import Typescribe.Proofs.JobStages
import Typescribe.Proofs.LastWriter
import Typescribe.Proofs.TypeNames

/-!
# Templates of a directory

A directory lists its files in any order. A file's name tells the name of its template and the other
way round, so no two files claim one name, and the templates that are loaded depend on the files
only. A stem that is no text names no template.
-/
namespace Typescribe

namespace FileName

lemma toByteArray_of_fromUTF8? {octets : ByteArray} {s : String}
    (h : String.fromUTF8? octets = some s) : s.toByteArray = octets := by
  rw [String.fromUTF8?] at h
  split at h
  · cases h
    rfl
  · cases h

lemma toByteArray_of_ofOctets {list : List UInt8} {s : String} (h : ofOctets list = .text s) :
    s.toByteArray = ⟨list.toArray⟩ := by
  rw [ofOctets] at h
  split at h
  · next hs =>
    obtain rfl := text.inj h
    exact toByteArray_of_fromUTF8? hs
  · cases h

lemma toByteArray_dotted {stem extension : String} {before after : List UInt8}
    (hs : stem.toByteArray = ⟨before.toArray⟩) (he : extension.toByteArray = ⟨after.toArray⟩) :
    (stem ++ "." ++ extension).toByteArray = ⟨(before ++ dot :: after).toArray⟩ := by
  have hd : ".".toByteArray = ⟨[dot].toArray⟩ := by decide
  rw [String.toByteArray_append, String.toByteArray_append, hs, he, hd]
  apply ByteArray.ext
  simp

/-- Octets that are no text have a stem or an extension that is none. -/
lemma cut?_octets_ne {list : List UInt8} (h : String.fromUTF8? ⟨list.toArray⟩ = none)
    (stem extension : String) : (octets list h).cut? ≠ some (.text stem, .text extension) := by
  intro hc
  rw [cut?] at hc
  split at hc
  · next before after hs =>
    split_ifs at hc
    obtain ⟨hb, ha⟩ := Prod.mk.inj (Option.some.inj hc)
    have hl := toByteArray_dotted (toByteArray_of_ofOctets hb) (toByteArray_of_ofOctets ha)
    rw [← (Text.splitLast_eq_some hs).1] at hl
    have hv := (stem ++ "." ++ extension).isValidUTF8
    rw [hl] at hv
    simp [String.fromUTF8?, hv] at h
  · cases hc

/-- The texts on both sides of the last dot, which is not the first character. -/
lemma cut?_eq_some_text_iff {file : FileName} {stem extension : String} :
    file.cut? = some (.text stem, .text extension) ↔
      stem ≠ "" ∧ '.' ∉ extension.toList ∧ file = .text (stem ++ "." ++ extension) := by
  cases file with
  | octets list h =>
    have hc := cut?_octets_ne h stem extension
    simp [hc]
  | text s =>
    constructor
    · intro h
      rw [cut?] at h
      split at h
      · next before after hs =>
        split_ifs at h with he
        obtain ⟨hb, ha⟩ := Prod.mk.inj (Option.some.inj h)
        obtain rfl := text.inj hb
        obtain rfl := text.inj ha
        obtain ⟨hl, hn⟩ := Text.splitLast_eq_some hs
        refine ⟨by simpa using he, by simpa using hn, congrArg text ?_⟩
        rw [← String.toList_inj, hl]
        simp
      · cases h
    · rintro ⟨hne, hn, hs⟩
      obtain rfl := text.inj hs
      have hl : (stem ++ "." ++ extension).toList = stem.toList ++ '.' :: extension.toList := by
        simp
      rw [cut?, hl, Text.splitLast_append _ hn]
      simp [hne]

end FileName

namespace Templates

/-- The extension is that of templates. -/
def IsTemplateFile (file : FileName) : Prop :=
  ∃ stem, file.cut? = some (stem, .text extension)

/-- The file is named for the stem, with the extension of templates. -/
structure HasStem (file : FileName) (stem : String) : Prop where
  ne_empty : stem ≠ ""
  eq : file = .text (stem ++ ".template")

lemma cut?_eq_some_iff_hasStem {file : FileName} {stem : String} :
    file.cut? = some (.text stem, .text extension) ↔ HasStem file stem := by
  have hext : '.' ∉ extension.toList := by decide
  have hf : stem ++ "." ++ extension = stem ++ ".template" := String.append_assoc
  rw [FileName.cut?_eq_some_text_iff, hf]
  exact ⟨fun h => ⟨h.1, h.2.2⟩, fun h => ⟨h.ne_empty, hext, h.eq⟩⟩

lemma nameOfFile?_eq_some_iff {file : FileName} {stem : String} :
    nameOfFile? file = some stem ↔ HasStem file stem := by
  rw [← cut?_eq_some_iff_hasStem, nameOfFile?, Option.bind_eq_bind, Option.bind_eq_some_iff]
  constructor
  · rintro ⟨⟨before, after⟩, hc, h⟩
    cases before <;> cases after <;> simp_all [FileName.text?]
  · intro hc
    exact ⟨_, hc, by simp [FileName.text?]⟩

lemma HasStem.file_unique {file file' : FileName} {stem : String} (h : HasStem file stem)
    (h' : HasStem file' stem) : file = file' :=
  h.eq.trans h'.eq.symm

/-- A template file whose stem is a text. -/
def NamesTemplate (file : FileName) : Prop :=
  ∃ stem, HasStem file stem

lemma namesTemplate_iff {file : FileName} : NamesTemplate file ↔ (nameOfFile? file).isSome := by
  rw [Option.isSome_iff_exists]
  exact exists_congr fun stem => nameOfFile?_eq_some_iff.symm

instance : DecidablePred NamesTemplate := fun _ => decidable_of_iff _ namesTemplate_iff.symm

end Templates

namespace FileTree

/-- The file system of a tree in which directories are listed in an order of its own. -/
def listing (order : List FileName → List FileName) : FileSystem (StateM FileTree) where
  readText := fileSystem.readText
  list path := do
    return ((← get).list? path).map order
  createDirectories := fileSystem.createDirectories
  writeText := fileSystem.writeText

/-- Every directory is listed with the names that it has. -/
def IsOrder (order : List FileName → List FileName) : Prop :=
  ∀ names, (order names).Perm names

lemma utf8ByteSize_join_le (directory name : String) :
    directory.utf8ByteSize + name.utf8ByteSize ≤ (FileSystem.join directory name).utf8ByteSize := by
  rw [FileSystem.join]
  split_ifs
  · rw [String.utf8ByteSize_append]
  · rw [String.utf8ByteSize_append, String.utf8ByteSize_append]
    omega

variable {t : FileTree}

lemma readText?_join_of_lt {directory name : String}
    (h : maxPathSize < directory.utf8ByteSize + name.utf8ByteSize) :
    t.readText? (FileSystem.join directory name) = none := by
  have hj := utf8ByteSize_join_le directory name
  rw [readText?, resolve?, if_pos (by simp; omega)]
  rfl

lemma utf8ByteSize_slashes (n : ℕ) : (String.ofList (List.replicate n '/')).utf8ByteSize = n := by
  induction n with
  | zero => simp
  | succ n ih =>
    have hs : (String.singleton '/').utf8ByteSize = 1 := by decide
    rw [List.replicate_succ, String.ofList_cons, String.utf8ByteSize_append, ih, hs, Nat.add_comm]

/-- Slashes behind the path of a directory do not lead on. -/
lemma locate?_slashes {path : String} {out : Path} (hp : path ≠ "") (hl : t.locate? path = some out)
    (hd : t.isDirectory out = true) (n : ℕ) :
    t.locate? (path ++ String.ofList (List.replicate n '/')) = some out := by
  induction n with
  | zero => simpa using hl
  | succ n ih =>
    have hj : path ++ String.ofList (List.replicate (n + 1) '/') =
        String.ofList ((path ++ String.ofList (List.replicate n '/')).toList ++ '/' :: []) := by
      simp [List.replicate_succ']
    rw [locate?, if_neg (by simp [hp]), start_append hp] at ih ⊢
    rw [hj, parts_append_slash, String.ofList_toList, follow?_append, ih, Option.bind_some]
    simp [parts, follow?, hd]

end FileTree

namespace Templates

open FileTree

variable {t : FileTree} {directory : String} {names : List FileName}
    {order : List FileName → List FileName}

/-- A file of the directory gives a text to the name that its stem is. -/
structure FileGives (t : FileTree) (directory : String) (file : FileName)
    (stem text : String) : Prop where
  hasStem : HasStem file stem
  read : t.readText? (FileSystem.join directory (fileOf stem)) = some text

/-- Every file of the directory that is named for a template is one that can be read as a text. -/
def AllReadable (t : FileTree) (directory : String) (names : List FileName) : Prop :=
  ∀ file ∈ names, ∀ stem, HasStem file stem → ∃ text, FileGives t directory file stem text

def item? (t : FileTree) (directory : String) (file : FileName) : Option (String × String) :=
  (nameOfFile? file).bind (t.template? directory)

lemma item?_eq_some_iff (file : FileName) (stem text : String) :
    item? t directory file = some (stem, text) ↔ FileGives t directory file stem text := by
  rw [item?, Option.bind_eq_some_iff]
  constructor
  · rintro ⟨name, hn, h⟩
    obtain ⟨found, hr, he⟩ := Option.map_eq_some_iff.mp h
    obtain ⟨rfl, rfl⟩ := Prod.mk.inj he
    exact ⟨nameOfFile?_eq_some_iff.mp hn, hr⟩
  · intro h
    exact ⟨stem, nameOfFile?_eq_some_iff.mpr h.hasStem, by rw [template?, h.read]; rfl⟩

lemma allReadable_cons {file : FileName} : AllReadable t directory (file :: names) ↔
    (∀ stem, HasStem file stem → ∃ text, FileGives t directory file stem text) ∧
      AllReadable t directory names :=
  List.forall_mem_cons

lemma mapM_template?_cases (t : FileTree) (directory : String) (names : List FileName) :
    (AllReadable t directory names ∧
      (namesOfFiles names).mapM (t.template? directory) =
        some (names.filterMap (item? t directory))) ∨
    (¬ AllReadable t directory names ∧
      (namesOfFiles names).mapM (t.template? directory) = none) := by
  induction names with
  | nil => exact .inl ⟨by simp [AllReadable], rfl⟩
  | cons file names ih =>
    rw [allReadable_cons]
    cases hn : nameOfFile? file with
    | none =>
      have hf (stem : String) : ¬ HasStem file stem := by simp [← nameOfFile?_eq_some_iff, hn]
      have he : namesOfFiles (file :: names) = namesOfFiles names := by simp [namesOfFiles, hn]
      have hi : (file :: names).filterMap (item? t directory) =
          names.filterMap (item? t directory) := by
        simp [item?, hn]
      simpa [hf, he, hi] using ih
    | some stem =>
      have hf : HasStem file stem := nameOfFile?_eq_some_iff.mp hn
      have he : namesOfFiles (file :: names) = stem :: namesOfFiles names := by
        simp [namesOfFiles, hn]
      rw [he, List.mapM_cons]
      cases hr : t.template? directory stem with
      | none =>
        refine .inr ⟨?_, rfl⟩
        rintro ⟨hall, -⟩
        obtain ⟨text, hg⟩ := hall stem hf
        simp [template?, hg.read] at hr
      | some entry =>
        have hi : item? t directory file = some entry := by rw [item?, hn, Option.bind_some, hr]
        have hall : ∀ stem, HasStem file stem → ∃ text, FileGives t directory file stem text := by
          intro stem' hs
          have hg := (item?_eq_some_iff file entry.1 entry.2).mp hi
          obtain rfl : stem' = entry.1 := by
            have h' := nameOfFile?_eq_some_iff.mpr hs
            rw [nameOfFile?_eq_some_iff.mpr hg.hasStem] at h'
            exact (Option.some.inj h').symm
          exact ⟨entry.2, hg⟩
        rcases ih with ⟨ha, hm⟩ | ⟨ha, hm⟩
        · refine .inl ⟨⟨hall, ha⟩, ?_⟩
          rw [hm, List.filterMap_cons_some hi]
          rfl
        · refine .inr ⟨fun h => ha h.2, ?_⟩
          rw [hm]
          rfl

/-- Where all can be read, each file that is named for a template gives one. -/
lemma AllReadable.length_filterMap_item? (h : AllReadable t directory names) :
    (names.filterMap (item? t directory)).length = names.countP (NamesTemplate ·) := by
  rw [List.length_filterMap_eq_countP]
  refine List.countP_congr fun file hf => ?_
  rw [decide_eq_true_iff, Option.isSome_iff_exists]
  constructor
  · rintro ⟨entry, hi⟩
    exact ⟨entry.1, ((item?_eq_some_iff _ _ _).mp hi).hasStem⟩
  · rintro ⟨stem, hs⟩
    obtain ⟨text, hg⟩ := h file hf stem hs
    exact ⟨_, (item?_eq_some_iff _ _ _).mpr hg⟩

lemma loadFiles_listing (templates : Templates) (count : ℕ) (files : List FileName) :
    loadFiles (listing order) directory templates count files =
      loadFiles fileSystem directory templates count files := by
  induction files generalizing templates count with
  | nil => rfl
  | cons file files ih =>
    simp only [loadFiles, ih]
    rfl

lemma run_load (hl : t.list? directory = some names) (templates : Templates) :
    (load (listing order) directory templates).run.run t =
      (((namesOfFiles (order names)).mapM (t.template? directory)).elim (.error .inaccessible)
        fun entries =>
        .ok (templates.insertAll entries, 0 + entries.length), t) := by
  have hr : ((listing order).list directory).run t = (some (order names), t) := by
    change ((t.list? directory).map order, t) = _
    rw [hl]
    rfl
  rw [load, Output.run_request, hr]
  dsimp only
  rw [loadFiles_listing, Job.run_loadFiles]

/-- The files of the directory that are named for templates have given their texts, and all else is
as before. -/
structure Overridden (t : FileTree) (directory : String) (names : List FileName)
    (old new : Templates) : Prop where
  given : ∀ file ∈ names, ∀ stem text,
    FileGives t directory file stem text → new.get? stem = some text
  kept : ∀ key, (∀ file ∈ names, ¬ HasStem file key) → new.get? key = old.get? key

lemma overridden_insertAll (old : Templates) :
    Overridden t directory names old (old.insertAll (names.filterMap (item? t directory))) := by
  have hw (key : String) : WrittenOver (old.get? key) names (FileGives t directory · key)
      ((old.insertAll (names.filterMap (item? t directory))).get? key) :=
    writtenOver_insertAll item?_eq_some_iff old names key
  constructor
  · intro file hf stem text hg
    specialize hw stem
    generalize (Dictionary.insertAll _ _).get? stem = found at hw ⊢
    cases hw with
    | last h =>
      -- whichever file came last, it has this name
      obtain ⟨before, file', after, -, hg', -⟩ := h
      rw [hg'.hasStem.file_unique hg.hasStem] at hg'
      exact hg'.read.symm.trans hg.read
    | kept h => exact absurd hg (h file hf text)
  · intro key hn
    specialize hw key
    generalize (Dictionary.insertAll _ _).get? key = found at hw ⊢
    cases hw with
    | last h =>
      obtain ⟨before, file, after, he, hg, -⟩ := h
      exact absurd hg.hasStem (hn file (by simp [he]))
    | kept h => rfl

lemma Overridden.of_perm {names' : List FileName} (hp : names'.Perm names) {old new : Templates}
    (h : Overridden t directory names' old new) : Overridden t directory names old new :=
  ⟨fun file hf => h.given file (hp.mem_iff.mpr hf), fun key hn => h.kept key fun file hf =>
    hn file (hp.mem_iff.mp hf)⟩

/-- Nothing but the files decides what is found. -/
lemma Overridden.get?_eq (hr : AllReadable t directory names) {old new new' : Templates}
    (h : Overridden t directory names old new) (h' : Overridden t directory names old new')
    (key : String) : new'.get? key = new.get? key := by
  by_cases hk : ∃ file ∈ names, HasStem file key
  · obtain ⟨file, hf, hs⟩ := hk
    obtain ⟨text, hg⟩ := hr file hf key hs
    rw [h.given file hf key text hg, h'.given file hf key text hg]
  · push Not at hk
    rw [h.kept key hk, h'.kept key hk]

/-- Loading succeeds with these templates and this number, and leaves the tree as it is. -/
def Loads (t : FileTree) (directory : String) (order : List FileName → List FileName)
    (old new : Templates) (count : Nat) : Prop :=
  (load (listing order) directory old).run.run t = (.ok (new, count), t)

lemma loads_iff (hl : t.list? directory = some names) (ho : IsOrder order) {old new : Templates}
    {count : Nat} :
    Loads t directory order old new count ↔ AllReadable t directory names ∧
      new = old.insertAll ((order names).filterMap (item? t directory)) ∧
        count = names.countP (NamesTemplate ·) := by
  have hc : (order names).countP (NamesTemplate ·) = names.countP (NamesTemplate ·) :=
    (ho names).countP_eq _
  have ha : AllReadable t directory (order names) ↔ AllReadable t directory names :=
    forall_congr' fun file => by rw [(ho names).mem_iff]
  rw [Loads, run_load hl, ← hc, ← ha]
  rcases mapM_template?_cases t directory (order names) with ⟨hr, hm⟩ | ⟨hr, hm⟩
  · rw [hm, Option.elim_some, hr.length_filterMap_item?, Nat.zero_add]
    constructor
    · intro h
      cases h
      exact ⟨hr, rfl, rfl⟩
    · rintro ⟨-, rfl, rfl⟩
      rfl
  · rw [hm]
    constructor
    · intro h
      cases h
    · exact fun h => absurd h.1 hr

lemma run_ofDirectory_eq_ok_iff {new : Templates} :
    (ofDirectory (listing order) directory).run.run t = (.ok new, t) ↔
      ∃ count, Loads t directory order standard new count := by
  rw [ofDirectory, run_bind]
  simp only [Loads]
  rcases (load (listing order) directory standard).run.run t with ⟨_ | ⟨new', count'⟩, t'⟩
  · constructor
    · rintro ⟨⟩
    · rintro ⟨count, ⟨⟩⟩
  · constructor
    · rintro ⟨⟩
      exact ⟨count', rfl⟩
    · rintro ⟨count, ⟨⟩⟩
      rfl

lemma Loads.overridden (hl : t.list? directory = some names) (ho : IsOrder order)
    {old new : Templates} {count : Nat} (h : Loads t directory order old new count) :
    Overridden t directory names old new := by
  obtain ⟨-, rfl, -⟩ := (loads_iff hl ho).mp h
  exact (overridden_insertAll old).of_perm (ho names)

/-- Loading the templates of a directory takes all files that are named for templates, in whichever
order they are listed, and fails only for one that cannot be read. -/
theorem loading_independent_of_listing_order (hl : t.list? directory = some names)
    (ho : IsOrder order) :
    (∀ old, (∃ new count, Loads t directory order old new count) ↔ AllReadable t directory names) ∧
    (∀ old new count, Loads t directory order old new count →
      count = names.countP (NamesTemplate ·) ∧ Overridden t directory names old new ∧
      ∀ order', IsOrder order' →
        ∃ new', Loads t directory order' old new' count ∧ ∀ key, new'.get? key = new.get? key) ∧
    ∀ new, (ofDirectory (listing order) directory).run.run t = (.ok new, t) ↔
      ∃ count, Loads t directory order standard new count := by
  refine ⟨fun old => ⟨?_, ?_⟩, fun old new count h => ?_, fun new => run_ofDirectory_eq_ok_iff⟩
  · rintro ⟨new, count, h⟩
    exact ((loads_iff hl ho).mp h).1
  · exact fun hr => ⟨_, _, (loads_iff hl ho).mpr ⟨hr, rfl, rfl⟩⟩
  · obtain ⟨hr, -, hc⟩ := (loads_iff hl ho).mp h
    refine ⟨hc, h.overridden hl ho, fun order' ho' => ?_⟩
    have h' : Loads t directory order' old
        (old.insertAll ((order' names).filterMap (item? t directory))) count :=
      (loads_iff hl ho').mpr ⟨hr, rfl, hc⟩
    exact ⟨_, h', (h.overridden hl ho).get?_eq hr (h'.overridden hl ho')⟩

/-- The octets of `.template` behind one that no text has. -/
def octetsFile : FileName :=
  .octets [0xFF, 0x2E, 0x74, 0x65, 0x6D, 0x70, 0x6C, 0x61, 0x74, 0x65] (by decide)

/-- Among the files are one without a stem, one with two dots in front, one of another kind and one
whose stem is no text. -/
def folder : FileTree where
  entries := [(["t"], .directory), (["t", "a.b.template"], .file (.text "1")),
    (["t", ".template"], .directory), (["t", "..template"], .file (.text "2")),
    (["t", "notes.txt"], .file (.octets [0xFF])), (["t", octetsFile], .directory)]

def folderNames : List FileName :=
  ["a.b.template", ".template", "..template", "notes.txt", octetsFile]

lemma list?_folder : folder.list? "/t" = some folderNames := by
  decide +kernel

lemma allReadable_folder : AllReadable folder "/t" folderNames := by
  rcases mapM_template?_cases folder "/t" folderNames with ⟨h, -⟩ | ⟨-, h⟩
  · exact h
  · have hs : (namesOfFiles folderNames).mapM (folder.template? "/t") ≠ none := by decide +kernel
    exact absurd h hs

theorem folder_loaded_backwards :
    folder.list? "/t" = some folderNames ∧ IsOrder List.reverse ∧
    ∃ new, Loads folder "/t" List.reverse .empty new 2 ∧ new.get? "a.b" = some "1" ∧
      new.get? "." = some "2" ∧
      new.get? "notes" = none := by
  have ho : IsOrder List.reverse := List.reverse_perm
  have ha : FileGives folder "/t" "a.b.template" "a.b" "1" :=
    ⟨⟨by decide, by decide⟩, by decide +kernel⟩
  have hd : FileGives folder "/t" "..template" "." "2" :=
    ⟨⟨by decide, by decide⟩, by decide +kernel⟩
  obtain ⟨hiff, hall, -⟩ := loading_independent_of_listing_order list?_folder ho
  obtain ⟨new, count, h⟩ := (hiff .empty).mpr allReadable_folder
  obtain ⟨rfl, hover, -⟩ := hall _ _ _ h
  refine ⟨list?_folder, ho, new, h, hover.given _ (by decide) _ _ ha,
    hover.given _ (by decide) _ _ hd, hover.kept _ ?_⟩
  intro file hf hs
  rw [hs.eq] at hf
  exact absurd hf (by decide)

/-- The file is there and holds a text. -/
def HoldsText (t : FileTree) (directory : Path) (file : FileName) : Prop :=
  ∃ text, t.get? (directory ++ [file]) = some (.file (.text text))

/-- The stem of a name that is as long as names can be. -/
def longStem : String :=
  String.ofList (List.replicate 246 'a')

def longFolder : FileTree where
  entries := [(["t"], .directory), (["t", .text (fileOf longStem)], .file (.text "1"))]

/-- The path of its directory, with slashes behind. -/
def slashed (n : ℕ) : String :=
  "t" ++ String.ofList (List.replicate n '/')

lemma utf8ByteSize_slashed (n : ℕ) : (slashed n).utf8ByteSize = 1 + n := by
  rw [slashed, String.utf8ByteSize_append, utf8ByteSize_slashes]
  rfl

lemma resolve?_slashed {n : ℕ} (h : n < maxPathSize) :
    longFolder.resolve? (slashed n) = some [.text "t"] := by
  have hl : longFolder.locate? "t" = some [.text "t"] := by decide +kernel
  have hd : longFolder.isDirectory [.text "t"] = true := by decide +kernel
  rw [resolve?, if_neg]
  · exact locate?_slashes (by decide) hl hd n
  · rw [utf8ByteSize_slashed]
    simp [slashed]
    omega

lemma list?_slashed {n : ℕ} (h : n < maxPathSize) :
    longFolder.list? (slashed n) = some [.text (fileOf longStem)] := by
  rw [list?, resolve?_slashed h, Option.bind_eq_bind, Option.bind_some]
  decide +kernel

lemma not_allReadable_slashed {n : ℕ} (h : maxPathSize < n + 256) :
    ¬ AllReadable longFolder (slashed n) [.text (fileOf longStem)] := by
  intro ha
  obtain ⟨text, hg⟩ :=
    ha _ (List.mem_singleton_self _) longStem ⟨by decide +kernel, by decide +kernel⟩
  have hs : (fileOf longStem).utf8ByteSize = 255 := by decide +kernel
  have hr : longFolder.readText? (FileSystem.join (slashed n) (fileOf longStem)) = none := by
    refine readText?_join_of_lt ?_
    rw [utf8ByteSize_slashed, hs]
    omega
  rw [hg.read] at hr
  cases hr

/-- Whether all template files hold texts does not decide whether they can be loaded: one whose stem
is no text is passed over, even if it is a directory, and the path to one that holds a text can be
too long. -/
theorem template_passed_over_or_out_of_reach :
    (folder.resolve? "/t" = some [.text "t"] ∧ folder.list? "/t" = some folderNames ∧
      (∃ new count, Loads folder "/t" id .empty new count) ∧
      ∃ file ∈ folderNames, IsTemplateFile file ∧ ¬ HoldsText folder ["t"] file) ∧
    longFolder.resolve? (slashed 3900) = some [.text "t"] ∧
      longFolder.list? (slashed 3900) = some [.text (fileOf longStem)] ∧
      (∀ new count, ¬ Loads longFolder (slashed 3900) id .empty new count) ∧
      HoldsText longFolder ["t"] (fileOf longStem) := by
  have ho : IsOrder id := List.Perm.refl
  have hfile : folder.get? ["t", octetsFile] = some .directory := by decide +kernel
  have hshort : 3900 < maxPathSize := by decide
  refine ⟨⟨by decide +kernel, list?_folder, ?_, octetsFile, by decide, ?_, ?_⟩,
    resolve?_slashed hshort, list?_slashed hshort, ?_, "1", by decide +kernel⟩
  · exact ⟨_, _, (loads_iff list?_folder ho).mpr ⟨allReadable_folder, rfl, rfl⟩⟩
  · exact ⟨.octets [0xFF] (by decide), by decide +kernel⟩
  · rintro ⟨text, h⟩
    cases hfile.symm.trans h
  · intro new count h
    exact not_allReadable_slashed (by decide) ((loads_iff (list?_slashed hshort) ho).mp h).1

end Templates

end Typescribe
