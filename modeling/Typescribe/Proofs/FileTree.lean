import Mathlib
import Typescribe.FileTree
import Typescribe.Proofs.Dictionary

/-!
# Laws of file trees

A write changes one path and turns no path into a directory or out of one, so paths lead where they
led before it. Making a directory puts directories where nothing was on the way to it, and nothing
else.
-/
namespace Typescribe.FileTree

variable {t t' : FileTree}

lemma isDirectory_root : t.isDirectory [] = true := by
  simp [isDirectory, get?]

lemma ne_root_of_not_isDirectory {p : Path} (h : t.isDirectory p = false) : p ≠ [] := by
  rintro rfl
  simp [isDirectory_root] at h

lemma get?_set {p : Path} (hp : p ≠ []) (entry : FileEntry) (q : Path) :
    (t.set p entry).get? q = if q = p then some entry else t.get? q := by
  by_cases hq : q = p
  · subst hq
    simp [get?, set, hp]
  · have hb : (q == p) = false := by simpa using hq
    simp [get?, set, hq, List.lookup_cons, hb, lookup_filter_ne hq]

lemma isDirectory_set_file {p : Path} (h : t.isDirectory p = false) (content : Content) (q : Path) :
    (t.set p (.file content)).isDirectory q = t.isDirectory q := by
  rw [isDirectory, get?_set (ne_root_of_not_isDirectory h)]
  by_cases hq : q = p
  · subst hq
    simp [h]
  · simp [hq, isDirectory]

lemma follow?_congr (h : ∀ q, t'.isDirectory q = t.isDirectory q) (current : Path)
    (parts : List String) : t'.follow? current parts = t.follow? current parts := by
  induction parts generalizing current with
  | nil => rfl
  | cons part parts ih => simp only [follow?, h, ih]

/-- Paths lead to the same places in two trees: these have the same directories, and paths start in
the same one. -/
structure SameWays (t t' : FileTree) : Prop where
  workingDirectory : t'.workingDirectory = t.workingDirectory
  isDirectory : ∀ q, t'.isDirectory q = t.isDirectory q

lemma sameWays_set_file {p : Path} (h : t.isDirectory p = false) (content : Content) :
    SameWays t (t.set p (.file content)) :=
  ⟨rfl, isDirectory_set_file h content⟩

lemma SameWays.locate? (h : SameWays t t') (path : String) : t'.locate? path = t.locate? path := by
  simp only [FileTree.locate?, start, h.workingDirectory, follow?_congr h.isDirectory]

lemma SameWays.resolve? (h : SameWays t t') (path : String) :
    t'.resolve? path = t.resolve? path := by
  simp only [FileTree.resolve?, h.locate?]

lemma follow?_append (current : Path) (ps qs : List String) :
    t.follow? current (ps ++ qs) = (t.follow? current ps).bind fun p => t.follow? p qs := by
  induction ps generalizing current with
  | nil => rfl
  | cons part ps ih =>
    simp only [List.cons_append, follow?, ih]
    split_ifs <;> rfl

/-- Without two dots a path leads to the names it is made of. -/
lemma eq_of_follow? {current out : Path} {ps : List String} (hp : ".." ∉ ps)
    (h : t.follow? current ps = some out) :
    out = current ++ (ps.filter fun part => part != "." && part != "").map .text := by
  induction ps generalizing current with
  | nil => simpa [follow?, eq_comm] using h
  | cons part ps ih =>
    obtain ⟨hd, hps⟩ : ".." ≠ part ∧ ".." ∉ ps := by simpa using hp
    rw [follow?] at h
    split_ifs at h with hc he hu hn
    · rcases he with rfl | rfl <;> simpa using ih hps h
    · exact absurd hu.symm hd
    · have hk : (part != "." && part != "") = true := by simpa [and_comm] using he
      simpa [hk] using ih hps h

/-- A name by which a path goes down one level. -/
structure IsPart (name : String) : Prop where
  slash : '/' ∉ name.toList
  ne_empty : name ≠ ""
  ne_dot : name ≠ "."
  ne_dots : name ≠ ".."

lemma follow?_part {name : String} {out : Path} (hn : IsPart name) (hd : t.isDirectory out = true) :
    t.follow? out [name] = if isName name then some (out ++ [.text name]) else none := by
  simp only [follow?, hd, hn.ne_empty, hn.ne_dot, hn.ne_dots, or_self, if_false, if_true]

lemma eq_of_follow?_part {name : String} {out p : Path} (hn : IsPart name)
    (h : t.follow? out [name] = some p) : p = out ++ [.text name] := by
  simp only [follow?, hn.ne_empty, hn.ne_dot, hn.ne_dots, or_self, if_false] at h
  split_ifs at h
  exact (Option.some.inj h).symm

lemma parts_append_slash (directory rest : List Char) :
    parts (String.ofList (directory ++ '/' :: rest)) =
      parts (String.ofList directory) ++ parts (String.ofList rest) := by
  simp only [parts, String.toList_ofList, List.splitOn_eq_splitOnP, ← List.map_append]
  rw [List.splitOnP_append_cons _ _ (by simp)]

lemma parts_part {name : String} (hn : IsPart name) : parts name = [name] := by
  simp [parts, List.splitOn_eq_singleton hn.slash]

lemma start_part {name : String} (hn : IsPart name) : t.start name = t.workingDirectory := by
  rw [start, if_neg]
  intro h
  exact hn.slash (List.mem_of_head? h)

lemma locate?_part {name : String} (hn : IsPart name) :
    t.locate? name = t.follow? t.workingDirectory [name] := by
  rw [locate?, if_neg hn.ne_empty, start_part hn, parts_part hn]

lemma start_append {path : String} (hp : path ≠ "") (rest : String) :
    t.start (path ++ rest) = t.start path := by
  have hl : path.toList ≠ [] := by simpa using hp
  obtain ⟨c, cs, hc⟩ := List.exists_cons_of_ne_nil hl
  simp [start, hc]

lemma locate?_join {directory name : String} {out : Path} (hn : IsPart name)
    (ho : t.locate? directory = some out) :
    t.locate? (FileSystem.join directory name) = t.follow? out [name] := by
  by_cases he : directory = ""
  · subst he
    obtain rfl : t.workingDirectory = out := by simpa [locate?] using ho
    rw [← locate?_part hn]
    simp [FileSystem.join]
  rw [locate?, if_neg he] at ho
  have hne (rest : String) : directory ++ rest ≠ "" := by simp [he]
  rw [FileSystem.join]
  split_ifs with h
  · -- the slash at the end gives an empty part, which stays
    have hs : directory.toList.getLast? = some '/' := by simpa [he] using h
    obtain ⟨ds, hd⟩ := List.getLast?_eq_some_iff.mp hs
    have hdir : directory = String.ofList (ds ++ '/' :: []) := by rw [← hd, String.ofList_toList]
    have hj : directory ++ name = String.ofList (ds ++ '/' :: name.toList) := by
      simp [← String.toList_inj, hd]
    rw [hdir, parts_append_slash, follow?_append, ← hdir] at ho
    rw [locate?, if_neg (hne name), start_append he, hj, parts_append_slash, String.ofList_toList,
      parts_part hn, follow?_append]
    obtain ⟨p, hp, hq⟩ := Option.bind_eq_some_iff.mp ho
    have hpo : p = out := (by simpa [parts, follow?] using hq : _ ∧ p = out).2
    rw [hp, hpo, Option.bind_some]
  · have hj : directory ++ "/" ++ name =
        String.ofList (directory.toList ++ '/' :: name.toList) := by
      simp [← String.toList_inj]
    rw [locate?, String.append_assoc, if_neg (hne _), start_append he, ← String.append_assoc, hj,
      parts_append_slash, String.ofList_toList, String.ofList_toList, parts_part hn, follow?_append,
      ho, Option.bind_some]

lemma locate?_of_resolve? {path : String} {p : Path} (h : t.resolve? path = some p) :
    t.locate? path = some p := by
  rw [resolve?] at h
  split_ifs at h
  exact h

/-- A name joined to a path stands right below where the path leads. -/
lemma eq_of_resolve?_join {directory name : String} {out p : Path} (hn : IsPart name)
    (ho : t.locate? directory = some out)
    (h : t.resolve? (FileSystem.join directory name) = some p) : p = out ++ [.text name] := by
  have hl := locate?_of_resolve? h
  rw [locate?_join hn ho] at hl
  exact eq_of_follow?_part hn hl

lemma writeText?_eq_some {path text : String} (h : t.writeText? path text = some t') :
    ∃ target, t.resolve? path = some target ∧ t.isDirectory target = false ∧
      t' = t.set target (.file (.text text)) := by
  obtain ⟨target, hr, h⟩ := Option.bind_eq_some_iff.mp h
  split_ifs at h with hd
  exact ⟨target, hr, by simpa using hd, (Option.some.inj h).symm⟩

lemma sameWays_of_writeText? {path text : String} (h : t.writeText? path text = some t') :
    SameWays t t' := by
  obtain ⟨target, -, hd, rfl⟩ := writeText?_eq_some h
  exact sameWays_set_file hd _

lemma readText?_of_writeText? {path text : String} (h : t.writeText? path text = some t') :
    t'.readText? path = some text := by
  rw [readText?, (sameWays_of_writeText? h).resolve?]
  obtain ⟨target, hr, hd, rfl⟩ := writeText?_eq_some h
  rw [hr]
  simp [get?_set (ne_root_of_not_isDirectory hd)]

lemma writeText?_join {directory name text : String} {out : Path} (hn : IsPart name)
    (ho : t.locate? directory = some out)
    (h : t.writeText? (FileSystem.join directory name) text = some t') :
    t'.locate? directory = some out ∧
      ∀ q, t'.get? q = if q = out ++ [.text name] then some (.file (.text text)) else t.get? q := by
  have hw := (sameWays_of_writeText? h).locate? directory
  obtain ⟨target, hr, hd, rfl⟩ := writeText?_eq_some h
  obtain rfl := eq_of_resolve?_join hn ho hr
  exact ⟨hw.trans ho, get?_set (ne_root_of_not_isDirectory hd) _⟩

/-- A write by one name leaves what can be read by another. -/
lemma readText?_join_of_writeText? {directory name other text : String} {out : Path}
    (hn : IsPart name) (hm : IsPart other) (hne : name ≠ other)
    (ho : t.locate? directory = some out)
    (h : t.writeText? (FileSystem.join directory name) text = some t') :
    t'.readText? (FileSystem.join directory other) =
      t.readText? (FileSystem.join directory other) := by
  rw [readText?, readText?, (sameWays_of_writeText? h).resolve?]
  cases hp : t.resolve? (FileSystem.join directory other) with
  | none => rfl
  | some p =>
    obtain rfl := eq_of_resolve?_join hm ho hp
    have hg := (writeText?_join hn ho h).2 (out ++ [.text other])
    rw [if_neg (by simpa using hne.symm)] at hg
    simp only [Option.bind_eq_bind, Option.bind_some, hg]

/-- A directory has been made where nothing was. -/
def MadeAt (t t' : FileTree) (q : Path) : Prop :=
  t.get? q = none ∧ t'.get? q = some .directory

/-- The places that parts lead to one after another, whatever is there. -/
def way (current : Path) : List String → List Path
  | [] => []
  | part :: parts =>
    let next := if part = ".." then above current else current ++ [.text part]
    next :: way next parts

/-- The places where directories may have to be made for a path. -/
def wayTo (t : FileTree) (path : String) : List Path :=
  way (t.start path) (partsToMake path)

/-- Without two dots the way goes down only. -/
lemma isPrefix_of_mem_way {current q : Path} {ps : List String} (hp : ".." ∉ ps)
    (h : q ∈ way current ps) : q <+: current ++ ps.map .text := by
  induction ps generalizing current with
  | nil => cases h
  | cons part ps ih =>
    obtain ⟨hd, hps⟩ : ".." ≠ part ∧ ".." ∉ ps := by simpa using hp
    rw [way, if_neg hd.symm] at h
    have hw : current ++ (part :: ps).map .text = current ++ [.text part] ++ ps.map .text := by simp
    rw [hw]
    rcases List.mem_cons.mp h with rfl | h
    · exact List.prefix_append _ _
    · exact ih hps h

lemma createFrom_workingDirectory (t : FileTree) (current : Path) (ps : List String) :
    (t.createFrom current ps).2.workingDirectory = t.workingDirectory := by
  fun_induction createFrom t current ps <;> simp_all [set]

lemma createFrom_get? (t : FileTree) (current : Path) (ps : List String) (q : Path) :
    (t.createFrom current ps).2.get? q = t.get? q ∨
      q ∈ way current ps ∧ MadeAt t (t.createFrom current ps).2 q := by
  induction ps generalizing t current with
  | nil => exact .inl rfl
  | cons part ps ih =>
    rw [createFrom, way]
    split_ifs with hu hn
    · exact (ih t (above current)).imp_right fun h => ⟨List.mem_cons_of_mem _ h.1, h.2⟩
    · split
      · exact (ih t (current ++ [.text part])).imp_right fun h => ⟨List.mem_cons_of_mem _ h.1, h.2⟩
      · exact .inl rfl
      · -- what the rest makes is made in the tree that has this part already
        next hg =>
        have hs := get?_set (List.concat_ne_nil (.text part) current) .directory q (t := t)
        have hrest := ih (t.set (current ++ [.text part]) .directory) (current ++ [.text part])
        by_cases hq : q = current ++ [.text part]
        · rw [if_pos hq] at hs
          refine .inr ⟨by simp [hq], by rw [hq, hg], ?_⟩
          rcases hrest with h | h
          · rw [h, hs]
          · exact h.2.2
        · rw [if_neg hq] at hs
          rcases hrest with h | h
          · exact .inl (h.trans hs)
          · exact .inr ⟨List.mem_cons_of_mem _ h.1, hs ▸ h.2.1, h.2.2⟩
    · exact .inl rfl

lemma partsToMake_isPrefix (path : String) :
    partsToMake path <+: (parts path).filter fun part => part != "." && part != "" := by
  rw [partsToMake, ← List.filter_filter]
  split
  · exact List.dropLast_prefix _
  · exact List.prefix_refl _

lemma createDirectories_get? (t : FileTree) (path : String) (q : Path) :
    (t.createDirectories path).2.get? q = t.get? q ∨
      q ∈ t.wayTo path ∧ MadeAt t (t.createDirectories path).2 q := by
  rw [createDirectories]
  split_ifs
  · exact .inl rfl
  · exact .inl rfl
  · exact createFrom_get? t (t.start path) (partsToMake path) q

lemma createDirectories_workingDirectory (t : FileTree) (path : String) :
    (t.createDirectories path).2.workingDirectory = t.workingDirectory := by
  rw [createDirectories]
  split_ifs
  · rfl
  · rfl
  · exact createFrom_workingDirectory t (t.start path) (partsToMake path)

/-- A directory that could be made is there. -/
lemma exists_locate?_of_createDirectories {path : String}
    (h : t.createDirectories path = (true, t')) :
    ∃ out, t'.locate? path = some out := by
  rw [createDirectories] at h
  split_ifs at h with he
  · obtain rfl : path = "" := by simpa using he
    exact ⟨t'.workingDirectory, by simp [locate?]⟩
  · simp at h
  · next hp =>
    obtain ⟨hm, rfl⟩ := Prod.mk.inj h
    have hl := (Bool.and_eq_true_iff.mp hm).2
    rw [leadsToDirectory] at hl
    cases hr : (t.createFrom (t.start path) (partsToMake path)).2.resolve? path with
    | none => simp [hr] at hl
    | some out => exact ⟨out, locate?_of_resolve? hr⟩

/-- What a path without two dots leads to stands below all the places on the way. -/
lemma isPrefix_of_mem_wayTo {path : String} {out q : Path} (hu : ".." ∉ parts path)
    (ho : t.locate? path = some out) (hq : q ∈ t.wayTo path) : q <+: out := by
  have hpre := partsToMake_isPrefix path
  have hm : ".." ∉ partsToMake path := fun h => hu (List.mem_of_mem_filter (hpre.subset h))
  have hw := isPrefix_of_mem_way hm hq
  rw [locate?] at ho
  split_ifs at ho with he
  · subst he
    obtain rfl := Option.some.inj ho
    simp [wayTo, partsToMake, parts, way] at hq
  · rw [eq_of_follow? hu ho]
    exact hw.trans (List.prefix_append_right_inj _ |>.mpr (hpre.map _))

lemma wayTo_createDirectories (t : FileTree) (path other : String) :
    (t.createDirectories path).2.wayTo other = t.wayTo other := by
  rw [wayTo, wayTo, start, start, createDirectories_workingDirectory]

end Typescribe.FileTree
