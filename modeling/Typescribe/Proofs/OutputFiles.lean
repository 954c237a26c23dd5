import Mathlib
import Typescribe.FileTree
import Typescribe.Output
import Typescribe.Proofs.Except
import Typescribe.Proofs.FileNames
import Typescribe.Proofs.FileTree
import Typescribe.Proofs.JsonText

/-!
# What writing fragments leaves behind

A run ends in one of four ways: two fragments share a file name and nothing is touched, the
directory cannot be made, a write fails after those before it, or all is written. In each the tree
is known at every path.
-/
namespace Typescribe.Output

open FileTree

def fileNames (fs : List Fragment) : List String :=
  fs.map fun f => fileName f.id

/-- `g` is the first fragment whose file name an earlier one has, and `f` is that one. -/
def FirstRepeat (fs : List Fragment) (f g : Fragment) : Prop :=
  ∃ before between after, fs = before ++ f :: between ++ g :: after ∧
    (fileNames (before ++ f :: between)).Nodup ∧ fileName f.id = fileName g.id

lemma FirstRepeat.not_nodup {fs : List Fragment} {f g : Fragment} (h : FirstRepeat fs f g) :
    ¬ (fileNames fs).Nodup := by
  obtain ⟨before, between, after, rfl, -, he⟩ := h
  intro hn
  simp only [fileNames, List.map_append, List.map_cons, List.nodup_append] at hn
  exact hn.2.2 _ (by simp) _ (by simp) he

/-- The file names of the fragments are no one's yet and do not repeat. -/
def Fresh (owners : List (String × FragmentId)) (fs : List Fragment) : Prop :=
  (fileNames fs).Nodup ∧ ∀ f ∈ fs, owners.lookup (fileName f.id) = none

lemma Fresh.cons {owners : List (String × FragmentId)} {f : Fragment} {fs : List Fragment}
    (hf : owners.lookup (fileName f.id) = none) (h : Fresh ((fileName f.id, f.id) :: owners) fs) :
    Fresh owners (f :: fs) := by
  obtain ⟨hn, ho⟩ := h
  have hne : ∀ g ∈ fs, fileName g.id ≠ fileName f.id ∧ owners.lookup (fileName g.id) = none := by
    intro g hg
    have hl := ho g hg
    rw [List.lookup_cons] at hl
    split at hl
    · cases hl
    · next hb => exact ⟨by simpa using hb, hl⟩
  constructor
  · refine List.nodup_cons.mpr ⟨?_, hn⟩
    intro hm
    obtain ⟨g, hg, he⟩ := List.mem_map.mp hm
    exact (hne g hg).1 he
  · intro g hg
    rcases List.mem_cons.mp hg with rfl | hg
    · exact hf
    · exact (hne g hg).2

lemma assign_ok {owners : List (String × FragmentId)} {fs : List Fragment} {names : List String}
    (h : assign owners fs = .ok names) : names = fileNames fs ∧ Fresh owners fs := by
  induction fs generalizing owners names with
  | nil =>
    cases h
    exact ⟨rfl, List.nodup_nil, by simp⟩
  | cons f fs ih =>
    rw [assign] at h
    split at h
    · cases h
    · next hf =>
      obtain ⟨files, hfiles, h⟩ := bind_eq_ok h
      cases h
      obtain ⟨rfl, hfresh⟩ := ih hfiles
      exact ⟨rfl, hfresh.cons hf⟩

lemma assign_error {owners : List (String × FragmentId)} {fs : List Fragment} {e : Error}
    (h : assign owners fs = .error e) :
    ∃ seen g after first, fs = seen ++ g :: after ∧ Fresh owners seen ∧
      (owners.lookup (fileName g.id) = some first ∨
        ∃ f ∈ seen, fileName f.id = fileName g.id ∧ f.id = first) ∧
      e = .outputCollision (fileName g.id) first g.id := by
  induction fs generalizing owners with
  | nil => cases h
  | cons f fs ih =>
    rw [assign] at h
    split at h
    · next first hf =>
      cases h
      exact ⟨[], f, fs, first, rfl, ⟨List.nodup_nil, by simp⟩, .inl hf, rfl⟩
    · next hf =>
      cases ha : assign ((fileName f.id, f.id) :: owners) fs with
      | ok files =>
        rw [ha] at h
        cases h
      | error e' =>
        rw [ha] at h
        cases h
        obtain ⟨seen, g, after, first, rfl, hfresh, hg, rfl⟩ := ih ha
        refine ⟨f :: seen, g, after, first, rfl, hfresh.cons hf, ?_, rfl⟩
        rcases hg with hg | ⟨f', hm, hg⟩
        · rw [List.lookup_cons] at hg
          split at hg
          · next hb =>
            have he : fileName g.id = fileName f.id := by simpa using hb
            exact .inr ⟨f, by simp, he.symm, Option.some.inj hg⟩
          · exact .inl hg
        · exact .inr ⟨f', by simp [hm], hg⟩

lemma firstRepeat_of_assign {fs : List Fragment} {e : Error} (h : assign [] fs = .error e) :
    ∃ f g, FirstRepeat fs f g ∧ e = .outputCollision (fileName g.id) f.id g.id := by
  obtain ⟨seen, g, after, first, rfl, hfresh, hg, rfl⟩ := assign_error h
  rcases hg with hg | ⟨f, hm, hfg, rfl⟩
  · cases hg
  · obtain ⟨before, between, rfl⟩ := List.append_of_mem hm
    exact ⟨f, g, ⟨before, between, after, rfl, hfresh.1, hfg⟩, rfl⟩

/-- The fragments with their file names. -/
def named (fs : List Fragment) : List (Fragment × String) :=
  fs.map fun f => (f, fileName f.id)

lemma zip_fileNames (fs : List Fragment) : fs.zip (fileNames fs) = named fs :=
  List.map_prod_left_eq_zip.symm

/-- The file of a fragment and the text that belongs there. -/
def fileOf (e : Fragment × String) : String × String :=
  (e.2, e.1.code)

/-- All files in the order in which they are written. -/
def targets (fs : Fragments) : List (String × String) :=
  (named fs.list).map fileOf ++ [(manifestName, manifest (named fs.list))]

/-- The texts go to the files of a directory one after another, and no write fails. -/
inductive Writes (directory : String) : FileTree → List (String × String) → FileTree → Prop
  | nil (t : FileTree) : Writes directory t [] t
  | cons {t t₁ t' : FileTree} {e : String × String} {es : List (String × String)} :
      t.writeText? (FileSystem.join directory e.1) e.2 = some t₁ → Writes directory t₁ es t' →
        Writes directory t (e :: es) t'

/-- The writes before one that fails. -/
def Stops (directory : String) (t : FileTree) (es : List (String × String))
    (t' : FileTree) : Prop :=
  ∃ before e after, es = before ++ e :: after ∧ Writes directory t before t' ∧
    t'.writeText? (FileSystem.join directory e.1) e.2 = none

variable {directory : String} {t t₁ t' : FileTree}

lemma Writes.append {es es' : List (String × String)} (h : Writes directory t es t₁)
    (g : Writes directory t₁ es' t') : Writes directory t (es ++ es') t' := by
  induction h with
  | nil => exact g
  | cons hw _ ih => exact .cons hw (ih g)

lemma Writes.stops {es es' : List (String × String)} (h : Writes directory t es t₁)
    (g : Stops directory t₁ es' t') : Stops directory t (es ++ es') t' := by
  obtain ⟨before, e, after, rfl, hw, hf⟩ := g
  exact ⟨es ++ before, e, after, by simp, h.append hw, hf⟩

variable {α β : Type}

lemma run_request (x : StateM FileTree α) (f : α → ExceptT Error (StateM FileTree) β)
    (t : FileTree) :
    ((liftM x : ExceptT Error (StateM FileTree) α) >>= f).run.run t =
      (f (x.run t).1).run.run (x.run t).2 := by
  rw [run_bind]
  rfl

lemma run_writeFile (path text : String) (t : FileTree) :
    (writeFile FileTree.fileSystem path text).run.run t =
      match t.writeText? path text with
      | some t' => (.ok (), t')
      | none => (.error .inaccessible, t) := by
  have hr : (FileTree.fileSystem.writeText path text).run t =
      match t.writeText? path text with
      | some t' => (true, t')
      | none => (false, t) := rfl
  rw [writeFile, run_request, hr]
  cases t.writeText? path text <;> rfl

/-- The paths that the fragments are written to. -/
def pathsIn (directory : String) (es : List (Fragment × String)) : List String :=
  es.map fun e => FileSystem.join directory e.2

lemma writeFragments_cases {es : List (Fragment × String)} {r : Except Error (List String)}
    (h : (writeFragments FileTree.fileSystem directory es).run.run t = (r, t')) :
    r = .ok (pathsIn directory es) ∧ Writes directory t (es.map fileOf) t' ∨
      r = .error .inaccessible ∧ Stops directory t (es.map fileOf) t' := by
  induction es generalizing t t' r with
  | nil =>
    cases h
    exact .inl ⟨rfl, .nil _⟩
  | cons e es ih =>
    rw [writeFragments, run_bind, run_writeFile] at h
    cases hw : t.writeText? (FileSystem.join directory e.2) e.1.code with
    | none =>
      rw [hw] at h
      cases h
      exact .inr ⟨rfl, [], _, _, rfl, .nil _, hw⟩
    | some t₁ =>
      have he : Writes directory t [fileOf e] t₁ := .cons hw (.nil t₁)
      rw [hw] at h
      dsimp only at h
      rcases hr : (writeFragments FileTree.fileSystem directory es).run.run t₁ with ⟨rest, t₂⟩
      rw [run_bind, hr] at h
      rcases ih hr with ⟨rfl, hs⟩ | ⟨rfl, hs⟩
      · cases h
        exact .inl ⟨rfl, he.append hs⟩
      · cases h
        exact .inr ⟨rfl, he.stops hs⟩

lemma writeAll_cases {fs : Fragments} {r : Except Error (List String)}
    (h : (do
        let paths ← writeFragments FileTree.fileSystem directory (named fs.list)
        writeFile FileTree.fileSystem (FileSystem.join directory manifestName)
          (manifest (named fs.list))
        return paths : ExceptT Error (StateM FileTree) (List String)).run.run t = (r, t')) :
    r = .ok (pathsIn directory (named fs.list)) ∧ Writes directory t (targets fs) t' ∨
      r = .error .inaccessible ∧ Stops directory t (targets fs) t' := by
  rw [run_bind] at h
  rcases hf : (writeFragments FileTree.fileSystem directory (named fs.list)).run.run t with
    ⟨done, t₁⟩
  rw [hf] at h
  rcases writeFragments_cases hf with ⟨rfl, hs⟩ | ⟨rfl, before, e, after, he, hs, hn⟩
  · dsimp only at h
    rw [run_bind, run_writeFile] at h
    cases hw : t₁.writeText? (FileSystem.join directory manifestName)
        (manifest (named fs.list)) with
    | none =>
      rw [hw] at h
      cases h
      exact .inr ⟨rfl, hs.stops ⟨[], _, [], rfl, .nil _, hw⟩⟩
    | some t₂ =>
      rw [hw] at h
      cases h
      exact .inl ⟨rfl, hs.append (.cons hw (.nil _))⟩
  · cases h
    exact .inr ⟨rfl, before, e, after ++ [(manifestName, manifest (named fs.list))],
      by simp [targets, he], hs, hn⟩

/-- The ways a run can end. -/
inductive Outcome (directory : String) (fs : Fragments) (t : FileTree) :
    Except Error (List String) → FileTree → Prop
  | collided {f g : Fragment} : FirstRepeat fs.list f g →
      Outcome directory fs t (.error (.outputCollision (fileName g.id) f.id g.id)) t
  | unmade {t' : FileTree} :
      (fileNames fs.list).Nodup → t.createDirectories directory = (false, t') →
      Outcome directory fs t (.error .inaccessible) t'
  | stopped {t₁ t' : FileTree} :
      (fileNames fs.list).Nodup → t.createDirectories directory = (true, t₁) →
      Stops directory t₁ (targets fs) t' → Outcome directory fs t (.error .inaccessible) t'
  | written {t₁ t' : FileTree} :
      (fileNames fs.list).Nodup → t.createDirectories directory = (true, t₁) →
      Writes directory t₁ (targets fs) t' →
        Outcome directory fs t (.ok (pathsIn directory (named fs.list))) t'

lemma write_outcome {fs : Fragments} {r : Except Error (List String)}
    (h : (write FileTree.fileSystem directory fs).run.run t = (r, t')) :
    Outcome directory fs t r t' := by
  rw [write, run_bind] at h
  cases ha : assign [] fs.list with
  | error e =>
    obtain ⟨f, g, hfg, rfl⟩ := firstRepeat_of_assign ha
    rw [ha] at h
    cases h
    exact .collided hfg
  | ok names =>
    obtain ⟨rfl, hfresh⟩ := assign_ok ha
    rw [ha] at h
    change (liftM (FileTree.fileSystem.createDirectories directory) >>= _ :
      ExceptT Error (StateM FileTree) (List String)).run.run t = _ at h
    rcases hd : t.createDirectories directory with ⟨made, t₁⟩
    have hr : (FileTree.fileSystem.createDirectories directory).run t = (made, t₁) := hd
    rw [run_request, hr, zip_fileNames] at h
    cases made with
    | false =>
      cases h
      exact .unmade hfresh.1 hd
    | true =>
      rcases writeAll_cases h with ⟨rfl, hs⟩ | ⟨rfl, hs⟩
      · exact .written hfresh.1 hd hs
      · exact .stopped hfresh.1 hd hs

/-- The files hold their texts in the directory at `out`. Every other path is as it was, but for
directories made on the way to `out`. These do not stand below it, unless the way goes up again. -/
structure Wrote (directory : String) (out : Path) (es : List (String × String))
    (t t' : FileTree) : Prop where
  leads : t'.locate? directory = some out
  held : ∀ e ∈ es, t'.get? (out ++ [.text e.1]) = some (.file (.text e.2))
  kept : ∀ q, (∀ e ∈ es, q ≠ out ++ [.text e.1]) →
    t'.get? q = t.get? q ∨ q ∈ t.wayTo directory ∧ (".." ∈ parts directory ∨ q <+: out) ∧
      MadeAt t t' q

lemma Writes.get? {es : List (String × String)} {out : Path} (h : Writes directory t es t')
    (hp : ∀ e ∈ es, IsPart e.1) (ho : t.locate? directory = some out) :
    t'.locate? directory = some out ∧
      (∀ q, (∀ e ∈ es, q ≠ out ++ [.text e.1]) → t'.get? q = t.get? q) ∧
      ((es.map Prod.fst).Nodup →
        ∀ e ∈ es, t'.get? (out ++ [.text e.1]) = some (.file (.text e.2))) := by
  induction h with
  | nil => exact ⟨ho, fun _ _ => rfl, by simp⟩
  | @cons t t₁ t' e es hw _ ih =>
    obtain ⟨hl, hg⟩ := writeText?_join (hp e (by simp)) ho hw
    obtain ⟨hl', hk, hh⟩ := ih (fun e' he' => hp e' (by simp [he'])) hl
    refine ⟨hl', ?_, ?_⟩
    · intro q hq
      rw [hk q fun e' he' => hq e' (by simp [he']), hg, if_neg (hq e (by simp))]
    · -- the names differ, so no later write goes to the first file
      intro hn e' he'
      obtain ⟨hne, hn⟩ := List.nodup_cons.mp hn
      rcases List.mem_cons.mp he' with rfl | he'
      · have hq : ∀ e'' ∈ es, out ++ [FileName.text e'.1] ≠ out ++ [.text e''.1] := by
          intro e'' he'' heq
          have he : e'.1 = e''.1 := by simpa using heq
          exact hne (List.mem_map.mpr ⟨e'', he'', he.symm⟩)
        rw [hk _ hq, hg, if_pos rfl]
      · exact hh hn e' he'

lemma Writes.readText?_last {es : List (String × String)} {e : String × String}
    (h : Writes directory t (es ++ [e]) t') :
    t'.readText? (FileSystem.join directory e.1) = some e.2 := by
  induction es generalizing t with
  | nil =>
    cases h with
    | cons hw hn =>
      cases hn
      exact readText?_of_writeText? hw
  | cons e' es ih =>
    cases h with
    | cons _ hs => exact ih hs

lemma wrote_of_writes {es : List (String × String)}
    (hd : t.createDirectories directory = (true, t₁)) (h : Writes directory t₁ es t')
    (hp : ∀ e ∈ es, IsPart e.1) (hn : (es.map Prod.fst).Nodup) :
    ∃ out, Wrote directory out es t t' := by
  obtain ⟨out, ho⟩ := exists_locate?_of_createDirectories hd
  obtain ⟨hl, hk, hh⟩ := h.get? hp ho
  refine ⟨out, hl, hh hn, fun q hq => ?_⟩
  have he := hk q hq
  have hm := createDirectories_get? t directory q
  have hw := wayTo_createDirectories t directory directory
  rw [hd] at hm hw
  rcases hm with h | ⟨hq, hnone, hdir⟩
  · exact .inl (he.trans h)
  · refine .inr ⟨hq, ?_, hnone, he.trans hdir⟩
    by_cases hu : ".." ∈ parts directory
    · exact .inl hu
    · exact .inr (isPrefix_of_mem_wayTo hu ho (hw ▸ hq))

lemma isPart_of_mem_targets {fs : Fragments} {e : String × String} (h : e ∈ targets fs) :
    IsPart e.1 := by
  rcases List.mem_append.mp h with h | h
  · obtain ⟨entry, he, rfl⟩ := List.mem_map.mp h
    obtain ⟨f, -, rfl⟩ := List.mem_map.mp he
    exact isPart_fileName f.id
  · obtain rfl := List.mem_singleton.mp h
    exact isPart_manifestName

lemma nodup_targets {fs : Fragments} (h : (fileNames fs.list).Nodup) :
    ((targets fs).map Prod.fst).Nodup := by
  have hm : (targets fs).map Prod.fst = fileNames fs.list ++ [manifestName] := by
    simp [targets, named, fileNames, fileOf, Function.comp_def]
  rw [hm, List.nodup_append]
  refine ⟨h, by simp, ?_⟩
  intro a ha b hb
  obtain ⟨f, -, rfl⟩ := List.mem_map.mp ha
  obtain rfl := List.mem_singleton.mp hb
  exact fileName_ne_manifestName f.id

lemma read?_manifest (es : List (Fragment × String)) :
    Json.read? (manifest es) = some (.array (es.map manifestEntry)) := by
  refine Json.read?_pretty ?_
  refine Json.areTextual_map (fun e => ?_) es
  have hd : Json.areTextual (e.1.dependencies.map Json.string) :=
    Json.areTextual_map (fun _ => rfl) _
  simp [manifestEntry, Json.isTextual, Json.areMembersTextual, hd]

lemma before_eq_take {fs : Fragments} {before after : List (String × String)} {e : String × String}
    (h : targets fs = before ++ e :: after) :
    before = (named (fs.list.take before.length)).map fileOf := by
  have hl := congrArg List.length h
  have ht := congrArg (List.take before.length) h
  simp only [targets, named, List.length_append, List.length_map, List.length_cons,
    List.length_nil] at hl
  rw [List.take_left, targets, List.take_append_of_le_length (by simp [named]; omega),
    ← List.map_take, named, ← List.map_take] at ht
  exact ht.symm

namespace Outcome

variable {fs : Fragments} {r : Except Error (List String)}

lemma collision_iff (h : Outcome directory fs t r t') :
    (∃ file first second, r = .error (.outputCollision file first second)) ↔
      ¬ (fileNames fs.list).Nodup := by
  cases h with
  | collided hr => exact ⟨fun _ => hr.not_nodup, fun _ => ⟨_, _, _, rfl⟩⟩
  | unmade hn | stopped hn | written hn =>
    constructor
    · rintro ⟨_, _, _, he⟩
      cases he
    · exact fun hd => absurd hn hd

lemma of_collision {file first second : String} (h : Outcome directory fs t r t')
    (hc : r = .error (.outputCollision file first second)) :
    t' = t ∧ ∃ f g, FirstRepeat fs.list f g ∧
      file = fileName g.id ∧ first = f.id ∧ second = g.id := by
  cases h with
  | @collided f g hr =>
    simp only [Except.error.injEq, Error.outputCollision.injEq] at hc
    exact ⟨rfl, f, g, hr, hc.1.symm, hc.2.1.symm, hc.2.2.symm⟩
  | unmade | stopped | written => cases hc

lemma of_failure {e : Error} (h : Outcome directory fs t (.error e) t')
    (hn : (fileNames fs.list).Nodup) :
    e = .inaccessible ∧
      (t.createDirectories directory = (false, t') ∧
          (∀ q, t'.get? q = t.get? q ∨ q ∈ t.wayTo directory ∧ MadeAt t t' q) ∨
        ∃ k last out, (targets fs)[k]? = some last ∧
          t'.writeText? (FileSystem.join directory last.1) last.2 = none ∧
          Wrote directory out ((named (fs.list.take k)).map fileOf) t t') := by
  cases h with
  | collided hr => exact absurd hn hr.not_nodup
  | unmade _ hd =>
    refine ⟨rfl, .inl ⟨hd, fun q => ?_⟩⟩
    have hq := createDirectories_get? t directory q
    rwa [hd] at hq
  | stopped _ hd hs =>
    obtain ⟨before, last, after, he, hw, hf⟩ := hs
    have hp : ∀ e ∈ before, IsPart e.1 := by
      intro e hm
      have ht : e ∈ targets fs := by simp [he, hm]
      exact isPart_of_mem_targets ht
    have hb := nodup_targets hn
    rw [he, List.map_append] at hb
    obtain ⟨out, ho⟩ := wrote_of_writes hd hw hp hb.of_append_left
    refine ⟨rfl, .inr ⟨before.length, last, out, by simp [he], hf, ?_⟩⟩
    rwa [← before_eq_take he]

lemma of_success {paths : List String} (h : Outcome directory fs t (.ok paths) t') :
    paths = pathsIn directory (named fs.list) ∧ ∃ out, Wrote directory out (targets fs) t t' ∧
      t'.readText? (FileSystem.join directory manifestName) = some (manifest (named fs.list)) := by
  cases h with
  | written hn hd hw =>
    obtain ⟨out, ho⟩ := wrote_of_writes hd hw (fun _ => isPart_of_mem_targets) (nodup_targets hn)
    exact ⟨rfl, out, ho, hw.readText?_last⟩

end Outcome

/-- Writing never loses a fragment in silence. If two fragments share a file name, the run tells the
first that repeats one and touches nothing. If the directory cannot be made or a write fails, the
files of the fragments before it hold their code and no other file has changed. Else all files hold
their texts, their paths are told in order, and the manifest lists the fragments. -/
theorem write_accounts_for_every_path {fs : Fragments} {r : Except Error (List String)}
    (h : (write FileTree.fileSystem directory fs).run.run t = (r, t')) :
    ((∃ file first second, r = .error (.outputCollision file first second)) ↔
      ¬ (fileNames fs.list).Nodup) ∧
    (∀ file first second, r = .error (.outputCollision file first second) → t' = t ∧
      ∃ f g, FirstRepeat fs.list f g ∧ file = fileName g.id ∧ first = f.id ∧ second = g.id) ∧
    (∀ e, r = .error e → (fileNames fs.list).Nodup → e = .inaccessible ∧
      (t.createDirectories directory = (false, t') ∧
          (∀ q, t'.get? q = t.get? q ∨ q ∈ t.wayTo directory ∧ MadeAt t t' q) ∨
        ∃ k last out, (targets fs)[k]? = some last ∧
          t'.writeText? (FileSystem.join directory last.1) last.2 = none ∧
          Wrote directory out ((named (fs.list.take k)).map fileOf) t t')) ∧
    (∀ paths, r = .ok paths → paths = (fileNames fs.list).map (FileSystem.join directory) ∧
      ∃ out, Wrote directory out (targets fs) t t' ∧
        ∃ text, t'.readText? (FileSystem.join directory manifestName) = some text ∧
          Json.read? text = some (.array (fs.list.map fun f => .object [("id", .string f.id),
            ("file", .string (fileName f.id)),
            ("dependencies", .array (f.dependencies.map Json.string))]))) ∧
    (∀ f ∈ fs.list, fileName f.id ≠ manifestName) := by
  have ho := write_outcome h
  refine ⟨ho.collision_iff, ?_, ?_, ?_, fun f _ => fileName_ne_manifestName f.id⟩
  · exact fun file first second hc => ho.of_collision hc
  · rintro e rfl hn
    exact ho.of_failure hn
  · rintro paths rfl
    obtain ⟨rfl, out, hw, hr⟩ := ho.of_success
    refine ⟨by simp [pathsIn, named, fileNames], out, hw, _, hr, ?_⟩
    rw [read?_manifest, named, List.map_map]
    rfl

/-- A directory stands where the file of the second fragment belongs, and an older manifest beside
it. -/
def blocked : FileTree :=
  ⟨[(["out"], .directory), (["out", "order-line.ts"], .directory),
    (["out", "manifest.json"], .file (.text "old"))], []⟩

def orders : Fragments :=
  ⟨[.make "Shop.Order" ["Shop.OrderLine"] "o", .make "Shop.OrderLine" [] "l"]⟩

theorem orders_blocked : (write FileTree.fileSystem "out" orders).run.run blocked =
      (.error .inaccessible, blocked.set ["out", "order.ts"] (.file (.text "o"))) ∧
    ∃ k last out, (targets orders)[k]? = some last ∧
      Wrote "out" out ((named (orders.list.take k)).map fileOf) blocked
        (blocked.set ["out", "order.ts"] (.file (.text "o"))) := by
  have hr : (write FileTree.fileSystem "out" orders).run.run blocked =
      (.error .inaccessible, blocked.set ["out", "order.ts"] (.file (.text "o"))) := by
    change @Eq (Except Error (List String) × FileTree) _ _
    decide +kernel
  have hn : (fileNames orders.list).Nodup := by decide +kernel
  refine ⟨hr, ?_⟩
  obtain ⟨-, hd | ⟨k, last, out, hk, -, hw⟩⟩ := (write_accounts_for_every_path hr).2.2.1 _ rfl hn
  · exact absurd hd.1 (by decide)
  · exact ⟨k, last, out, hk, hw⟩

/-- A path that goes up again has a directory made that stands in the one it leads to, whether all
is written there or a write fails. -/
theorem directory_made_below_output :
    let run := (write FileTree.fileSystem "out/sub/.." orders).run.run
    let bare : FileTree := ⟨[], []⟩
    (run bare).1 = .ok ["out/sub/../order.ts", "out/sub/../order-line.ts"] ∧
      (run bare).2.locate? "out/sub/.." = some [.text "out"] ∧
      bare.get? ["out", "sub"] = none ∧ (run bare).2.get? ["out", "sub"] = some .directory ∧
    (run blocked).1 = .error .inaccessible ∧
      (run blocked).2.locate? "out/sub/.." = some [.text "out"] ∧
      blocked.get? ["out", "sub"] = none ∧
          (run blocked).2.get? ["out", "sub"] = some .directory := by
  decide +kernel

end Typescribe.Output
