import Mathlib
import Typescribe.Job
import Typescribe.Proofs.Except
import Typescribe.Proofs.OutputFiles

/-!
# The first stage that fails

Which stages of a job fail in a tree of files is told for each stage apart. A run fails in the first
of them, and only writing touches the tree.
-/
namespace Typescribe

/-- The names of the templates that files hold. -/
def Templates.namesOfFiles (files : List FileName) : List String :=
  files.filterMap nameOfFile?

/-- A template by its name, if its file in the directory can be read. -/
def FileTree.template? (t : FileTree) (directory name : String) : Option (String × String) :=
  (t.readText? (FileSystem.join directory (Templates.fileOf name))).map fun text => (name, text)

/-- The standard templates with those of a directory over them, in the order in which it lists
them. -/
def FileTree.templates? (t : FileTree) (directory : String) : Option Templates := do
  let files ← t.list? directory
  let entries ← (Templates.namesOfFiles files).mapM (t.template? directory)
  return Templates.standard.insertAll entries

namespace Job

variable (job : Job) (directory : String) (t : FileTree)

def templates? : Option Templates :=
  match job.templates with
  | some directory => t.templates? directory
  | none => some .standard

/-- The model and what the documentation files add to it in order, and the templates. -/
structure Prepared (source : TypeModel.Documented) (templates : Templates) : Prop where
  source : ∃ text model texts maps,
    t.readText? job.model = some text ∧ TypeModel.ofText text = .ok model ∧
    job.documentation.mapM t.readText? = some texts ∧ texts.mapM Documentation.ofXml = .ok maps ∧
    source = maps.foldl TypeModel.Documented.addDocumentation model
  templates : job.templates? t = some templates

/-- The fragments that the job makes in memory. -/
def Declares (fragments : Fragments) : Prop :=
  ∃ source templates, job.Prepared t source templates ∧
    source.declare templates job.settings job.types = .ok fragments

def modelStages (path : String) : List Stage :=
  [.readingModel path, .parsingModel path]

def documentationStages (paths : List String) : List Stage :=
  paths.flatMap fun path => [.readingDocumentation path, .parsingDocumentation path]

/-- Everything before the writing. -/
def declareStages : List Stage :=
  modelStages job.model ++ (documentationStages job.documentation ++
    (job.templates.toList.map .loadingTemplates ++ [.declaring]))

def stages : List Stage :=
  job.declareStages ++ [.writing directory]

/-- A stage has what it works on and fails with an error. -/
def Fails (stage : Stage) (e : Error) : Prop :=
  match stage with
  | .readingSettings _ | .parsingSettings _ => False
  | .readingModel path | .readingDocumentation path => t.readText? path = none ∧ e = .inaccessible
  | .parsingModel path => ∃ text, t.readText? path = some text ∧ TypeModel.ofText text = .error e
  | .parsingDocumentation path =>
    ∃ text, t.readText? path = some text ∧ Documentation.ofXml text = .error e
  | .loadingTemplates folder => t.templates? folder = none ∧ e = .inaccessible
  | .declaring => ∃ source templates, job.Prepared t source templates ∧
      source.declare templates job.settings job.types = .error e
  | .writing folder => ∃ fragments, job.Declares t fragments ∧
      ((Output.write FileTree.fileSystem folder fragments).run.run t).1 = .error e

/-- No stage fails before this one. -/
def FirstFailure (f : Failure) : Prop :=
  ∃ before after, job.stages directory = before ++ f.stage :: after ∧
    (∀ stage ∈ before, ∀ e, ¬ job.Fails t stage e) ∧ job.Fails t f.stage f.error

variable {α β : Type}

/-- A computation that leaves the tree as it is, and fails in the first of its stages that fails or
else gives a result of which `R` holds. -/
inductive Settles (fails : Stage → Error → Prop) (t : FileTree) (stages : List Stage) (R : α → Prop)
    (x : ExceptT Failure (StateM FileTree) α) : Prop
  | failed {before after : List Stage} {stage : Stage} {e : Error}
      (split : stages = before ++ stage :: after) (hb : ∀ s ∈ before, ∀ e, ¬ fails s e)
      (hs : fails stage e) (run : x.run.run t = (.error ⟨stage, e⟩, t))
  | passed {a : α} (hs : ∀ s ∈ stages, ∀ e, ¬ fails s e) (ha : R a) (run : x.run.run t = (.ok a, t))

lemma run_within (stage : Stage) (x : ExceptT Error (StateM FileTree) α) (t : FileTree) :
    (Job.within stage x).run.run t =
      ((x.run.run t).1.mapError (Failure.mk stage), (x.run.run t).2) := rfl

namespace Settles

variable {fails : Stage → Error → Prop} {t : FileTree} {stages stages' : List Stage} {R : α → Prop}
    {S : β → Prop}

lemma bind {x : ExceptT Failure (StateM FileTree) α} {f : α → ExceptT Failure (StateM FileTree) β}
    (hx : Settles fails t stages R x) (hf : ∀ a, R a → Settles fails t stages' S (f a)) :
    Settles fails t (stages ++ stages') S (x >>= f) := by
  cases hx with
  | failed split hb hs run =>
    refine .failed (by rw [split, List.append_assoc, List.cons_append]) hb hs ?_
    rw [run_bind, run]
  | @passed a hs ha run =>
    have hrun : (x >>= f).run.run t = (f a).run.run t := by rw [run_bind, run]
    cases hf a ha with
    | failed split hb hs' run' =>
      refine .failed (by rw [split, List.append_assoc]) ?_ hs' (hrun.trans run')
      intro s hm
      rcases List.mem_append.mp hm with hm | hm
      · exact hs s hm
      · exact hb s hm
    | passed hs' hb run' =>
      refine .passed ?_ hb (hrun.trans run')
      intro s hm
      rcases List.mem_append.mp hm with hm | hm
      · exact hs s hm
      · exact hs' s hm

lemma pure {a : α} (ha : R a) : Settles fails t [] R (Pure.pure a) :=
  .passed (by simp) ha rfl

lemma imp {R' : α → Prop} {x : ExceptT Failure (StateM FileTree) α} (h : Settles fails t stages R x)
    (hi : ∀ a, R a → R' a) : Settles fails t stages R' x := by
  cases h with
  | failed split hb hs run => exact .failed split hb hs run
  | passed hs ha run => exact .passed hs (hi _ ha) run

/-- One stage, which fails exactly as its computation does. -/
lemma within {stage : Stage} {x : ExceptT Error (StateM FileTree) α} {r : Except Error α}
    (hr : x.run.run t = (r, t)) (hf : ∀ e, fails stage e ↔ r = .error e) :
    Settles fails t [stage] (fun a => r = .ok a) (Job.within stage x) := by
  have hrun : (Job.within stage x).run.run t = (r.mapError (Failure.mk stage), t) := by
    rw [run_within, hr]
  cases r with
  | error e => exact .failed (List.nil_append [stage]).symm (by simp) ((hf e).mpr rfl) hrun
  | ok a =>
    refine .passed ?_ rfl hrun
    intro s hm e he
    rw [List.mem_singleton.mp hm] at he
    cases (hf e).mp he

/-- One stage that needs what may not be there. -/
lemma within_elim {stage : Stage} {x : ExceptT Error (StateM FileTree) α} {o : Option α}
    (hr : x.run.run t = (o.elim (.error .inaccessible) .ok, t))
    (hf : ∀ e, fails stage e ↔ o = none ∧ e = .inaccessible) :
    Settles fails t [stage] (fun a => o = some a) (Job.within stage x) := by
  refine (Settles.within hr fun e => (hf e).trans ?_).imp fun a ha => ?_
  · cases o <;> simp [eq_comm]
  · cases o with
    | none => cases ha
    | some b => exact congrArg some (Except.ok.inj ha)

end Settles

lemma run_readFile (t : FileTree) (path : String) :
    (readFile FileTree.fileSystem path).run.run t =
      ((t.readText? path).elim (.error .inaccessible) .ok, t) := by
  have hr : (FileTree.fileSystem.readText path).run t = (t.readText? path, t) := rfl
  rw [readFile, Output.run_request, hr]
  cases t.readText? path <;> rfl

lemma run_loadFiles (t : FileTree) (folder : String) (templates : Templates) (count : ℕ)
    (files : List FileName) :
    (Templates.loadFiles FileTree.fileSystem folder templates count files).run.run t =
      (((Templates.namesOfFiles files).mapM (t.template? folder)).elim (.error .inaccessible)
        fun entries => .ok (templates.insertAll entries, count + entries.length), t) := by
  induction files generalizing templates count with
  | nil => rfl
  | cons file files ih =>
    rw [Templates.loadFiles]
    cases hn : Templates.nameOfFile? file with
    | none =>
      have he : Templates.namesOfFiles (file :: files) = Templates.namesOfFiles files := by
        simp [Templates.namesOfFiles, hn]
      rw [he]
      exact ih templates count
    | some name =>
      have he : Templates.namesOfFiles (file :: files) = name :: Templates.namesOfFiles files := by
        simp [Templates.namesOfFiles, hn]
      have hr :
          (FileTree.fileSystem.readText (FileSystem.join folder (Templates.fileOf name))).run t =
          (t.readText? (FileSystem.join folder (Templates.fileOf name)), t) := rfl
      rw [Output.run_request, hr, he, List.mapM_cons, FileTree.template?]
      cases t.readText? (FileSystem.join folder (Templates.fileOf name)) with
      | none => rfl
      | some text =>
        refine (ih (templates.insert name text) (count + 1)).trans ?_
        cases (Templates.namesOfFiles files).mapM (t.template? folder) with
        | none => rfl
        | some entries =>
          have hc : count + 1 + entries.length = count + ((name, text) :: entries).length :=
            Nat.add_right_comm _ _ _
          rw [Option.elim_some, hc]
          rfl

lemma run_ofDirectory (t : FileTree) (folder : String) :
    (Templates.ofDirectory FileTree.fileSystem folder).run.run t =
      ((t.templates? folder).elim (.error .inaccessible) .ok, t) := by
  have hr : (FileTree.fileSystem.list folder).run t = (t.list? folder, t) := rfl
  rw [Templates.ofDirectory, run_bind, Templates.load, Output.run_request, hr, FileTree.templates?]
  cases t.list? folder with
  | none => rfl
  | some files =>
    dsimp only
    rw [run_loadFiles, Option.bind_eq_bind, Option.bind_some]
    cases (Templates.namesOfFiles files).mapM (t.template? folder) <;> rfl

section

variable {job : Job} {directory : String} {t : FileTree}

lemma Prepared.unique {source source' : TypeModel.Documented} {templates templates' : Templates}
    (h : job.Prepared t source templates) (h' : job.Prepared t source' templates') :
    source = source' ∧ templates = templates' := by
  obtain ⟨⟨text, model, texts, maps, hr, hp, hrs, hps, rfl⟩, ht⟩ := h
  obtain ⟨⟨text', model', texts', maps', hr', hp', hrs', hps', rfl⟩, ht'⟩ := h'
  obtain rfl : text = text' := Option.some.inj (hr.symm.trans hr')
  obtain rfl : model = model' := Except.ok.inj (hp.symm.trans hp')
  obtain rfl : texts = texts' := Option.some.inj (hrs.symm.trans hrs')
  obtain rfl : maps = maps' := Except.ok.inj (hps.symm.trans hps')
  exact ⟨rfl, Option.some.inj (ht.symm.trans ht')⟩

lemma Declares.unique {fragments fragments' : Fragments} (h : job.Declares t fragments)
    (h' : job.Declares t fragments') : fragments = fragments' := by
  obtain ⟨source, templates, hp, hd⟩ := h
  obtain ⟨source', templates', hp', hd'⟩ := h'
  obtain ⟨rfl, rfl⟩ := hp.unique hp'
  exact Except.ok.inj (hd.symm.trans hd')

lemma fails_declaring_iff {source : TypeModel.Documented} {templates : Templates} {e : Error}
    (hp : job.Prepared t source templates) :
    job.Fails t .declaring e ↔ source.declare templates job.settings job.types = .error e := by
  refine ⟨?_, fun h => ⟨source, templates, hp, h⟩⟩
  rintro ⟨source', templates', hp', h⟩
  obtain ⟨rfl, rfl⟩ := hp.unique hp'
  exact h

lemma fails_writing_iff {fragments : Fragments} {e : Error} (hd : job.Declares t fragments) :
    job.Fails t (.writing directory) e ↔
      ((Output.write FileTree.fileSystem directory fragments).run.run t).1 = .error e := by
  refine ⟨?_, fun h => ⟨fragments, hd, h⟩⟩
  rintro ⟨fragments', hd', h⟩
  obtain rfl := hd.unique hd'
  exact h

lemma Fails.unique {stage : Stage} {e e' : Error} (h : job.Fails t stage e)
    (h' : job.Fails t stage e') : e = e' := by
  cases stage with
  | readingSettings | parsingSettings => cases h
  | readingModel | readingDocumentation | loadingTemplates => exact h.2.trans h'.2.symm
  | parsingModel path | parsingDocumentation path =>
    obtain ⟨text, hr, hp⟩ := h
    obtain ⟨text', hr', hp'⟩ := h'
    obtain rfl := Option.some.inj (hr.symm.trans hr')
    exact Except.error.inj (hp.symm.trans hp')
  | declaring =>
    obtain ⟨source, templates, hp, hd⟩ := h
    exact Except.error.inj (hd.symm.trans ((fails_declaring_iff hp).mp h'))
  | writing folder =>
    obtain ⟨fragments, hd, hw⟩ := h
    exact Except.error.inj (hw.symm.trans ((fails_writing_iff hd).mp h'))

lemma FirstFailure.unique {f f' : Failure} (h : job.FirstFailure directory t f)
    (h' : job.FirstFailure directory t f') : f = f' := by
  obtain ⟨before, after, hs, hb, hf⟩ := h
  obtain ⟨before', after', hs', hb', hf'⟩ := h'
  -- neither place stands behind the other, since nothing fails before either
  have hstage : f.stage = f'.stage := by
    rcases List.append_eq_append_iff.mp (hs.symm.trans hs') with
      ⟨between, hm, hc⟩ | ⟨between, hm, hc⟩
    · cases between with
      | nil => exact (List.cons.inj hc).1
      | cons s between =>
        obtain rfl := (List.cons.inj hc).1
        exact absurd hf (hb' _ (by simp [hm]) _)
    · cases between with
      | nil => exact (List.cons.inj hc).1.symm
      | cons s between =>
        obtain rfl := (List.cons.inj hc).1
        exact absurd hf' (hb _ (by simp [hm]) _)
  rw [← hstage] at hf'
  have herror : f.error = f'.error := hf.unique hf'
  cases f
  cases f'
  exact congr (congrArg Failure.mk hstage) herror

lemma settles_readModel : Settles (job.Fails t) t (modelStages job.model)
    (fun model => ∃ text, t.readText? job.model = some text ∧ TypeModel.ofText text = .ok model)
    (readModel FileTree.fileSystem job.model) := by
  refine Settles.bind (.within_elim (run_readFile t _) fun e => Iff.rfl) fun text hr => ?_
  refine (Settles.within rfl fun e => by simp [Fails, hr]).imp ?_
  exact fun model hm => ⟨text, hr, hm⟩

lemma settles_readDocumentation (source : TypeModel.Documented) (paths : List String) :
    Settles (job.Fails t) t (documentationStages paths)
      (fun source' =>
        ∃ texts maps, paths.mapM t.readText? = some texts ∧
          texts.mapM Documentation.ofXml = .ok maps ∧
        source' = maps.foldl TypeModel.Documented.addDocumentation source)
      (readDocumentation FileTree.fileSystem source paths) := by
  induction paths generalizing source with
  | nil => exact .pure ⟨[], [], rfl, rfl, rfl⟩
  | cons path paths ih =>
    have hs : documentationStages (path :: paths) =
        [.readingDocumentation path] ++
          ([.parsingDocumentation path] ++ documentationStages paths) := rfl
    rw [hs, readDocumentation]
    refine Settles.bind (.within_elim (run_readFile t _) fun e => Iff.rfl) fun text hr => ?_
    refine Settles.bind (Settles.within rfl fun e => by simp [Fails, hr]) fun map hm => ?_
    refine (ih (source.addDocumentation map)).imp ?_
    rintro _ ⟨texts, maps, hrs, hms, rfl⟩
    refine ⟨text :: texts, map :: maps, ?_, ?_, rfl⟩
    · rw [List.mapM_cons, hr, hrs]
      rfl
    · rw [List.mapM_cons, hm, hms]
      rfl

lemma settles_loadTemplates : Settles (job.Fails t) t (job.templates.toList.map .loadingTemplates)
    (fun templates => job.templates? t = some templates)
    (loadTemplates FileTree.fileSystem job.templates) := by
  rw [templates?]
  cases job.templates with
  | none => exact .pure rfl
  | some folder => exact .within_elim (run_ofDirectory t folder) fun e => Iff.rfl

lemma settles_declare (job : Job) (t : FileTree) :
    Settles (job.Fails t) t job.declareStages (job.Declares t)
      (job.declare FileTree.fileSystem) := by
  refine settles_readModel.bind fun model hm => ?_
  refine (settles_readDocumentation model job.documentation).bind fun source hs => ?_
  refine settles_loadTemplates.bind fun templates ht => ?_
  have hp : job.Prepared t source templates := by
    obtain ⟨text, hr, hm⟩ := hm
    obtain ⟨texts, maps, hrs, hms, rfl⟩ := hs
    exact ⟨⟨text, model, texts, maps, hr, hm, hrs, hms, rfl⟩, ht⟩
  refine (Settles.within rfl fun e => fails_declaring_iff hp).imp ?_
  exact fun fragments hd => ⟨source, templates, hp, hd⟩

/-- How a run ends: before the writing, in it, or with all written. -/
inductive Ending (job : Job) (directory : String) (t : FileTree) :
    Except Failure Fragments → FileTree → Prop
  | failed {f : Failure} (hf : job.FirstFailure directory t f) : Ending job directory t (.error f) t
  | unwritten {fragments : Fragments} {e : Error} {t' : FileTree} (hd : job.Declares t fragments)
      (hs : ∀ s ∈ job.declareStages, ∀ e, ¬ job.Fails t s e)
      (hw : (Output.write FileTree.fileSystem directory fragments).run.run t = (.error e, t')) :
      Ending job directory t (.error ⟨.writing directory, e⟩) t'
  | written {fragments : Fragments} {paths : List String} {t' : FileTree}
      (hd : job.Declares t fragments)
      (hs : ∀ s ∈ job.declareStages, ∀ e, ¬ job.Fails t s e)
      (hw : (Output.write FileTree.fileSystem directory fragments).run.run t = (.ok paths, t')) :
      Ending job directory t (.ok fragments) t'

lemma run_ending {t' : FileTree} {r : Except Failure Fragments}
    (h : (job.run FileTree.fileSystem directory).run.run t = (r, t')) :
    Ending job directory t r t' := by
  rw [run, run_bind] at h
  cases settles_declare job t with
  | @failed before after stage e split hb hs hrun =>
    rw [hrun] at h
    cases h
    refine .failed ⟨before, after ++ [.writing directory], ?_, hb, hs⟩
    rw [stages, split, List.append_assoc, List.cons_append]
  | @passed fragments hs hd hrun =>
    rw [hrun] at h
    dsimp only at h
    rw [run_bind, run_within] at h
    rcases hw : (Output.write FileTree.fileSystem directory fragments).run.run t with ⟨written, t₁⟩
    rw [hw] at h
    cases written with
    | error e =>
      cases h
      exact .unwritten hd hs hw
    | ok paths =>
      cases h
      exact .written hd hs hw

namespace Ending

variable {t' : FileTree} {r : Except Failure Fragments}

lemma firstFailure {f : Failure} (h : Ending job directory t (.error f) t') :
    job.FirstFailure directory t f := by
  cases h with
  | failed hf => exact hf
  | unwritten hd hs hw => exact ⟨job.declareStages, [], rfl, hs, _, hd, congrArg Prod.fst hw⟩

lemma not_fails {fragments : Fragments} (h : Ending job directory t (.ok fragments) t') :
    ∀ stage ∈ job.stages directory, ∀ e, ¬ job.Fails t stage e := by
  cases h with
  | written hd hs hw =>
    intro stage hm e he
    rcases List.mem_append.mp hm with hm | hm
    · exact hs stage hm e he
    · rw [List.mem_singleton.mp hm, fails_writing_iff hd, hw] at he
      cases he

lemma tree_eq {f : Failure} (h : Ending job directory t (.error f) t')
    (hf : f.stage ≠ .writing directory ∨
      ∃ file first second, f.error = .outputCollision file first second) :
    t' = t := by
  cases h with
  | failed => rfl
  | unwritten hd hs hw =>
    rcases hf with hf | ⟨file, first, second, hc⟩
    · exact absurd rfl hf
    · exact ((Output.write_outcome hw).of_collision (congrArg Except.error hc)).1

end Ending

/-- A run fails in the first stage that fails, with the error of that stage, and succeeds if none
does. Unless the writing fails halfway, a failed run leaves all files as they were. A run that
succeeds gives what the job makes in memory, and that is what it writes. -/
theorem run_reports_first_failure {t' : FileTree} {r : Except Failure Fragments}
    (h : (job.run FileTree.fileSystem directory).run.run t = (r, t')) :
    (∀ f, r = .error f ↔ job.FirstFailure directory t f) ∧
    (∀ f, r = .error f →
      (f.stage ≠ .writing directory ∨
        ∃ file first second, f.error = .outputCollision file first second) → t' = t) ∧
    ((∃ fragments, r = .ok fragments) ↔
      ∀ stage ∈ job.stages directory, ∀ e, ¬ job.Fails t stage e) ∧
    ∀ fragments, r = .ok fragments → job.Declares t fragments ∧
      ∃ out, Output.Wrote directory out (Output.targets fragments) t t' ∧
        t'.readText? (FileSystem.join directory Output.manifestName) =
          some (Output.manifest (Output.named fragments.list)) := by
  have hend := run_ending h
  cases r with
  | error f =>
    have hfirst := hend.firstFailure
    refine ⟨?_, ?_, ?_, by simp⟩
    · exact fun f' =>
        ⟨fun he => Except.error.inj he ▸ hfirst, fun hf' => congrArg _ (hfirst.unique hf')⟩
    · exact fun f' he hf' => hend.tree_eq (Except.error.inj he ▸ hf')
    · obtain ⟨before, after, hs, -, hf⟩ := hfirst
      refine ⟨by simp, fun hn => absurd hf (hn _ ?_ _)⟩
      simp [hs]
  | ok fragments =>
    have hn := hend.not_fails
    refine ⟨?_, by simp, ⟨fun _ => hn, fun _ => ⟨fragments, rfl⟩⟩, ?_⟩
    · intro f
      refine ⟨(by simp), ?_⟩
      rintro ⟨before, after, hs, -, hf⟩
      exact absurd hf (hn _ (by simp [hs]) _)
    · rintro _ ⟨⟩
      cases hend with
      | written hd _ hw => exact ⟨hd, (Output.write_outcome hw).of_success.2⟩

/-- A model, and a documentation file that breaks off. Paths start in the directory of both. -/
def shopTree : FileTree where
  entries := [(["shop"], .directory),
    (["shop", "model.json"], .file (.text "\x7b\"types\":[\x7b\"name\":\"Order\"\x7d]\x7d")),
    (["shop", "open.xml"], .file (.text "<doc>"))]
  workingDirectory := ["shop"]

/-- Neither the second documentation file nor the templates are there. -/
def shopJob : Job where
  model := "model.json"
  documentation := ["open.xml", "missing.xml"]
  templates := some "nowhere"
  types := []
  settings := {}

def plainShopJob : Job :=
  { shopJob with documentation := [], templates := none }

theorem shop_fails_in_open_file :
    (shopJob.run FileTree.fileSystem "out").run.run shopTree =
      (.error ⟨.parsingDocumentation "open.xml", .malformedXml⟩, shopTree) ∧
    shopJob.FirstFailure "out" shopTree ⟨.parsingDocumentation "open.xml", .malformedXml⟩ ∧
    ∃ fragments t',
      (plainShopJob.run FileTree.fileSystem "/srv/out").run.run shopTree = (.ok fragments, t') ∧
      plainShopJob.Declares shopTree fragments ∧
      t'.readText? "/srv/out/manifest.json" =
        some (Output.manifest (Output.named fragments.list)) := by
  have hfail : (shopJob.run FileTree.fileSystem "out").run.run shopTree =
      (.error ⟨.parsingDocumentation "open.xml", .malformedXml⟩, shopTree) := by
    change @Eq (Except Failure Fragments × FileTree) _ _
    decide +kernel
  refine ⟨hfail, ((run_reports_first_failure hfail).1 _).mp rfl, ?_⟩
  have hok :
      ((plainShopJob.run FileTree.fileSystem "/srv/out").run.run shopTree).1.toOption.isSome := by
    decide +kernel
  rcases hrun : (plainShopJob.run FileTree.fileSystem "/srv/out").run.run shopTree with ⟨r, t'⟩
  rw [hrun] at hok
  cases r with
  | error f => cases hok
  | ok fragments =>
    obtain ⟨hd, out, -, hm⟩ := (run_reports_first_failure hrun).2.2.2 fragments rfl
    exact ⟨fragments, t', rfl, hd, hm⟩

end

end Job

end Typescribe
