import Mathlib
import Typescribe.Proofs.Dictionary
import Typescribe.Proofs.DocumentationEntries
import Typescribe.Proofs.Except

/-!
# The last writer of a documentation text

Documentation comes from a document and then from files of members, in order. `Found` tells the text
of a key by who wrote it last, without a word on dictionaries.
-/
namespace Typescribe

variable {α β : Type}

/-- None of the items writes anything. -/
def Silent (xs : List α) (Writes : α → β → Prop) : Prop :=
  ∀ x ∈ xs, ∀ b, ¬ Writes x b

/-- What the last item writes that writes at all. -/
def LastIn (xs : List α) (Writes : α → β → Prop) (b : β) : Prop :=
  ∃ before x after, xs = before ++ x :: after ∧ Writes x b ∧ Silent after Writes

lemma Silent.concat {xs : List α} {Writes : α → β → Prop} (h : Silent xs Writes) {x : α}
    (hx : ∀ b, ¬ Writes x b) : Silent (xs ++ [x]) Writes := by
  intro y hy
  rcases List.mem_append.mp hy with hy | hy
  · exact h y hy
  · rw [List.mem_singleton.mp hy]
    exact hx

lemma LastIn.concat {xs : List α} {Writes : α → β → Prop} {b : β} (h : LastIn xs Writes b) {x : α}
    (hx : ∀ b, ¬ Writes x b) : LastIn (xs ++ [x]) Writes b := by
  obtain ⟨before, y, after, rfl, hy, ha⟩ := h
  exact ⟨before, y, after ++ [x], by simp, hy, ha.concat hx⟩

lemma lastIn_concat {xs : List α} {Writes : α → β → Prop} {b : β} {x : α} (hx : Writes x b) :
    LastIn (xs ++ [x]) Writes b :=
  ⟨xs, x, [], rfl, hx, by simp [Silent]⟩

/-- What stands after the items have written over `old`. -/
inductive WrittenOver (old : Option β) (xs : List α) (Writes : α → β → Prop) : Option β → Prop
  | last {b : β} (h : LastIn xs Writes b) : WrittenOver old xs Writes (some b)
  | kept (h : Silent xs Writes) : WrittenOver old xs Writes old

lemma WrittenOver.concat {old new : Option β} {xs : List α} {Writes : α → β → Prop}
    (h : WrittenOver old xs Writes new) {x : α} (hx : ∀ b, ¬ Writes x b) :
    WrittenOver old (xs ++ [x]) Writes new := by
  cases h with
  | last h => exact .last (h.concat hx)
  | kept h => exact .kept (h.concat hx)

lemma writtenOver_insertAll {Writes : α → String → String → Prop}
    {item? : α → Option (String × String)}
    (hw : ∀ x key text, item? x = some (key, text) ↔ Writes x key text) (d : Dictionary String)
    (xs : List α) (key : String) :
    WrittenOver (d.get? key) xs (Writes · key) ((d.insertAll (xs.filterMap item?)).get? key) := by
  induction xs using List.reverseRecOn with
  | nil => exact .kept (by simp [Silent])
  | append_singleton xs x ih =>
    cases he : item? x with
    | none =>
      have hx : ∀ text, ¬ Writes x key text := by
        intro text ht
        rw [(hw x key text).mpr ht] at he
        cases he
      have hf : (xs ++ [x]).filterMap item? = xs.filterMap item? := by simp [he]
      rw [hf]
      exact ih.concat hx
    | some e =>
      obtain ⟨k, text⟩ := e
      have hf : d.insertAll ((xs ++ [x]).filterMap item?) =
          (d.insertAll (xs.filterMap item?)).insert k text := by
        simp [he, Dictionary.insertAll]
      rw [hf, Dictionary.get?_insert]
      split_ifs with hk
      · subst hk
        exact .last (lastIn_concat ((hw x key text).mp he))
      · refine ih.concat fun other ht => hk ?_
        rw [(hw x key other).mpr ht] at he
        cases he
        rfl

namespace Documentation

/-- The text that the members of a file give to a key. -/
def FileGives (key : String) (root : Xml.Node) (text : String) : Prop :=
  LastIn root.descendants (·.Documents key) text

lemma fileGives_of_entries (root : Xml.Node) (key : String) :
    (∃ text, FileGives key root text ∧ (Dictionary.ofList (entries root)).get? key = some text) ∨
      (∀ text, ¬ FileGives key root text) ∧ (Dictionary.ofList (entries root)).get? key = none := by
  have hw := writtenOver_insertAll Xml.Node.ownItem?_eq_some_iff .empty root.descendants key
  rw [Dictionary.ofList, Xml.Node.entries_eq]
  generalize (Dictionary.insertAll _ _).get? key = found at hw ⊢
  cases hw with
  | last h => exact .inl ⟨_, h, rfl⟩
  | kept h =>
    refine .inr ⟨?_, rfl⟩
    rintro text ⟨before, n, after, he, hn, -⟩
    exact h n (by simp [he]) text hn

end Documentation

namespace TypeModel

/-- The text of a key, by its last writer: the last file that gives it one, or else the document. -/
inductive Found (document : Json) (roots : List Xml.Node) (key : String) : Option String → Prop
  | inFile {text : String} (h : LastIn roots (Documentation.FileGives key) text) :
      Found document roots key (some text)
  | inDocument {text : String} (hs : Silent roots (Documentation.FileGives key))
      (h : LastIn (declared document) (·.Documents key) text) : Found document roots key (some text)
  | nowhere (hs : Silent roots (Documentation.FileGives key))
      (h : Silent (declared document) (·.Documents key)) :
      Found document roots key none

/-- Some file or the document gives a text to the key. -/
def IsWritten (document : Json) (roots : List Xml.Node) (key : String) : Prop :=
  (∃ root ∈ roots, ∃ text, Documentation.FileGives key root text) ∨
    ∃ x ∈ declared document, ∃ text, x.Documents key text

variable {document : Json} {source : Documented} {roots : List Xml.Node}

lemma Found.concat {key : String} {found : Option String} (h : Found document roots key found)
    {root : Xml.Node} (hr : ∀ text, ¬ Documentation.FileGives key root text) :
    Found document (roots ++ [root]) key found := by
  cases h with
  | inFile h => exact .inFile (h.concat hr)
  | inDocument hs h => exact .inDocument (hs.concat hr) h
  | nowhere hs h => exact .nowhere (hs.concat hr) h

lemma Found.isSome_iff {key : String} {found : Option String} (h : Found document roots key found) :
    (∃ text, found = some text) ↔ IsWritten document roots key := by
  cases h with
  | inFile h =>
    obtain ⟨before, root, after, rfl, hr, -⟩ := h
    exact ⟨fun _ => .inl ⟨root, by simp, _, hr⟩, fun _ => ⟨_, rfl⟩⟩
  | inDocument _ h =>
    obtain ⟨before, x, after, he, hx, -⟩ := h
    exact ⟨fun _ => .inr ⟨x, by simp [he], _, hx⟩, fun _ => ⟨_, rfl⟩⟩
  | nowhere hs h =>
    constructor
    · rintro ⟨_, ⟨⟩⟩
    · rintro (⟨root, hr, text, ht⟩ | ⟨x, hx, text, ht⟩)
      · exact absurd ht (hs root hr text)
      · exact absurd ht (h x hx text)

lemma found_ofDocument (h : ofDocument document = .ok source) (key : String) :
    Found document [] key (source.documentation.get? key) := by
  have hw := writtenOver_insertAll Declared.item?_eq_some_iff .empty (declared document) key
  rw [ofDocument_documentation h, Dictionary.ofList]
  generalize (Dictionary.insertAll _ _).get? key = found at hw ⊢
  cases hw with
  | last h => exact .inDocument (by simp [Silent]) h
  | kept h => exact .nowhere (by simp [Silent]) h

/-- What the files say, read one by one. -/
def mapsOf (roots : List Xml.Node) : List Documentation :=
  roots.map fun root => Dictionary.ofList (Documentation.entries root)

lemma found_addDocumentation (h : ofDocument document = .ok source) (roots : List Xml.Node)
    (key : String) :
    Found document roots key
      (((mapsOf roots).foldl Documented.addDocumentation source).documentation.get? key) := by
  induction roots using List.reverseRecOn with
  | nil => exact found_ofDocument h key
  | append_singleton roots root ih =>
    have hm : ((mapsOf (roots ++ [root])).foldl Documented.addDocumentation source).documentation =
        ((mapsOf roots).foldl Documented.addDocumentation source).documentation.merge
          (Dictionary.ofList (Documentation.entries root)) := by
      simp [mapsOf, List.foldl_append, Documented.addDocumentation]
    rw [hm, Dictionary.get?_merge]
    rcases Documentation.fileGives_of_entries root key with ⟨text, hg, he⟩ | ⟨hs, he⟩
    · rw [he]
      exact .inFile (lastIn_concat hg)
    · rw [he]
      exact ih.concat hs

lemma mapM_ofXml {texts : List String} (h : texts.mapM Xml.read? = some roots) :
    texts.mapM Documentation.ofXml = .ok (mapsOf roots) := by
  rw [mapM_eq_ok_iff, mapsOf, List.forall₂_map_right_iff]
  refine (mapM_eq_some_iff.mp h).imp fun text root hr => ?_
  rw [Documentation.ofXml, hr]

lemma mapsOf_retagged {roots' : List Xml.Node}
    (h : List.Forall₂ (Relation.ReflTransGen Xml.Node.Retagged) roots roots') :
    mapsOf roots' = mapsOf roots := by
  have he : ∀ {root root'}, Relation.ReflTransGen Xml.Node.Retagged root root' →
      Documentation.entries root' = Documentation.entries root := by
    intro root root' hr
    induction hr with
    | refl => rfl
    | tail _ hstep ih => rw [Xml.Node.entries_of_retagged hstep, ih]
  induction h with
  | nil => rfl
  | cons hr _ ih =>
    rw [mapsOf, mapsOf, List.map_cons, List.map_cons, he hr]
    exact congrArg _ ih

/-- The last writer of a documentation text wins, over the whole way from a document through files
in order. There are as many entries as keys that are written, and a member without name or summary
counts no more than another element. -/
theorem last_writer_wins {texts : List String} (hd : ofDocument document = .ok source)
    (hx : texts.mapM Xml.read? = some roots) :
    ∃ maps, texts.mapM Documentation.ofXml = .ok maps ∧
      (∀ key, Found document roots key
        ((maps.foldl Documented.addDocumentation source).documentation.get? key)) ∧
      {key | IsWritten document roots key}.encard =
        (maps.foldl Documented.addDocumentation source).documentation.size ∧
      ∀ (texts' : List String) roots', texts'.mapM Xml.read? = some roots' →
        List.Forall₂ (Relation.ReflTransGen Xml.Node.Retagged) roots roots' →
          texts'.mapM Documentation.ofXml = .ok maps := by
  have hf := found_addDocumentation hd roots
  refine ⟨mapsOf roots, mapM_ofXml hx, hf, ?_, ?_⟩
  · rw [← Dictionary.encard_keys]
    congr 1
    ext key
    exact (hf key).isSome_iff.symm
  · intro texts' roots' hx' hr
    rw [mapM_ofXml hx', mapsOf_retagged hr]

/-- The document and a file have texts for one key, and another file has a member of this name
without summary. -/
def orderDocument : Json :=
  .object [("types", .array [.object [("name", .string "Order"),
    ("documentation", .string "In the document.")]])]

def orderFiles : List String :=
  ["<doc><member name='T:Order'><summary>First.</summary></member>" ++
      "<member name='T:Order'><summary> Second. </summary></member></doc>",
    "<doc><member name='T:Order'/><member><summary>Nameless.</summary></member></doc>"]

theorem order_found_in_first_file : ∃ source roots maps, ofDocument orderDocument = .ok source ∧
    orderFiles.mapM Xml.read? = some roots ∧ orderFiles.mapM Documentation.ofXml = .ok maps ∧
    (maps.foldl Documented.addDocumentation source).documentation.get? "T:Order" = some "Second." ∧
    Found orderDocument roots "T:Order" (some "Second.") := by
  have hrun : (ofDocument orderDocument).toOption.bind (fun source =>
      (orderFiles.mapM Documentation.ofXml).toOption.bind fun maps =>
        (maps.foldl Documented.addDocumentation source).documentation.get? "T:Order") =
            some "Second." := by
    decide +kernel
  obtain ⟨roots, hx⟩ :=
    Option.isSome_iff_exists.mp (by decide +kernel : (orderFiles.mapM Xml.read?).isSome)
  cases hs : ofDocument orderDocument with
  | error e =>
    rw [hs] at hrun
    cases hrun
  | ok source =>
    obtain ⟨maps, hm, hfound, -⟩ := last_writer_wins hs hx
    rw [hs, hm] at hrun
    have hget : (maps.foldl Documented.addDocumentation source).documentation.get? "T:Order" =
      some "Second." := hrun
    exact ⟨source, roots, maps, rfl, hx, hm, hget, hget ▸ hfound "T:Order"⟩

end TypeModel

end Typescribe
