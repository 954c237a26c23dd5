import Mathlib
import Typescribe.Proofs.CanonicalNames
import Typescribe.Proofs.Dependencies
import Typescribe.Proofs.DocumentationInsertion
import Typescribe.Proofs.Registry
import Typescribe.Proofs.TypeEncoding
import Typescribe.TypeModel.Document

/-!
# Declared types and references to them

A document gives the qualifier and the simple name of a type apart, and a reference gives them in
one text that is trimmed and cut at its last dot. Both lead to one name if the simple name has no
dot and no blank stands around the full name.
-/
namespace Typescribe

namespace Generator

/-- The code of an interface under a name, behind a comment or nothing. -/
def DeclaresInterface (code name : String) : Prop :=
  ∃ front body,
    code.toList = front ++ "export interface ".toList ++ name.toList ++ " \x7b\n".toList ++ body ∧
    (front = [] ∨ Documentation.IsComment front)

lemma comment_cases (documentation : DocumentationSource) (s : Settings) (member : Member) :
    ((make .standard documentation s).comment member).toList = [] ∨
      Documentation.IsComment ((make .standard documentation s).comment member).toList := by
  cases hd : s.documented with
  | false =>
    left
    simp [comment, make, hd]
  | true =>
    have hs : s = { s with documented := true } := by rw [← hd]
    have hi := @isInsertion_comment documentation s member
    rw [hs]
    unfold IsInsertion at hi
    split at hi
    · exact .inl hi
    · obtain ⟨comment, hc, hi⟩ := hi
      rw [hc]
      exact .inr hi

lemma declaresInterface_fragment {documentation : DocumentationSource} {s : Settings}
    {t : TypeDescriptor} {f : Fragment} (h : (make .standard documentation s).fragment t = .ok f) :
    DeclaresInterface f.code t.name.simple := by
  obtain ⟨snippets, -, h⟩ := bind_eq_ok h
  rw [declaration_standard] at h
  obtain rfl := Except.ok.inj h
  have hc := comment_cases documentation s (.type t.name)
  let lines := ((snippets.map Snippet.text).map String.toList).map
    (Text.indentLines s.indent.toList)
  refine ⟨_, Text.joinLines lines ++ "\n\x7d\n".toList, ?_, hc⟩
  simp [lines, Fragment.make, layout, Function.comp_def]

end Generator

namespace TypeModel

/-- An empty qualifier counts as none, and the simple name is not blank. -/
def IsDeclarable (name : TypeName) : Prop :=
  name.qualifier ≠ some "" ∧ Text.allBlank name.simple.toList = false

lemma requiredText_not_blank {l : Location} {members : List (String × Json)} {key s : String}
    (h : requiredText l members key = .ok s) : Text.allBlank s.toList = false := by
  obtain ⟨text, -, h⟩ := bind_eq_ok h
  cases text with
  | none => cases h
  | some s' =>
    simp only at h
    split_ifs at h with hb
    cases h
    simpa using hb

lemma readType_declarable {l : Location} {docs docs' : Documentation} {v : Json}
    {t : TypeDescriptor} (h : readType l docs v = .ok (t, docs')) : IsDeclarable t.name := by
  cases v with
  | object members =>
    obtain ⟨simple, hs, h⟩ := bind_eq_ok h
    obtain ⟨qualifier, -, h⟩ := bind_eq_ok h
    obtain ⟨text, -, h⟩ := bind_eq_ok h
    obtain ⟨items, -, h⟩ := bind_eq_ok h
    obtain ⟨properties, -, h⟩ := bind_eq_ok h
    cases h
    exact ⟨TypeName.qualifier_make_ne _ _, requiredText_not_blank hs⟩
  | _ => cases h

lemma readTypes_declarable {l : Location} {i : ℕ} {before after : Documented} {items : List Json}
    (h : readTypes l i before items = .ok after)
    (hb : ∀ t ∈ before.model.types, IsDeclarable t.name) :
    ∀ t ∈ after.model.types, IsDeclarable t.name := by
  induction items generalizing i before with
  | nil =>
    cases h
    exact hb
  | cons v vs ih =>
    obtain ⟨⟨type, docs⟩, ht, h⟩ := bind_eq_ok h
    obtain ⟨m, hm, h⟩ := bind_eq_ok h
    refine ih h fun t hmem => ?_
    rw [eq_append_of_extend hm, append, List.mem_append, List.mem_singleton] at hmem
    rcases hmem with hmem | rfl
    · exact hb t hmem
    · exact readType_declarable ht

lemma ofDocument_declarable {document : Json} {source : Documented}
    (h : ofDocument document = .ok source) {t : TypeDescriptor} (ht : t ∈ source.model.types) :
    IsDeclarable t.name := by
  unfold ofDocument at h
  simp only at h
  split at h
  · exact readTypes_declarable h (by simp [empty]) t ht
  · cases h

def referenceTo (fullName : String) : Json :=
  .object [("reference", .string fullName)]

lemma read_referenceTo {text word : String} (ht : Text.Trims text word) (hne : word ≠ "")
    (l : Location) : TypeExpr.read l (referenceTo text) = .ok (.reference (TypeName.parse word)) :=
  TypeExpr.read_of_encodes (.reference (TypeExpr.single_self _ _) ⟨text, rfl, ht, hne⟩) l

lemma fullName_ne_empty {name : TypeName} (h : IsDeclarable name) : name.fullName ≠ "" := by
  intro he
  have hs : name.simple = "" := by
    unfold TypeName.fullName at he
    split at he
    · simp at he
    · exact he
  have hb := h.2
  simp [hs, Text.allBlank] at hb

/-- A type expression stands for a declared type: it is rendered as the name of its interface, and
depends on its fragment and nothing else. -/
structure StandsFor (e : TypeExpr) (t : TypeDescriptor) : Prop where
  name : e = .reference t.name
  rendered : ∀ policy, e.render policy = .ok ⟨t.name.simple, [.ofType t.name]⟩
  declared : ∀ documentation settings f,
    (Generator.make .standard documentation settings).fragment t = .ok f →
    f.id = .ofType t.name ∧ Generator.DeclaresInterface f.code t.name.simple

lemma render_reference (policy : UnresolvedPolicy) (name : TypeName) :
    (TypeExpr.reference name).render policy = .ok ⟨name.simple, [.ofType name]⟩ := rfl

lemma standsFor_reference (t : TypeDescriptor) : StandsFor (.reference t.name) t where
  name := rfl
  rendered policy := render_reference policy t.name
  declared _ _ _ h := ⟨Generator.id_of_fragment h, Generator.declaresInterface_fragment h⟩

/-- The full name of a declared type, where no blank stands around it, is read as a reference, and
that refers to the type exactly if its simple name has no dot. It is rendered as what follows the
last dot, and depends on the fragment of the type unless the only dot stands in front. -/
theorem full_name_refers_iff_simple_name_undotted {document : Json} {source : Documented}
    {t : TypeDescriptor} (h : ofDocument document = .ok source) (ht : t ∈ source.model.types)
    (hn : Text.IsTrim t.name.fullName.toList) :
    let name := TypeName.parse t.name.fullName
    (∀ l, TypeExpr.read l (referenceTo t.name.fullName) = .ok (.reference name)) ∧
      (StandsFor (.reference name) t ↔ '.' ∉ t.name.simple.toList) ∧
      (∀ policy, (TypeExpr.reference name).render policy =
        .ok ⟨String.ofList (Text.afterLast '.' t.name.fullName.toList), [.ofType name]⟩) ∧
      (FragmentId.ofType name = .ofType t.name ↔ ¬ TypeName.IsLoneDotFirst t.name.fullName) := by
  have hd := ofDocument_declarable h ht
  have hp := TypeName.parse_fullName_eq_iff t.name
  have hread := read_referenceTo (Text.trims_self hn) (fullName_ne_empty hd)
  refine ⟨hread, ?_, ?_, TypeName.fullName_parse_eq_iff t.name.fullName⟩
  · constructor
    · intro hs
      have hname : TypeName.parse t.name.fullName = t.name := TypeExpr.reference.inj hs.name
      exact (hp.mp hname).1
    · intro hs
      rw [hp.mpr ⟨hs, hd.1⟩]
      exact standsFor_reference t
  · intro policy
    rw [render_reference, TypeName.simple_parse]

/-- A document with one type, which has no properties. -/
def declaring (qualifier simple : String) : Json :=
  .object [("types", .array [.object [("name", .string simple), ("namespace", .string qualifier)]])]

lemma ofDocument_declaring (qualifier : String) {simple : String}
    (h : Text.allBlank simple.toList = false) :
    ∃ source, ofDocument (declaring qualifier simple) = .ok source ∧
      source.model.types = [⟨TypeName.make (some qualifier) simple, []⟩] := by
  have hr : ∀ l : Location,
      requiredText l [("name", .string simple), ("namespace", .string qualifier)] "name" =
        .ok simple := by
    intro l
    change (if Text.allBlank simple.toList then _ else _) = _
    rw [h]
    rfl
  have ht : ∀ l docs,
      readType l docs (.object [("name", .string simple), ("namespace", .string qualifier)]) =
        .ok (⟨TypeName.make (some qualifier) simple, []⟩, docs) := by
    intro l docs
    rw [readType, hr]
    rfl
  have hd : ofDocument (declaring qualifier simple) = readTypes ⟨"types", []⟩ 0 ⟨empty, .empty⟩
      [.object [("name", .string simple), ("namespace", .string qualifier)]] := rfl
  rw [hd, readTypes, ht]
  exact ⟨_, rfl, rfl⟩

theorem shop_order_full_name_refers :
    ∃ source t, ofDocument (declaring "Shop" "Order") = .ok source ∧
    t ∈ source.model.types ∧ t.name.fullName = "Shop.Order" ∧
    ∃ name, (∀ l, TypeExpr.read l (referenceTo "Shop.Order") = .ok (.reference name)) ∧
      StandsFor (.reference name) t := by
  obtain ⟨source, hs, ht⟩ := @ofDocument_declaring "Shop" "Order" (by decide)
  have hm : (⟨TypeName.make (some "Shop") "Order", []⟩ : TypeDescriptor) ∈ source.model.types := by
    simp [ht]
  obtain ⟨hread, hstands, -⟩ := full_name_refers_iff_simple_name_undotted hs hm (by decide)
  exact ⟨source, _, hs, hm, by decide, _, hread, hstands.mpr (by decide)⟩

/-- A document declares a type under this name, and its full name refers to another one. -/
def MissedAs (simple : String) (name : TypeName) : Prop :=
  ∃ source t, ofDocument (declaring "" simple) = .ok source ∧ t ∈ source.model.types ∧
    t.name ≠ name ∧
    ∀ l, TypeExpr.read l (referenceTo t.name.fullName) = .ok (.reference name)

lemma missedAs {simple word : String} (hb : Text.allBlank simple.toList = false)
    (ht : Text.trimmed simple = word) (hw : word ≠ "")
    (hne : TypeName.make (some "") simple ≠ TypeName.parse word) :
    MissedAs simple (TypeName.parse word) := by
  obtain ⟨source, hs, htypes⟩ := ofDocument_declaring "" hb
  refine ⟨source, _, hs, htypes ▸ List.mem_singleton_self _, hne, ?_⟩
  exact read_referenceTo (Text.trimmed_eq_iff.mp ht) hw

theorem dotted_and_padded_names_missed :
    MissedAs "A.B" ⟨some "A", "B"⟩ ∧ MissedAs ".A" ⟨none, "A"⟩ ∧ MissedAs " A" ⟨none, "A"⟩ :=
  ⟨@missedAs "A.B" "A.B" (by decide) (by decide) (by decide) (by decide),
    @missedAs ".A" ".A" (by decide) (by decide) (by decide) (by decide),
    @missedAs " A" "A" (by decide) (by decide) (by decide) (by decide)⟩

end TypeModel

end Typescribe
