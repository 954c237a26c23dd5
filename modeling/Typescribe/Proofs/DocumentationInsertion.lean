import Mathlib
import Typescribe.Declaration
import Typescribe.Proofs.Comments
import Typescribe.Proofs.Except

/-!
# Documentation only inserts comments

A run with comments and a run without them go side by side. They fail together, and where they
succeed the code of the first is that of the second with whole comments put in front of the header
and in front of the lines of properties.
-/
namespace Typescribe.Generator
open Documentation (IsComment block commentLines)

/-- A property without its comment. -/
def propertyText (name type : String) : List Char :=
  name.toList ++ ':' :: ' ' :: (type.toList ++ [';'])

/-- An interface: what stands in front of its header, its simple name, and its properties. -/
def layout (front : List Char) (name : TypeName) (properties : List (List Char)) : List Char :=
  front ++ "export interface ".toList ++ name.simple.toList ++ " \x7b\n".toList ++
    Text.joinLines properties ++ "\n\x7d\n".toList

/-- What is known about a member, unless it is blank. -/
def known (documentation : DocumentationSource) (member : Member) : Option String :=
  (documentation member).filter fun text => !Text.allBlank text.toList

/-- Nothing where there is no text, else one comment behind the indent. -/
def IsInsertion (indent : List Char) (text : Option String) (cs : List Char) : Prop :=
  match text with
  | none => cs = []
  | some _ => ∃ comment, cs = indent ++ comment ∧ IsComment comment

/-- The lines of a property as they stand in an interface, without comment. -/
def IsLinesOf (s : Settings) (p : Property) (lines : List Char) : Prop :=
  ∃ r, p.type.render s.unresolved = .ok r ∧
    lines = Text.indentLines s.indent.toList (propertyText (s.naming.apply p.name) r.text)

/-- `f` is `g` with a comment for every member about which something is known. -/
structure Commented (documentation : DocumentationSource) (s : Settings) (t : TypeDescriptor)
    (f g : Fragment) : Prop where
  id : f.id = g.id
  dependencies : f.dependencies = g.dependencies
  code : ∃ front blocks lines,
    IsInsertion [] (known documentation (.type t.name)) front ∧
    List.Forall₂ (fun p b =>
      IsInsertion s.indent.toList (known documentation (.property t.name p.name)) b)
      t.properties blocks ∧
    List.Forall₂ (IsLinesOf s) t.properties lines ∧
    g.code.toList = layout [] t.name lines ∧
    f.code.toList = layout front t.name (List.zipWith (· ++ ·) blocks lines)

lemma fill_property (name comment type : String) :
    Templates.standard.fill Templates.propertyName
        (Dictionary.ofList [("PropertyName", name), ("Documentation", comment),
          ("PropertyType", type)]) =
      .ok (String.ofList (comment.toList ++ propertyText name type)) := by
  have hp : Template.pieces
      "\x7b\x7bDocumentation\x7d\x7d\x7b\x7bPropertyName\x7d\x7d: \x7b\x7bPropertyType\x7d\x7d;".toList =
        [.hole "Documentation", .hole "PropertyName", .literal ':', .literal ' ',
          .hole "PropertyType", .literal ';'] := by rfl
  change Except.ok (Template.fill _ _) = _
  rw [Template.fill, hp]
  rfl

lemma fill_declaration (name comment properties : String) :
    Templates.standard.fill Templates.declarationName
        (Dictionary.ofList [("ClassDeclaration", name), ("Documentation", comment),
          ("Properties", properties)]) =
      .ok (String.ofList (comment.toList ++ "export interface ".toList ++ name.toList ++
        " \x7b\n".toList ++ properties.toList ++ "\n\x7d\n".toList)) := by
  have hp : Template.pieces
      ("\x7b\x7bDocumentation\x7d\x7dexport interface \x7b\x7bClassDeclaration\x7d\x7d \x7b\n" ++
        "\x7b\x7bProperties\x7d\x7d\n\x7d\n").toList =
        .hole "Documentation" ::
          ("export interface ".toList.map .literal ++ .hole "ClassDeclaration" ::
          (" \x7b\n".toList.map .literal ++ .hole "Properties" ::
            "\n\x7d\n".toList.map .literal)) := by rfl
  change Except.ok (Template.fill _ _) = _
  rw [Template.fill, hp]
  simp only [List.append_assoc]
  rfl

lemma property_standard (documentation : DocumentationSource) (s : Settings) (owner : TypeName)
    (p : Property) :
    (make .standard documentation s).property owner p = do
      let r ← (p.type.render s.unresolved).mapError (propertyError owner p)
      let comment := (make .standard documentation s).comment (.property owner p.name)
      return ⟨String.ofList (comment.toList ++ propertyText (s.naming.apply p.name) r.text),
        r.dependencies⟩ := by
  refine bind_congr fun r => ?_
  change (Templates.standard.fill _ _ >>= _) = _
  rw [fill_property]
  rfl

lemma declaration_standard (documentation : DocumentationSource) (s : Settings) (name : TypeName)
    (properties : List String) :
    (make .standard documentation s).declaration name properties =
      .ok (String.ofList (layout ((make .standard documentation s).comment (.type name)).toList name
        ((properties.map String.toList).map (Text.indentLines s.indent.toList)))) := by
  have hi : (Text.indented s.indent ("\n".intercalate properties)).toList =
      Text.joinLines ((properties.map String.toList).map (Text.indentLines s.indent.toList)) := by
    rw [Text.indented, String.toList_ofList, String.toList_intercalate,
      ← Text.indentLines_joinLines]
    rfl
  change Templates.standard.fill Templates.declarationName (Dictionary.ofList [
    ("ClassDeclaration", name.simple), ("Documentation", _),
    ("Properties", Text.indented s.indent ("\n".intercalate properties))]) = _
  rw [fill_declaration, hi, layout]

variable {documentation : DocumentationSource} {s : Settings}

abbrev documented (documentation : DocumentationSource) (s : Settings) : Generator :=
  make .standard documentation { s with documented := true }

abbrev undocumented (documentation : DocumentationSource) (s : Settings) : Generator :=
  make .standard documentation { s with documented := false }

lemma comment_undocumented (member : Member) :
    ((undocumented documentation s).comment member).toList = [] := rfl

lemma comment_documented (s : Settings) (member : Member) :
    ((documented documentation s).comment member).toList =
      ((known documentation member).map fun text => commentLines text.toList).getD [] := by
  change (((documentation member).bind Documentation.comment?).getD "").toList = _
  rw [known]
  cases documentation member with
  | none => rfl
  | some text =>
    cases hb : Text.allBlank text.toList <;> simp [Documentation.comment?, hb, Option.filter]

/-- Two texts of one property: the first is the second with a comment in front. -/
structure SnippetPair (documentation : DocumentationSource) (s : Settings) (owner : TypeName)
    (p : Property) (a b : Snippet) : Prop where
  dependencies : a.dependencies = b.dependencies
  plain : ∃ r, p.type.render s.unresolved = .ok r ∧
    b.text.toList = propertyText (s.naming.apply p.name) r.text
  commented : a.text.toList =
    ((known documentation (.property owner p.name)).map fun text =>
      commentLines text.toList).getD [] ++
      b.text.toList

lemma property_agree (owner : TypeName) (p : Property) :
    Agree (SnippetPair documentation s owner p) ((documented documentation s).property owner p)
      ((undocumented documentation s).property owner p) := by
  rw [property_standard, property_standard]
  refine (Agree.self _).bind fun r r' hr => ?_
  obtain ⟨rfl, hr⟩ := hr
  refine .ok ⟨rfl, ⟨r, mapError_eq_ok hr, ?_⟩, ?_⟩
  · simp [comment_undocumented]
  · rw [← comment_documented s]
    simp [comment_undocumented]

/-- The lines of a property with its comment: an insertion and the lines without comment. -/
lemma SnippetPair.indented {owner : TypeName} {p : Property} {a b : Snippet}
    (h : SnippetPair documentation s owner p a b) (hs : '*' ∉ s.indent.toList)
    (hd : '/' ∉ s.indent.toList) :
    ∃ insertion,
      IsInsertion s.indent.toList (known documentation (.property owner p.name)) insertion ∧
      Text.indentLines s.indent.toList a.text.toList =
        insertion ++ Text.indentLines s.indent.toList b.text.toList := by
  rw [h.commented]
  cases known documentation (.property owner p.name) with
  | none => exact ⟨[], rfl, rfl⟩
  | some text =>
    refine ⟨s.indent.toList ++ block s.indent.toList text.toList, ⟨_, rfl, ?_⟩, ?_⟩
    · exact Documentation.isComment_block hs hd text.toList
    · exact Documentation.indentLines_comment _ _ _

lemma snippets_indented {owner : TypeName} {ps : List Property} {as bs : List Snippet}
    (h : Forall₃ (SnippetPair documentation s owner) ps as bs)
    (hs : '*' ∉ s.indent.toList) (hd : '/' ∉ s.indent.toList) :
    ∃ blocks lines,
      List.Forall₂ (fun p b =>
        IsInsertion s.indent.toList (known documentation (.property owner p.name)) b)
        ps blocks ∧
      List.Forall₂ (IsLinesOf s) ps lines ∧
      bs.map (fun b => Text.indentLines s.indent.toList b.text.toList) = lines ∧
      as.map (fun a => Text.indentLines s.indent.toList a.text.toList) =
        List.zipWith (· ++ ·) blocks lines := by
  induction h with
  | nil => exact ⟨[], [], .nil, .nil, rfl, rfl⟩
  | cons h _ ih =>
    obtain ⟨block, hblock, hlines⟩ := h.indented hs hd
    obtain ⟨r, hr, hplain⟩ := h.plain
    obtain ⟨blocks, lines, hblocks, hl, hb, ha⟩ := ih
    refine ⟨block :: blocks, _ :: lines, .cons hblock hblocks, .cons ⟨r, hr, rfl⟩ hl, ?_, ?_⟩
    · rw [List.map_cons, hb, hplain]
    · rw [List.map_cons, ha, hlines, hplain, List.zipWith_cons_cons]

lemma flatMap_dependencies_eq {owner : TypeName} {ps : List Property} {as bs : List Snippet}
    (h : Forall₃ (SnippetPair documentation s owner) ps as bs) :
    as.flatMap Snippet.dependencies = bs.flatMap Snippet.dependencies := by
  induction h with
  | nil => rfl
  | cons h _ ih => rw [List.flatMap_cons, List.flatMap_cons, h.dependencies, ih]

lemma isInsertion_comment (s : Settings) (member : Member) :
    IsInsertion [] (known documentation member)
      ((documented documentation s).comment member).toList := by
  rw [comment_documented]
  cases known documentation member with
  | none => rfl
  | some text =>
    refine ⟨block [] text.toList, ?_, Documentation.isComment_block (by simp) (by simp) text.toList⟩
    exact Documentation.commentLines_eq_block text.toList

lemma fragment_agree (hs : '*' ∉ s.indent.toList) (hd : '/' ∉ s.indent.toList)
    (t : TypeDescriptor) :
    Agree (Commented documentation s t) ((documented documentation s).fragment t)
      ((undocumented documentation s).fragment t) := by
  refine (Agree.mapM (property_agree t.name) t.properties).bind fun as bs h => ?_
  rw [declaration_standard, declaration_standard]
  obtain ⟨blocks, lines, hblocks, hl, hb, ha⟩ := snippets_indented h hs hd
  refine .ok ⟨rfl, ?_, _, blocks, lines, isInsertion_comment s (.type t.name), hblocks, hl, ?_, ?_⟩
  · change FragmentId.distinct (FragmentId.distinct _) = _
    rw [flatMap_dependencies_eq h]
    rfl
  · rw [← hb]
    simp [Fragment.make, comment_undocumented, Function.comp_def]
  · rw [← ha]
    simp [Fragment.make, Function.comp_def]

/-- Documentation never changes what is declared. With comments and without them a run fails with
the same error or gives the same fragments up to inserted comments. -/
theorem documentation_only_inserts_comments (documentation : DocumentationSource) (s : Settings)
    (hs : '*' ∉ s.indent.toList) (hd : '/' ∉ s.indent.toList) (types : List TypeDescriptor) :
    Agree (fun fs gs => Forall₃ (Commented documentation s) types fs.list gs.list)
      ((make .standard documentation { s with documented := true }).fragments types)
      ((make .standard documentation { s with documented := false }).fragments types) := by
  refine (Agree.mapM (fragment_agree hs hd) types).bind fun fs gs h => ?_
  exact .ok h

/-- Texts that would end a comment, open one, or be a placeholder. -/
def hostile : DocumentationSource
  | .type _ => some "*/ \x7b\x7bProperties\x7d\x7d\r\n**/"
  | .property _ _ => some "/** x\n\n*"

def order : TypeDescriptor where
  name := ⟨some "Shop", "Order"⟩
  properties := [⟨"Id", .scalar .number⟩]

theorem hostile_only_inserts_comments :
    ('*' ∉ "\t".toList ∧ '/' ∉ "\t".toList) ∧
      ((make .standard hostile { documented := true, indent := "\t" }).fragments [order]).map
          (fun fs => fs.list.map Fragment.code) =
        .ok ["/**\n * *\\/ \x7b\x7bProperties\x7d\x7d\n * **\\/\n */\n" ++
          "export interface Order \x7b\n\t/**\n\t * /** x\n\t *\n\t * *\n\t */\n" ++
          "\tId: number;\n\x7d\n"] ∧
      Agree (fun fs gs => Forall₃ (Commented hostile { indent := "\t" }) [order] fs.list gs.list)
        ((make .standard hostile { documented := true, indent := "\t" }).fragments [order])
        ((make .standard hostile { documented := false, indent := "\t" }).fragments [order]) :=
  ⟨⟨by decide, by decide⟩, by decide +kernel,
    documentation_only_inserts_comments hostile { indent := "\t" } (by decide) (by decide) [order]⟩

end Typescribe.Generator
