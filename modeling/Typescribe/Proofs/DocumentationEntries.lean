import Mathlib
import Typescribe.Documentation.Summary
import Typescribe.Json.Record
import Typescribe.Proofs.Dictionary
import Typescribe.Proofs.Except
import Typescribe.TypeModel.Document

/-!
# What writes documentation

In a file every member with a name and a summary writes one text, and in a document every type and
every property with documentation does. `Documents` tells which text goes to which key, on both
sides; reading a file or a document puts these texts in a dictionary in document order.
-/
namespace Typescribe

namespace Xml.Node

mutual

/-- The node and all below it, in document order. -/
def descendants : Node → List Node
  | .text value => [.text value]
  | .element tag attributes children =>
    .element tag attributes children :: descendantsOfAll children

def descendantsOfAll : List Node → List Node
  | [] => []
  | n :: ns => n.descendants ++ descendantsOfAll ns

end

open Documentation

/-- A member that has the key as its name, and the text of its first summary. -/
inductive Documents : Node → String → String → Prop
  | member {tag : Name} {attributes : List Attribute} {before after : List Node} {summary : Node}
      {key : String} (ht : tag.simple = "member") (hk : attributeValue "name" attributes = some key)
      (hs : isSummary summary) (hb : ∀ n ∈ before, ¬ isSummary n) :
      Documents (.element tag attributes (before ++ summary :: after)) key
        (String.ofList (normalize (summaryText summary).toList))

def ownItem? : Node → Option (String × String)
  | .text _ => none
  | .element tag attributes children => memberEntry tag attributes children

lemma ownItem?_eq_some_iff (n : Node) (key text : String) :
    n.ownItem? = some (key, text) ↔ n.Documents key text := by
  cases n with
  | text value =>
    constructor
    · rintro ⟨⟩
    · rintro ⟨⟩
  | element tag attributes children =>
    constructor
    · intro h
      rw [ownItem?, memberEntry] at h
      split_ifs at h with ht
      split at h
      · next hk hs =>
        obtain ⟨hsummary, before, after, rfl, hb⟩ := List.find?_eq_some_iff_append.mp hs
        cases h
        exact .member ht hk hsummary (by simpa using hb)
      · cases h
    · intro h
      cases h with
      | @member _ _ before after summary _ ht hk hs hb =>
        have hf : (before ++ summary :: after).find? isSummary = some summary :=
          List.find?_eq_some_iff_append.mpr ⟨hs, before, after, rfl, by simpa using hb⟩
        rw [ownItem?, memberEntry, if_pos ht, hk, hf]

mutual

theorem entries_eq (n : Node) : entries n = n.descendants.filterMap ownItem? := by
  match n with
  | .text _ => rfl
  | .element tag attributes children =>
    rw [entries, descendants, List.filterMap_cons, entriesOfAll_eq children]
    cases h : memberEntry tag attributes children <;> simp [ownItem?, h]

theorem entriesOfAll_eq (ns : List Node) :
    entriesOfAll ns = (descendantsOfAll ns).filterMap ownItem? := by
  match ns with
  | [] => rfl
  | n :: ns =>
    rw [entriesOfAll, descendantsOfAll, List.filterMap_append, entries_eq n, entriesOfAll_eq ns]

end

/-- One member without name or without summary has become an element of another name, which says
nothing by itself. -/
inductive Retagged : Node → Node → Prop
  | here {tag tag' : Name} {attributes : List Attribute} {children : List Node}
      (ht : tag.simple = "member")
      (hi : attributeValue "name" attributes = none ∨ ∀ n ∈ children, ¬ isSummary n)
      (hp : tag'.simple ∉ ["member", "summary", "see", "seealso"]) :
      Retagged (.element tag attributes children) (.element tag' attributes children)
  | child {tag : Name} {attributes : List Attribute} {before after : List Node} {n n' : Node}
      (h : Retagged n n') :
      Retagged (.element tag attributes (before ++ n :: after))
        (.element tag attributes (before ++ n' :: after))

lemma isSummary_of_retagged {n n' : Node} (h : Retagged n n') : isSummary n' = isSummary n := by
  cases h with
  | here ht _ hp =>
    simp only [List.mem_cons, List.not_mem_nil, or_false, not_or] at hp
    simp [isSummary, ht, hp]
  | child => rfl

lemma summaryTexts_append (ms ns : List Node) :
    summaryTexts (ms ++ ns) = summaryTexts ms ++ summaryTexts ns := by
  induction ms with
  | nil => simp [summaryTexts]
  | cons m ms ih => rw [List.cons_append, summaryTexts, summaryTexts, ih, String.append_assoc]

lemma summaryText_of_retagged {n n' : Node} (h : Retagged n n') :
    summaryText n' = summaryText n := by
  induction h with
  | here ht _ hp =>
    simp only [List.mem_cons, List.not_mem_nil, or_false, not_or] at hp
    simp [summaryText, mention, ht, hp]
  | child _ ih => simp only [summaryText, summaryTexts_append, summaryTexts, ih]

lemma memberEntry_of_retagged {tag : Name} {attributes : List Attribute} {before after : List Node}
    {n n' : Node} (h : Retagged n n') :
    memberEntry tag attributes (before ++ n' :: after) =
      memberEntry tag attributes (before ++ n :: after) := by
  have hs := isSummary_of_retagged h
  have ht := summaryText_of_retagged h
  simp only [memberEntry, List.find?_append, List.find?_cons, hs]
  cases before.find? isSummary with
  | some summary => rfl
  | none =>
    cases isSummary n with
    | true => cases attributeValue "name" attributes <;> simp [ht]
    | false => rfl

lemma entriesOfAll_append (ms ns : List Node) :
    entriesOfAll (ms ++ ns) = entriesOfAll ms ++ entriesOfAll ns := by
  induction ms with
  | nil => rfl
  | cons m ms ih => rw [List.cons_append, entriesOfAll, entriesOfAll, ih, List.append_assoc]

lemma entries_of_retagged {n n' : Node} (h : Retagged n n') : entries n' = entries n := by
  induction h with
  | @here tag tag' attributes children ht hi hp =>
    have hold : memberEntry tag attributes children = none := by
      rw [memberEntry, if_pos ht]
      rcases hi with hi | hi
      · rw [hi]
      · rw [List.find?_eq_none.mpr hi]
        cases attributeValue "name" attributes <;> rfl
    have hnew : memberEntry tag' attributes children = none := by
      rw [memberEntry, if_neg fun he => hp (by simp [he])]
    rw [entries, entries, hold, hnew]
  | child h ih =>
    rw [entries, entries, memberEntry_of_retagged h, entriesOfAll_append, entriesOfAll_append,
      entriesOfAll, entriesOfAll, ih]

end Xml.Node

namespace TypeModel

def itemsUnder (key : String) (v : Json) : List Json :=
  match v.get? key with
  | some (.array items) => items
  | _ => []

def textUnder (key : String) (v : Json) : Option String :=
  (v.get? key).bind Json.string?

/-- A type of a document, or a property with the type that it belongs to. -/
inductive Declared where
  | type (v : Json)
  | property (owner v : Json)

/-- The types in order, each before its properties. -/
def declared (document : Json) : List Declared :=
  (itemsUnder "types" document).flatMap fun v =>
    .type v :: (itemsUnder "properties" v).map (.property v)

def Named (v : Json) (name : TypeName) : Prop :=
  ∃ simple, textUnder "name" v = some simple ∧ name = TypeName.make (textUnder "namespace" v) simple

namespace Declared

/-- The key of a type or property and the text of its documentation. -/
inductive Documents : Declared → String → String → Prop
  | type {v : Json} {name : TypeName} {text : String} (hn : Named v name)
      (ht : textUnder "documentation" v = some text) :
      Documents (.type v) (Member.type name).key text
  | property {owner v : Json} {declaring : TypeName} {name text : String}
      (ho : Named owner declaring)
      (hn : textUnder "name" v = some name) (ht : textUnder "documentation" v = some text) :
      Documents (.property owner v) (Member.property declaring name).key text

def item? : Declared → Option (String × String)
  | .type v => do
    let simple ← textUnder "name" v
    let text ← textUnder "documentation" v
    return ((Member.type (TypeName.make (textUnder "namespace" v) simple)).key, text)
  | .property owner v => do
    let simple ← textUnder "name" owner
    let name ← textUnder "name" v
    let text ← textUnder "documentation" v
    return ((Member.property (TypeName.make (textUnder "namespace" owner) simple) name).key, text)

lemma item?_eq_some_iff (x : Declared) (key text : String) :
    x.item? = some (key, text) ↔ x.Documents key text := by
  cases x with
  | type v =>
    simp only [item?, Option.bind_eq_bind, Option.bind_eq_some_iff, Option.pure_def,
      Option.some.injEq, Prod.mk.injEq]
    constructor
    · rintro ⟨simple, hs, _, ht, rfl, rfl⟩
      exact .type ⟨simple, hs, rfl⟩ ht
    · rintro ⟨⟨simple, hs, rfl⟩, ht⟩
      exact ⟨simple, hs, text, ht, rfl, rfl⟩
  | property owner v =>
    simp only [item?, Option.bind_eq_bind, Option.bind_eq_some_iff, Option.pure_def,
      Option.some.injEq, Prod.mk.injEq]
    constructor
    · rintro ⟨simple, hs, name, hn, _, ht, rfl, rfl⟩
      exact .property ⟨simple, hs, rfl⟩ hn ht
    · rintro (_ | ⟨⟨simple, hs, rfl⟩, hn, ht⟩)
      exact ⟨simple, hs, _, hn, text, ht, rfl, rfl⟩

end Declared

lemma optionalText_eq_ok {l : Location} {members : List (String × Json)} {key : String}
    {text : Option String} (h : optionalText l members key = .ok text) :
    textUnder key (.object members) = text := by
  rw [textUnder, Json.get?]
  unfold optionalText at h
  split at h
  · next he =>
    cases h
    simp [he]
  · next he =>
    cases h
    simp [he, Json.string?]
  · next he =>
    cases h
    simp [he, Json.string?]
  · cases h

lemma requiredText_eq_ok {l : Location} {members : List (String × Json)} {key text : String}
    (h : requiredText l members key = .ok text) : textUnder key (.object members) = some text := by
  obtain ⟨found, hf, h⟩ := bind_eq_ok h
  rw [optionalText_eq_ok hf]
  cases found with
  | none => cases h
  | some s =>
    simp only at h
    split_ifs at h
    cases h
    rfl

lemma propertyItems_eq_ok {l : Location} {members : List (String × Json)} {items : List Json}
    (h : propertyItems l members = .ok items) :
    itemsUnder "properties" (.object members) = items := by
  rw [itemsUnder, Json.get?]
  unfold propertyItems at h
  split at h
  · next he =>
    cases h
    simp [he]
  · next he =>
    cases h
    simp [he]
  · next he =>
    cases h
    simp [he]
  · cases h

lemma insertMember?_eq (d : Documentation) (member : Member) (text : Option String) :
    d.insertMember? member text = d.insertAll (text.map fun text => (member.key, text)).toList := by
  cases text <;> rfl

lemma readProperty_documentation {owner : TypeName} {o v : Json} {l : Location}
    {docs docs' : Documentation} {p : Property} (ho : Named o owner)
    (h : readProperty owner l docs v = .ok (p, docs')) :
    docs' = docs.insertAll (Declared.property o v).item?.toList := by
  obtain ⟨simple, hs, rfl⟩ := ho
  cases v with
  | object members =>
    obtain ⟨name, hn, h⟩ := bind_eq_ok h
    cases htype : members.lookup "type" with
    | none =>
      rw [htype] at h
      cases h
    | some t =>
      rw [htype] at h
      obtain ⟨type, -, h⟩ := bind_eq_ok h
      obtain ⟨text, ht, h⟩ := bind_eq_ok h
      cases h
      rw [insertMember?_eq, Declared.item?, hs, requiredText_eq_ok hn, optionalText_eq_ok ht]
      cases text <;> rfl
  | null | bool | number | string | array | unvalued => cases h

lemma readProperties_documentation {owner : TypeName} {o : Json} {l : Location} {i : ℕ}
    {docs docs' : Documentation} {vs : List Json} {ps : List Property} (ho : Named o owner)
    (h : readProperties owner l i docs vs = .ok (ps, docs')) :
    docs' = docs.insertAll ((vs.map (Declared.property o)).filterMap Declared.item?) := by
  induction vs generalizing i docs ps with
  | nil =>
    cases h
    rfl
  | cons v vs ih =>
    obtain ⟨⟨p, docs₁⟩, hp, h⟩ := bind_eq_ok h
    obtain ⟨⟨rest, docs₂⟩, hrest, h⟩ := bind_eq_ok h
    cases h
    rw [ih hrest, readProperty_documentation ho hp, ← Dictionary.insertAll_append]
    congr 1
    cases he : (Declared.property o v).item? <;> simp [he]

lemma readType_documentation {l : Location} {docs docs' : Documentation} {v : Json}
    {t : TypeDescriptor} (h : readType l docs v = .ok (t, docs')) :
    docs' = docs.insertAll
      ((Declared.type v :: (itemsUnder "properties" v).map (.property v)).filterMap
        Declared.item?) := by
  cases v with
  | object members =>
    obtain ⟨simple, hs, h⟩ := bind_eq_ok h
    obtain ⟨qualifier, hq, h⟩ := bind_eq_ok h
    obtain ⟨text, ht, h⟩ := bind_eq_ok h
    obtain ⟨items, hi, h⟩ := bind_eq_ok h
    obtain ⟨⟨properties, docs₁⟩, hp, h⟩ := bind_eq_ok h
    cases h
    have ho : Named (.object members) (TypeName.make qualifier simple) :=
      ⟨simple, requiredText_eq_ok hs, by rw [optionalText_eq_ok hq]⟩
    rw [readProperties_documentation ho hp, insertMember?_eq, ← Dictionary.insertAll_append,
      propertyItems_eq_ok hi]
    congr 1
    have he : (Declared.type (.object members)).item? =
        text.map fun text => ((Member.type (TypeName.make qualifier simple)).key, text) := by
      rw [Declared.item?, requiredText_eq_ok hs, optionalText_eq_ok hq, optionalText_eq_ok ht]
      cases text <;> rfl
    cases text <;> simp [he]
  | null | bool | number | string | array | unvalued => cases h

lemma readTypes_documentation {l : Location} {i : ℕ} {before after : Documented} {vs : List Json}
    (h : readTypes l i before vs = .ok after) :
    after.documentation = before.documentation.insertAll
      ((vs.flatMap fun v =>
        Declared.type v :: (itemsUnder "properties" v).map (.property v)).filterMap
        Declared.item?) := by
  induction vs generalizing i before with
  | nil =>
    cases h
    rfl
  | cons v vs ih =>
    obtain ⟨⟨t, docs⟩, ht, h⟩ := bind_eq_ok h
    obtain ⟨m, -, h⟩ := bind_eq_ok h
    rw [ih h, List.flatMap_cons, List.filterMap_append, Dictionary.insertAll_append,
      ← readType_documentation ht]

lemma ofDocument_documentation {document : Json} {source : Documented}
    (h : ofDocument document = .ok source) :
    source.documentation = Dictionary.ofList ((declared document).filterMap Declared.item?) := by
  unfold ofDocument at h
  simp only at h
  split at h
  · next items hi =>
    have hd := readTypes_documentation h
    rw [declared, itemsUnder, hi]
    exact hd
  · cases h

end TypeModel

end Typescribe
