import Mathlib
import Typescribe.Text.Blank

/-!
# The written form of types

A derivation is a tree of the grammar: a union of postfix types, a postfix type as a primary with
pairs of brackets behind it, and a primary as a name, an application, an index signature or a group.
`text` is what a derivation writes and `tree` is what it means, with the groups dropped.
The main result is `Union.text_injective`: a text has at most one derivation.
-/
namespace Typescribe.TypeGrammar

/-- The characters that are signs of the grammar. -/
def delimiters : List Char :=
  ['<', '>', '\x7b', '\x7d', '(', ')', '[', ']', '|', ',', ':']

def isNameChar (c : Char) : Bool :=
  !Text.isBlank c && !delimiters.contains c

structure Name where
  chars : List Char
  nonempty : chars ≠ []
  plain : ∀ c ∈ chars, isNameChar c = true

inductive IndexKey where
  | string
  | number
  deriving DecidableEq, Repr

def IndexKey.text : IndexKey → List Char
  | .string => ['s', 't', 'r', 'i', 'n', 'g']
  | .number => ['n', 'u', 'm', 'b', 'e', 'r']

mutual

inductive Union where
  | single (p : Postfix)
  | either (p : Postfix) (u : Union)

/-- A primary with so many pairs of brackets behind it. -/
inductive Postfix where
  | mk (p : Primary) (pairs : ℕ)

inductive Primary where
  | name (n : Name)
  | applied (n : Name) (arguments : Arguments)
  | index (key : IndexKey) (value : Union)
  | group (u : Union)

inductive Arguments where
  | last (u : Union)
  | more (u : Union) (rest : Arguments)

end

def brackets : ℕ → List Char
  | 0 => []
  | n + 1 => '[' :: ']' :: brackets n

mutual

def Union.text : Union → List Char
  | .single p => p.text
  | .either p u => p.text ++ ' ' :: '|' :: ' ' :: u.text

def Postfix.text : Postfix → List Char
  | .mk p n => p.text ++ brackets n

def Primary.text : Primary → List Char
  | .name n => n.chars
  | .applied n as => n.chars ++ '<' :: (as.text ++ ['>'])
  | .index k u =>
    '\x7b' :: ' ' :: '[' :: 'k' :: 'e' :: 'y' :: ':' :: ' ' :: (k.text ++
      ']' :: ':' :: ' ' :: (u.text ++ [' ', '\x7d']))
  | .group u => '(' :: (u.text ++ [')'])

def Arguments.text : Arguments → List Char
  | .last u => u.text
  | .more u as => u.text ++ ',' :: ' ' :: as.text

end

/-- What a written type says. -/
inductive Tree where
  | atom (name : String)
  | array (element : Tree)
  | union (members : List Tree)
  | index (key : IndexKey) (value : Tree)
  | application (name : String) (arguments : List Tree)

namespace Tree

/-- A union of one is that one. -/
def ofMembers : List Tree → Tree
  | [t] => t
  | ts => .union ts

def members : Tree → List Tree
  | .union ts => ts
  | t => [t]

def arrays : ℕ → Tree → Tree
  | 0, t => t
  | n + 1, t => .array (arrays n t)

end Tree

mutual

def Union.members : Union → List Tree
  | .single p => [p.tree]
  | .either p u => p.tree :: u.members

def Postfix.tree : Postfix → Tree
  | .mk p n => Tree.arrays n p.tree

def Primary.tree : Primary → Tree
  | .name n => .atom (String.ofList n.chars)
  | .applied n as => .application (String.ofList n.chars) as.trees
  | .index k u => .index k (Tree.ofMembers u.members)
  | .group u => Tree.ofMembers u.members

def Arguments.trees : Arguments → List Tree
  | .last u => [Tree.ofMembers u.members]
  | .more u as => Tree.ofMembers u.members :: as.trees

end

/-- What the whole union says; parentheses leave no trace. -/
def Union.tree (u : Union) : Tree :=
  Tree.ofMembers u.members

lemma Name.ext {n m : Name} (h : n.chars = m.chars) : n = m := by
  cases n
  cases m
  simpa using h

lemma brackets_succ (n : ℕ) : brackets (n + 1) = brackets n ++ ['[', ']'] := by
  induction n with
  | zero => rfl
  | succ n ih => exact congrArg (fun l => '[' :: ']' :: l) ih

/-- What follows a name cannot continue it. Each kind of phrase has such a condition, and each is
weaker than the next one. -/
def EndsName (r : List Char) : Prop := ∀ c ∈ r.head?, isNameChar c = false

def EndsPrimary (r : List Char) : Prop := EndsName r ∧ r.head? ≠ some '<'

def EndsPostfix (r : List Char) : Prop := EndsPrimary r ∧ r.head? ≠ some '['

def EndsUnion (r : List Char) : Prop := EndsPostfix r ∧ ¬ [' ', '|'] <+: r

lemma endsName_cons {c : Char} {r : List Char} : EndsName (c :: r) ↔ isNameChar c = false := by
  simp [EndsName]

lemma endsUnion_nil : EndsUnion [] := by
  simp [EndsUnion, EndsPostfix, EndsPrimary, EndsName]

/-- A closing sign or a comma ends a union. -/
lemma endsUnion_cons {c : Char} (hc : c ∈ [',', '>', ')']) (r : List Char) :
    EndsUnion (c :: r) := by
  simp only [List.mem_cons, List.not_mem_nil, or_false] at hc
  rcases hc with rfl | rfl | rfl <;>
    exact ⟨⟨⟨endsName_cons.mpr (by decide), by simp⟩, by simp⟩, by simp⟩

lemma endsUnion_brace (r : List Char) : EndsUnion (' ' :: '\x7d' :: r) :=
  ⟨⟨⟨endsName_cons.mpr (by decide), by simp⟩, by simp⟩, by simp⟩

lemma endsPostfix_bar (r : List Char) : EndsPostfix (' ' :: '|' :: ' ' :: r) :=
  ⟨⟨endsName_cons.mpr (by decide), by simp⟩, by simp⟩

lemma endsPrimary_brackets (n : ℕ) {r : List Char} (hr : EndsPostfix r) :
    EndsPrimary (brackets n ++ r) := by
  cases n with
  | zero => simpa [brackets] using hr.1
  | succ n => exact ⟨endsName_cons.mpr (by decide), by simp [brackets]⟩

lemma brackets_unique {m n : ℕ} {r s : List Char} (hr : EndsPostfix r) (hs : EndsPostfix s)
    (h : brackets m ++ r = brackets n ++ s) : m = n ∧ r = s := by
  induction m generalizing n with
  | zero =>
    cases n with
    | zero => exact ⟨rfl, by simpa [brackets] using h⟩
    | succ n =>
      rw [brackets, List.nil_append] at h
      exact absurd (by simp [h, brackets]) hr.2
  | succ m ih =>
    cases n with
    | zero =>
      rw [brackets.eq_1, List.nil_append] at h
      exact absurd (by simp [← h, brackets]) hs.2
    | succ n =>
      have ht : brackets m ++ r = brackets n ++ s := by simpa [brackets] using h
      obtain ⟨rfl, hrs⟩ := ih ht
      exact ⟨rfl, hrs⟩

lemma takeWhile_name (n : Name) {r : List Char} (hr : EndsName r) :
    (n.chars ++ r).takeWhile isNameChar = n.chars := by
  rw [List.takeWhile_append_of_pos n.plain]
  cases r with
  | nil => simp
  | cons c r => simp [endsName_cons.mp hr]

lemma Name.unique {n m : Name} {r s : List Char} (hr : EndsName r) (hs : EndsName s)
    (h : n.chars ++ r = m.chars ++ s) : n = m ∧ r = s := by
  have hc : n.chars = m.chars := by rw [← takeWhile_name n hr, h, takeWhile_name m hs]
  exact ⟨Name.ext hc, by rw [hc] at h; exact List.append_cancel_left h⟩

/-- A name does not begin with a sign. -/
lemma Name.ne_cons (n : Name) {c : Char} (hc : isNameChar c = false) (r s : List Char) :
    n.chars ++ r ≠ c :: s := by
  intro h
  obtain ⟨chars, hn, hp⟩ := n
  cases chars with
  | nil => exact hn rfl
  | cons d ds =>
    obtain ⟨rfl, -⟩ : d = c ∧ ds ++ r = s := by simpa using h
    simp [hc] at hp

lemma IndexKey.unique {k l : IndexKey} {r s : List Char} (h : k.text ++ r = l.text ++ s) :
    k = l ∧ r = s := by
  cases k <;> cases l <;> simp_all [IndexKey.text]

mutual

theorem Union.text_unique (u v : Union) {r s : List Char} (hr : EndsUnion r) (hs : EndsUnion s)
    (h : u.text ++ r = v.text ++ s) : u = v ∧ r = s := by
  match u, v with
  | .single p, .single q =>
    obtain ⟨rfl, hrs⟩ := Postfix.text_unique p q hr.1 hs.1 (by simpa [Union.text] using h)
    exact ⟨rfl, hrs⟩
  | .single p, .either q v =>
    simp only [Union.text, List.append_assoc, List.cons_append] at h
    have hrs := (Postfix.text_unique p q hr.1 (endsPostfix_bar _) h).2
    exact absurd (by simp [hrs]) hr.2
  | .either p u, .single q =>
    simp only [Union.text, List.append_assoc, List.cons_append] at h
    have hrs := (Postfix.text_unique p q (endsPostfix_bar _) hs.1 h).2
    exact absurd (by simp [← hrs]) hs.2
  | .either p u, .either q v =>
    simp only [Union.text, List.append_assoc, List.cons_append] at h
    obtain ⟨rfl, ht⟩ := Postfix.text_unique p q (endsPostfix_bar _) (endsPostfix_bar _) h
    obtain ⟨rfl, hrs⟩ := Union.text_unique u v hr hs (by simpa using ht)
    exact ⟨rfl, hrs⟩

theorem Postfix.text_unique (p q : Postfix) {r s : List Char} (hr : EndsPostfix r)
    (hs : EndsPostfix s) (h : p.text ++ r = q.text ++ s) : p = q ∧ r = s := by
  match p, q with
  | .mk p m, .mk q n =>
    simp only [Postfix.text, List.append_assoc] at h
    obtain ⟨rfl, ht⟩ :=
      Primary.text_unique p q (endsPrimary_brackets m hr) (endsPrimary_brackets n hs) h
    obtain ⟨rfl, hrs⟩ := brackets_unique hr hs ht
    exact ⟨rfl, hrs⟩

theorem Primary.text_unique (p q : Primary) {r s : List Char} (hr : EndsPrimary r)
    (hs : EndsPrimary s) (h : p.text ++ r = q.text ++ s) : p = q ∧ r = s := by
  match p, q with
  | .name n, .name m =>
    obtain ⟨rfl, hrs⟩ := Name.unique hr.1 hs.1 (by simpa [Primary.text] using h)
    exact ⟨rfl, hrs⟩
  | .name n, .applied m bs =>
    simp only [Primary.text, List.append_assoc, List.cons_append] at h
    have hrs := (Name.unique hr.1 (endsName_cons.mpr (by decide)) h).2
    exact absurd (by simp [hrs]) hr.2
  | .applied n as, .name m =>
    simp only [Primary.text, List.append_assoc, List.cons_append] at h
    have hrs := (Name.unique (endsName_cons.mpr (by decide)) hs.1 h).2
    exact absurd (by simp [← hrs]) hs.2
  | .applied n as, .applied m bs =>
    simp only [Primary.text, List.append_assoc, List.cons_append] at h
    obtain ⟨rfl, ht⟩ :=
      Name.unique (endsName_cons.mpr (by decide)) (endsName_cons.mpr (by decide)) h
    obtain ⟨rfl, hrs⟩ := Arguments.text_unique as bs (by simpa using ht)
    exact ⟨rfl, hrs⟩
  | .index k u, .index l v =>
    simp only [Primary.text, List.append_assoc, List.cons_append, List.cons.injEq, true_and] at h
    obtain ⟨rfl, ht⟩ := IndexKey.unique h
    obtain ⟨rfl, hrs⟩ :=
      Union.text_unique u v (endsUnion_brace r) (endsUnion_brace s) (by simpa using ht)
    exact ⟨rfl, by simpa using hrs⟩
  | .group u, .group v =>
    simp only [Primary.text, List.append_assoc, List.cons_append, List.cons.injEq, true_and] at h
    obtain ⟨rfl, hrs⟩ :=
      Union.text_unique u v (endsUnion_cons (by simp) _) (endsUnion_cons (by simp) _) h
    exact ⟨rfl, by simpa using hrs⟩
  | .name n, .index _ _ => exact absurd h (n.ne_cons (by decide) _ _)
  | .name n, .group _ => exact absurd h (n.ne_cons (by decide) _ _)
  | .applied n as, .index _ _ =>
    simp only [Primary.text, List.append_assoc] at h
    exact absurd h (n.ne_cons (by decide) _ _)
  | .applied n as, .group _ =>
    simp only [Primary.text, List.append_assoc] at h
    exact absurd h (n.ne_cons (by decide) _ _)
  | .index _ _, .name m => exact absurd h.symm (m.ne_cons (by decide) _ _)
  | .index _ _, .applied m _ =>
    simp only [Primary.text, List.append_assoc] at h
    exact absurd h.symm (m.ne_cons (by decide) _ _)
  | .index _ _, .group _ => simp [Primary.text] at h
  | .group _, .name m => exact absurd h.symm (m.ne_cons (by decide) _ _)
  | .group _, .applied m _ =>
    simp only [Primary.text, List.append_assoc] at h
    exact absurd h.symm (m.ne_cons (by decide) _ _)
  | .group _, .index _ _ => simp [Primary.text] at h

theorem Arguments.text_unique (as bs : Arguments) {r s : List Char}
    (h : as.text ++ '>' :: r = bs.text ++ '>' :: s) : as = bs ∧ r = s := by
  match as, bs with
  | .last u, .last v =>
    obtain ⟨rfl, hrs⟩ :=
      Union.text_unique u v (endsUnion_cons (by simp) _) (endsUnion_cons (by simp) _) h
    exact ⟨rfl, by simpa using hrs⟩
  | .last u, .more v bs =>
    simp only [Arguments.text, List.append_assoc, List.cons_append] at h
    have hrs :=
      (Union.text_unique u v (endsUnion_cons (by simp) _) (endsUnion_cons (by simp) _) h).2
    simp at hrs
  | .more u as, .last v =>
    simp only [Arguments.text, List.append_assoc, List.cons_append] at h
    have hrs :=
      (Union.text_unique u v (endsUnion_cons (by simp) _) (endsUnion_cons (by simp) _) h).2
    simp at hrs
  | .more u as, .more v bs =>
    simp only [Arguments.text, List.append_assoc, List.cons_append] at h
    obtain ⟨rfl, ht⟩ :=
      Union.text_unique u v (endsUnion_cons (by simp) _) (endsUnion_cons (by simp) _) h
    obtain ⟨rfl, hrs⟩ := Arguments.text_unique as bs (by simpa using ht)
    exact ⟨rfl, hrs⟩

end

/-- Two derivations of one text are the same. -/
theorem Union.text_injective {u v : Union} (h : u.text = v.text) : u = v :=
  (Union.text_unique u v endsUnion_nil endsUnion_nil (by rw [h])).1

end Typescribe.TypeGrammar
