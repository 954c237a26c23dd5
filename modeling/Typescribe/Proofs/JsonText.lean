import Mathlib
import Typescribe.Json.Reader
import Typescribe.Json.Writer

/-!
# Written JSON reads back

The text of a value has the tokens of the value, and from these the machine of open frames makes the
value again. The values concerned are those of strings, arrays and objects.
-/
namespace Typescribe.Json

mutual

/-- Whether it is made of strings, arrays and objects. -/
def isTextual : Json → Bool
  | .string _ => true
  | .array items => areTextual items
  | .object members => areMembersTextual members
  | _ => false

def areTextual : List Json → Bool
  | [] => true
  | v :: vs => v.isTextual && areTextual vs

def areMembersTextual : List (String × Json) → Bool
  | [] => true
  | (_, v) :: ms => v.isTextual && areMembersTextual ms

end

lemma areTextual_map {α : Type} {f : α → Json} (h : ∀ x, (f x).isTextual) (xs : List α) :
    areTextual (xs.map f) := by
  induction xs with
  | nil => rfl
  | cons x xs ih => simp [areTextual, h, ih]

mutual

def tokens : Json → List Token
  | .null => [.null]
  | .bool b => [.bool b]
  | .number n => [.number (some n)]
  | .string s => [.string (some s)]
  | .array items => .openBracket :: tokensOfItems items ++ [.closeBracket]
  | .object members => .openBrace :: tokensOfMembers members ++ [.closeBrace]
  | .unvalued => [.number none]

def tokensOfItems : List Json → List Token
  | [] => []
  | [v] => tokens v
  | v :: w :: vs => tokens v ++ .comma :: tokensOfItems (w :: vs)

def tokensOfMembers : List (String × Json) → List Token
  | [] => []
  | [(k, v)] => .string (some k) :: .colon :: tokens v
  | (k, v) :: m :: ms =>
    .string (some k) :: .colon :: tokens v ++ .comma :: tokensOfMembers (m :: ms)

end

namespace Token

/-- Characters that give the tokens wherever a token may begin, and leave the reader where one may
begin. -/
def Lexes (cs : List Char) (ts : List Token) : Prop :=
  ∀ rest, readFrom? .between (cs ++ rest) = (readFrom? .between rest).map (ts ++ ·)

lemma Lexes.nil : Lexes [] [] := fun rest => by simp

lemma Lexes.append {cs ds : List Char} {ts us : List Token} (h : Lexes cs ts) (g : Lexes ds us) :
    Lexes (cs ++ ds) (ts ++ us) := by
  intro rest
  rw [List.append_assoc, h, g, Option.map_map]
  congr 1
  funext ws
  simp

lemma readFrom?_step {mode mode' : Mode} {c : Char} {ts : List Token}
    (h : step? mode c = some (ts, mode')) (cs : List Char) :
    readFrom? mode (c :: cs) = (readFrom? mode' cs).map (ts ++ ·) := by
  simp only [readFrom?, h, Option.bind_eq_bind, Option.bind_some]
  cases readFrom? mode' cs <;> rfl

lemma readFrom?_silent {mode mode' : Mode} {c : Char} (h : step? mode c = some ([], mode'))
    (cs : List Char) : readFrom? mode (c :: cs) = readFrom? mode' cs := by
  simp [readFrom?_step h]

lemma Lexes.of_begin? {c : Char} {ts : List Token} (h : begin? c = some (ts, .between)) :
    Lexes [c] ts := by
  intro rest
  have hs : step? .between c = some (ts, .between) := h
  exact readFrom?_step hs rest

lemma Lexes.blank {c : Char} {cs : List Char} {us : List Token} (h : begin? c = some ([], .between))
    (g : Lexes cs us) : Lexes (c :: cs) us :=
  (Lexes.of_begin? h).append g

lemma Lexes.mark {c : Char} {cs : List Char} {t : Token} {us : List Token}
    (h : begin? c = some ([t], .between)) (g : Lexes cs us) : Lexes (c :: cs) (t :: us) :=
  (Lexes.of_begin? h).append g

lemma lexes_newLine (level : Nat) : Lexes (newLine level) [] := by
  refine .blank rfl ?_
  induction 2 * level with
  | zero => exact .nil
  | succ n ih => exact .blank rfl ih

lemma readFrom?_hex (units : List Nat) {n : Nat} (h : n < 0x20) (rest : List Char) :
    readFrom? (.hex units []) (Text.lastDigits 16 'a' 4 n ++ rest) =
      readFrom? (.text (n :: units)) rest := by
  have hstep (digits : List Nat) (d : Nat) (hd : digits.length < 3) :
      step? (.hex units digits) (Text.digitChar 'a' (d % 16)) =
          some ([], .hex units (d % 16 :: digits)) := by
    rw [step?, Text.digit?_digitChar (.inl rfl) _ (Nat.mod_lt d (by omega))]
    match digits, hd with
    | [], _ | [_], _ | [_, _], _ => rfl
  have hlast (x y z d : Nat) : step? (.hex units [x, y, z]) (Text.digitChar 'a' (d % 16)) =
      some ([], .text ((((z * 16 + y) * 16 + x) * 16 + d % 16) :: units)) := by
    rw [step?, Text.digit?_digitChar (.inl rfl) _ (Nat.mod_lt d (by omega))]
    rfl
  simp only [Text.lastDigits, List.nil_append, List.cons_append]
  rw [readFrom?_silent (hstep _ _ (by simp)), readFrom?_silent (hstep _ _ (by simp)),
    readFrom?_silent (hstep _ _ (by simp)), readFrom?_silent (hlast _ _ _ _)]
  congr 3
  omega

lemma readFrom?_escape (units : List Nat) (c : Char) (rest : List Char) :
    readFrom? (.text units) (escape c ++ rest) = readFrom? (.text (c.toNat :: units)) rest := by
  have hletter {e d : Char} (he : e ≠ 'u') (hd : escaped? e = some d) :
      readFrom? (.text units) (['\\', e] ++ rest) = readFrom? (.text (d.toNat :: units)) rest := by
    have hs : step? (.escape units) e = some ([], .text (d.toNat :: units)) := by
      simp [step?, he, hd]
    rw [List.cons_append, readFrom?_silent rfl, List.cons_append, readFrom?_silent hs,
      List.nil_append]
  rw [escape]
  split_ifs with h₁ h₂ h₃ h₄ h₅ h₆ h₇ h₈
  · rw [h₁]; exact hletter (by decide) rfl
  · rw [h₂]; exact hletter (by decide) rfl
  · rw [h₃]; exact hletter (by decide) rfl
  · rw [h₄]; exact hletter (by decide) rfl
  · rw [h₅]; exact hletter (by decide) rfl
  · rw [h₆]; exact hletter (by decide) rfl
  · rw [h₇]; exact hletter (by decide) rfl
  · rw [List.cons_append, readFrom?_silent rfl, List.cons_append, readFrom?_silent rfl,
      readFrom?_hex units h₈]
  · exact readFrom?_silent (by simp [step?, h₁, h₂, h₈]) rest

lemma readFrom?_escapes (units : List Nat) (cs rest : List Char) :
    readFrom? (.text units) (cs.flatMap escape ++ rest) =
      readFrom? (.text ((cs.map Char.toNat).reverse ++ units)) rest := by
  induction cs generalizing units with
  | nil => rfl
  | cons c cs ih => simp [readFrom?_escape, ih]

/-- No character is a surrogate, so none is joined to the next. -/
lemma textOfUnits_chars (cs : List Char) : textOfUnits (cs.map Char.toNat) = some cs := by
  induction cs with
  | nil => rfl
  | cons c cs ih =>
    have hc : c.toNat < 0xD800 ∨ 0xDFFF < c.toNat := by
      rcases c.valid with h | h
      · exact .inl h
      · exact .inr h.1
    rw [List.map_cons, textOfUnits.eq_def]
    simp only
    rw [if_neg (by omega), if_neg (by omega), ih]
    simp [Char.ofNat_toNat]

lemma lexes_quote (s : String) : Lexes (quote s) [.string (some s)] := by
  intro rest
  have hend : step? (.text (s.toList.map Char.toNat).reverse) '"' =
      some ([.string (some s)], .between) := by
    simp [step?, ofUnits, textOfUnits_chars]
  have hq : quote s ++ rest = '"' :: (s.toList.flatMap escape ++ '"' :: rest) := by simp [quote]
  rw [hq, readFrom?_silent rfl, readFrom?_escapes, List.append_nil, readFrom?_step hend]

end Token

open Token

mutual

theorem lexes_writeIndented (level : Nat) : ∀ v :
    Json, v.isTextual → Lexes (v.writeIndented level) v.tokens
  | .string s, _ => lexes_quote s
  | .array [], _ => .mark rfl (.mark rfl .nil)
  | .array (v :: vs), h => by
    have hi := lexes_writeIndentedItems (level + 1) (v :: vs) (by simpa [isTextual] using h)
    have he : Lexes (newLine level ++ [']']) [.closeBracket] :=
      (lexes_newLine level).append (.mark rfl .nil)
    rw [writeIndented, tokens, List.append_assoc]
    exact .mark rfl (hi.append he)
  | .object [], _ => .mark rfl (.mark rfl .nil)
  | .object (m :: ms), h => by
    have hi := lexes_writeIndentedMembers (level + 1) (m :: ms) (by simpa [isTextual] using h)
    have he : Lexes (newLine level ++ ['\x7d']) [.closeBrace] :=
      (lexes_newLine level).append (.mark rfl .nil)
    rw [writeIndented, tokens, List.append_assoc]
    exact .mark rfl (hi.append he)

theorem lexes_writeIndentedItems (level : Nat) :
    ∀ vs : List Json, areTextual vs → Lexes (writeIndentedItems level vs) (tokensOfItems vs)
  | [], _ => .nil
  | [v], h => by
    have hv := lexes_writeIndented level v (by simpa [areTextual] using h)
    exact (lexes_newLine level).append hv
  | v :: w :: vs, h => by
    obtain ⟨h₁, h₂⟩ := Bool.and_eq_true_iff.mp h
    have hv := (lexes_newLine level).append (lexes_writeIndented level v h₁)
    exact hv.append (.mark rfl (lexes_writeIndentedItems level (w :: vs) h₂))

theorem lexes_writeIndentedMembers (level : Nat) :
    ∀ ms : List (String × Json), areMembersTextual ms →
      Lexes (writeIndentedMembers level ms) (tokensOfMembers ms)
  | [], _ => .nil
  | [(k, v)], h => by
    have hv := lexes_writeIndented level v (by simpa [areMembersTextual] using h)
    exact ((lexes_newLine level).append (lexes_quote k)).append (.mark rfl (.blank rfl hv))
  | (k, v) :: m :: ms, h => by
    obtain ⟨h₁, h₂⟩ := Bool.and_eq_true_iff.mp h
    have hk := (lexes_newLine level).append (lexes_quote k)
    have hc : Lexes (':' :: ' ' :: v.writeIndented level) (.colon :: v.tokens) :=
      .mark rfl (.blank rfl (lexes_writeIndented level v h₁))
    exact (hk.append hc).append (.mark rfl (lexes_writeIndentedMembers level (m :: ms) h₂))

end

mutual

theorem lexes_write : ∀ v : Json, v.isTextual → Lexes v.write v.tokens
  | .string s, _ => lexes_quote s
  | .array items, h => by
    have hi := lexes_writeItems items (by simpa [isTextual] using h)
    rw [write, tokens]
    exact .mark rfl (hi.append (.mark rfl .nil))
  | .object members, h => by
    have hi := lexes_writeMembers members (by simpa [isTextual] using h)
    rw [write, tokens]
    exact .mark rfl (hi.append (.mark rfl .nil))

theorem lexes_writeItems : ∀ vs :
    List Json, areTextual vs → Lexes (writeItems vs) (tokensOfItems vs)
  | [], _ => .nil
  | [v], h => lexes_write v (by simpa [areTextual] using h)
  | v :: w :: vs, h => by
    obtain ⟨h₁, h₂⟩ := Bool.and_eq_true_iff.mp h
    exact (lexes_write v h₁).append (.mark rfl (lexes_writeItems (w :: vs) h₂))

theorem lexes_writeMembers :
    ∀ ms : List (String × Json), areMembersTextual ms → Lexes (writeMembers ms) (tokensOfMembers ms)
  | [], _ => .nil
  | [(k, v)], h => by
    have hv := lexes_write v (by simpa [areMembersTextual] using h)
    exact (lexes_quote k).append (.mark rfl hv)
  | (k, v) :: m :: ms, h => by
    obtain ⟨h₁, h₂⟩ := Bool.and_eq_true_iff.mp h
    have hc : Lexes (':' :: v.write) (.colon :: v.tokens) := .mark rfl (lexes_write v h₁)
    exact ((lexes_quote k).append hc).append (.mark rfl (lexes_writeMembers (m :: ms) h₂))

end

namespace Machine

lemma run?_cons {m m' : Machine} {t : Token} (h : m.step? t = some m') (ts : List Token) :
    m.run? (t :: ts) = m'.run? ts := by
  simp [run?, h]

/-- A value does not begin with the end of an array. -/
lemma run?_itemOrEnd (stack : List Frame) (v : Json) (rest : List Token) :
    run? (.reading .itemOrEnd stack) (v.tokens ++ rest) =
      run? (.reading .value stack) (v.tokens ++ rest) := by
  cases v <;> rfl

lemma objectOf_keyed (members : List (String × Json)) :
    objectOf (members.map fun m => (some m.1, m.2)).reverse = .object members := by
  have hm : (members.map fun m => (some m.1, m.2)).mapM (fun m => m.1.map fun key => (key, m.2)) =
      some members := by
    induction members with
    | nil => rfl
    | cons m ms ih => simp [ih]
  rw [objectOf, List.reverse_reverse, hm]

mutual

theorem run?_tokens : ∀ (v : Json) (stack : List Frame) (rest : List Token),
    run? (.reading .value stack) (v.tokens ++ rest) = (put? v stack).bind (run? · rest)
  | .null, _, _ | .bool _, _, _ | .number _, _, _ | .string _, _, _ | .unvalued, _, _ => rfl
  | .array [], _, _ => rfl
  | .array (v :: vs), stack, rest => by
    have hi := run?_tokensOfItems (v :: vs) (by simp) [] stack rest
    have ht : (array (v :: vs)).tokens ++ rest = .openBracket ::
        (tokensOfItems (v :: vs) ++ .closeBracket :: rest) := by
      simp [tokens]
    obtain ⟨more, hm⟩ : ∃ more, tokensOfItems (v :: vs) = v.tokens ++ more := by
      cases vs with
      | nil => exact ⟨[], (List.append_nil _).symm⟩
      | cons w vs => exact ⟨_, rfl⟩
    rw [hm, List.append_assoc] at hi ht
    rw [ht, run?_cons rfl, run?_itemOrEnd, hi]
    rfl
  | .object [], _, _ => rfl
  | .object (m :: ms), stack, rest => by
    have hi := run?_tokensOfMembers (m :: ms) (by simp) [] stack rest
    have ht : (object (m :: ms)).tokens ++ rest = .openBrace ::
        (tokensOfMembers (m :: ms) ++ .closeBrace :: rest) := by
      simp [tokens]
    have hm : ∃ k more, tokensOfMembers (m :: ms) = .string k :: more := by
      cases ms with
      | nil => exact ⟨_, _, rfl⟩
      | cons w vs => exact ⟨_, _, rfl⟩
    obtain ⟨k, more, hm⟩ := hm
    rw [List.append_nil, objectOf_keyed, hm] at hi
    rw [ht, hm, run?_cons rfl, ← hi]
    rfl

/-- From an item on to the end of its array. -/
theorem run?_tokensOfItems :
    ∀ (vs : List Json), vs ≠ [] → ∀ (before : List Json) (stack : List Frame)
    (rest : List Token), run? (.reading .value (.array before :: stack))
    (tokensOfItems vs ++ .closeBracket :: rest) =
      (put? (.array (before.reverse ++ vs)) stack).bind (run? · rest)
  | [v], _, before, stack, rest => by
    rw [tokensOfItems, run?_tokens v, ← List.reverse_cons]
    rfl
  | v :: w :: vs, _, before, stack, rest => by
    have hi := run?_tokensOfItems (w :: vs) (by simp) (v :: before) stack rest
    rw [tokensOfItems, List.append_assoc, run?_tokens v]
    rw [List.reverse_cons, List.append_assoc, List.singleton_append] at hi
    exact hi

/-- From a member on to the end of its object. -/
theorem run?_tokensOfMembers : ∀ (ms : List (String × Json)), ms ≠ [] →
    ∀ (before : List (Option String × Json)) (stack : List Frame) (rest : List Token),
      run? (.reading .key (.object before :: stack)) (tokensOfMembers ms ++ .closeBrace :: rest) =
        (put? (objectOf ((ms.map fun m => (some m.1, m.2)).reverse ++ before)) stack).bind
          (run? · rest)
  | [(k, v)], _, before, stack, rest => by
    rw [tokensOfMembers, List.cons_append, List.cons_append, run?_cons rfl, run?_cons rfl,
      run?_tokens v]
    rfl
  | (k, v) :: m :: ms, _, before, stack, rest => by
    have hi := run?_tokensOfMembers (m :: ms) (by simp) ((some k, v) :: before) stack rest
    rw [tokensOfMembers, List.append_assoc, List.cons_append, List.cons_append, run?_cons rfl,
      run?_cons rfl, run?_tokens v]
    rw [List.map_cons, List.reverse_cons, List.append_assoc, List.singleton_append]
    exact hi

end

end Machine

lemma ofTokens?_tokens (v : Json) : ofTokens? v.tokens = some v := by
  have hr := Machine.run?_tokens v [] []
  rw [List.append_nil] at hr
  rw [ofTokens?, hr]
  rfl

lemma read?_of_lexes {cs : List Char} {v : Json} (h : Lexes cs v.tokens) :
    read? (String.ofList cs) = some v := by
  have hl := h []
  rw [List.append_nil] at hl
  have ht : Token.read? cs = some v.tokens := by
    rw [Token.read?, hl]
    simp [readFrom?, finish?]
  rw [read?, String.toList_ofList, ht]
  exact ofTokens?_tokens v

/-- What is written on indented lines reads back. -/
theorem read?_pretty {v : Json} (h : v.isTextual) : read? v.pretty = some v :=
  read?_of_lexes (lexes_writeIndented 0 v h)

/-- What is written on one line reads back. -/
theorem read?_compact {v : Json} (h : v.isTextual) : read? v.compact = some v :=
  read?_of_lexes (lexes_write v h)

end Typescribe.Json
