import MigrationClient.Json.Reader
import MigrationClient.Proofs.Text.Utf8

/-!
# Spellings of JSON values

A value is spelled by its tokens, with any blanks between them. The text that it is written as is
one of its spellings (`spelled_toString`).
-/

namespace MigrationClient.Json

open Text

/-! ## Tokens -/

mutual

/-- The tokens of a value. -/
def Value.tokens : Value → List (List Char)
  | .array items => ['['] :: itemsTokens true items ++ [[']']]
  | .object members => ['\x7b'] :: membersTokens true members ++ [['\x7d']]
  | v => [v.text]

/-- The tokens of items, with commas before all but the first. -/
def itemsTokens (first : Bool) : List Value → List (List Char)
  | [] => []
  | v :: r => (if first then [] else [[',']]) ++ v.tokens ++ itemsTokens false r

/-- The tokens of members, with commas before all but the first. -/
def membersTokens (first : Bool) : List (String × Value) → List (List Char)
  | [] => []
  | (k, v) :: r =>
    (if first then [] else [[',']]) ++ stringText k :: [':'] :: v.tokens ++ membersTokens false r

end

mutual

/-- **The tokens make up the text.** -/
theorem Value.flatten_tokens : ∀ v : Value, v.tokens.flatten = v.text
  | .null | .boolean _ | .number _ | .string _ => by
    simp [Value.tokens]
  | .array items => by simp [Value.tokens, Value.text, flatten_itemsTokens true items]
  | .object members => by simp [Value.tokens, Value.text, flatten_membersTokens true members]

theorem flatten_itemsTokens (first : Bool) :
    ∀ items, (itemsTokens first items).flatten = itemsText first items
  | [] => rfl
  | v :: r => by
    cases first <;> simp [itemsTokens, itemsText, v.flatten_tokens, flatten_itemsTokens false r]

theorem flatten_membersTokens (first : Bool) :
    ∀ members, (membersTokens first members).flatten = membersText first members
  | [] => rfl
  | (k, v) :: r => by
    cases first <;>
      simp [membersTokens, membersText, v.flatten_tokens, flatten_membersTokens false r]

end

/-! ## Texts with blanks -/

/-- That a text begins with some tokens, with any blanks before each, and what is left of it. -/
inductive Begins : List (List Char) → List UInt8 → List UInt8 → Prop
  | nil (s : List UInt8) : Begins [] s s
  | cons {t : List Char} {ts : List (List Char)} {blanks s rest : List UInt8} :
    (∀ b ∈ blanks, isSpace b = true) → Begins ts s rest →
    Begins (t :: ts) (blanks ++ (Utf8.encode t ++ s)) rest

/-- That a text is a value and blanks, which may stand between the tokens and around them. -/
def Value.Spelled (v : Value) (text : List UInt8) : Prop :=
  ∃ blanks, Begins v.tokens text blanks ∧ ∀ b ∈ blanks, isSpace b = true

variable {t : List Char} {ts us : List (List Char)} {s rest : List UInt8} {v : Value}

theorem begins_append :
    Begins (ts ++ us) s rest ↔ ∃ m, Begins ts s m ∧ Begins us m rest := by
  constructor
  · intro h
    induction ts generalizing s with
    | nil => exact ⟨s, .nil s, h⟩
    | cons t ts ih =>
      cases h with
      | cons hb h =>
        obtain ⟨m, hm, hr⟩ := ih h
        exact ⟨m, .cons hb hm, hr⟩
  · rintro ⟨m, hm, hr⟩
    induction hm with
    | nil => exact hr
    | cons hb _ ih => exact .cons hb (ih hr)

theorem begins_encode_flatten (ts : List (List Char)) (s : List UInt8) :
    Begins ts (Utf8.encode ts.flatten ++ s) s := by
  induction ts with
  | nil => exact .nil s
  | cons t ts ih =>
    have h : Begins (t :: ts) ([] ++ (Utf8.encode t ++ (Utf8.encode ts.flatten ++ s))) s :=
      .cons (by simp) ih
    simpa using h

/-- A value is spelled by the text that it is written as. -/
theorem spelled_toString (v : Value) : v.Spelled (Utf8.ofString v.toString) := by
  refine ⟨[], ?_, by simp⟩
  have h := begins_encode_flatten v.tokens []
  rw [v.flatten_tokens, List.append_nil] at h
  rwa [Utf8.ofString, Value.toString, String.toList_ofList]

/-! ## The next token -/

theorem skipSpace_blanks {blanks : List UInt8} (h : ∀ b ∈ blanks, isSpace b = true) :
    skipSpace (blanks ++ s) = skipSpace s := List.dropWhile_append_of_pos h

theorem skipSpace_cons {b : UInt8} (h : isSpace b = false) : skipSpace (b :: s) = b :: s := by
  simp [skipSpace, h]

/-- What is left of a text behind its blanks begins with the first token. -/
theorem skipSpace_of_begins {b : UInt8} {r : List UInt8} (h : Begins (t :: ts) s rest)
    (ht : Utf8.encode t = b :: r) (hb : isSpace b = false) :
    ∃ m, skipSpace s = b :: (r ++ m) ∧ Begins ts m rest := by
  cases h with
  | cons hblanks h =>
    refine ⟨_, ?_, h⟩
    rw [skipSpace_blanks hblanks, ht, List.cons_append, skipSpace_cons hb]

end MigrationClient.Json
