import MigrationClient.Text.Numeral
import MigrationClient.Text.Utf8

/-!
# Percent-encoding

A character that may not stand for itself in some part of a URL is written as its bytes, each
with a percent sign and two hexadecimal digits. Which characters these are depends on the part:
the classes below grow from one to the next. Decoding what was encoded gives the bytes back
(`decode_encode`), as long as the percent sign itself was among the encoded characters.
-/

namespace MigrationClient.Url.Percent

open Text

/-! ## The classes of characters that are encoded -/

/-- Controls and everything beyond ASCII: encoded in every part. -/
def isControl (c : Char) : Bool := c.toNat < 0x20 || 0x7E < c.toNat

/-- Encoded in a fragment. -/
def inFragment (c : Char) : Bool := isControl c || c ∈ [' ', '"', '<', '>', '`']

/-- Encoded in a query. -/
def inQuery (c : Char) : Bool := isControl c || c ∈ [' ', '"', '#', '<', '>']

/-- Encoded in the query of a URL of a known scheme. -/
def inSpecialQuery (c : Char) : Bool := inQuery c || c = '\''

/-- Encoded in a path segment. -/
def inPath (c : Char) : Bool := inFragment c || c ∈ ['#', '?', '\x7b', '\x7d']

/-- Encoded in a user name or a password. -/
def inUserinfo (c : Char) : Bool :=
  inPath c || c ∈ ['/', ':', ';', '=', '@', '[', '\\', ']', '^', '|']

/-! ## Encoding and decoding -/

/-- A byte as a percent sign and two digits. -/
def encodeByte (b : UInt8) : List Char :=
  ['%', upperDigitChar (b.toNat / 16), upperDigitChar (b.toNat % 16)]

/-- A character as itself, or as its bytes if it is of the class. -/
def encodeChar (encoded : Char → Bool) (c : Char) : List Char :=
  if encoded c then (Utf8.encodeChar c).flatMap encodeByte else [c]

/-- A text with the characters of the class encoded. -/
def encode (encoded : Char → Bool) (s : List Char) : List Char := s.flatMap (encodeChar encoded)

/-- The bytes of a text, where a percent sign and two digits stand for one byte. -/
def decode : List Char → List UInt8
  | [] => []
  | '%' :: a :: b :: r =>
    match digitValue? a, digitValue? b with
    | some x, some y => (x * 16 + y).toUInt8 :: decode r
    | _, _ => Utf8.encodeChar '%' ++ decode (a :: b :: r)
  | c :: r => Utf8.encodeChar c ++ decode r

@[simp] theorem encode_nil (e : Char → Bool) : encode e [] = [] := rfl

@[simp] theorem encode_cons (e : Char → Bool) (c : Char) (r : List Char) :
    encode e (c :: r) = encodeChar e c ++ encode e r := rfl

@[simp] theorem encode_append (e : Char → Bool) (s t : List Char) :
    encode e (s ++ t) = encode e s ++ encode e t := by simp [encode]

theorem encodeChar_ne_nil (e : Char → Bool) (c : Char) : encodeChar e c ≠ [] := by
  obtain ⟨b, r, hb⟩ := List.exists_cons_of_ne_nil (Utf8.encodeChar_ne_nil c)
  unfold encodeChar
  split
  · simp [hb, encodeByte]
  · simp

theorem encode_eq_nil_iff {e : Char → Bool} {s : List Char} : encode e s = [] ↔ s = [] := by
  cases s with
  | nil => simp
  | cons c r => simp [encodeChar_ne_nil e c]

theorem decode_encodeByte (b : UInt8) (r : List Char) :
    decode (encodeByte b ++ r) = b :: decode r := by
  have h : ∀ m : Fin 16, digitValue? (upperDigitChar m.1) = some m.1 := by decide
  have h1 := h ⟨b.toNat / 16, by have := b.toNat_lt; omega⟩
  have h2 := h ⟨b.toNat % 16, by omega⟩
  simp only at h1 h2
  simp only [encodeByte, List.cons_append, List.nil_append, decode, h1, h2]
  rw [Nat.div_add_mod']
  simp

theorem decode_encodeBytes (bs : List UInt8) (r : List Char) :
    decode (bs.flatMap encodeByte ++ r) = bs ++ decode r := by
  induction bs with
  | nil => rfl
  | cons b bs ih => rw [List.flatMap_cons, List.append_assoc, decode_encodeByte, ih]; rfl

theorem decode_cons_of_ne {c : Char} (h : c ≠ '%') (r : List Char) :
    decode (c :: r) = Utf8.encodeChar c ++ decode r := by
  rw [decode]
  intro a b t hc _
  exact h hc

/-- **Decoding gives back the bytes of the text that was encoded**, if the text holds no percent
sign that was left as it is. -/
theorem decode_encode {e : Char → Bool} {s : List Char}
    (h : ∀ c ∈ s, c = '%' → e c = true) : decode (encode e s) = Utf8.encode s := by
  induction s with
  | nil => rfl
  | cons c r ih =>
    have hr := ih fun d hd => h d (List.mem_cons_of_mem c hd)
    rw [encode_cons, Utf8.encode_cons, encodeChar]
    by_cases he : e c = true
    · rw [if_pos he, decode_encodeBytes, hr]
    · rw [if_neg he, List.singleton_append, decode_cons_of_ne, hr]
      exact fun hc => he (h c List.mem_cons_self hc)

end MigrationClient.Url.Percent
