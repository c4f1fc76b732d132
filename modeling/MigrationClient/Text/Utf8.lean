/-!
# UTF-8

The bytes of a text and the text of bytes. A reader takes one item off the front at a time:
a character, or the longest start of an ill-formed sequence (`next`). Strict decoding refuses
a broken item, lossy decoding puts U+FFFD in its place; both read back what `encode` wrote.
-/

namespace MigrationClient.Text.Utf8

/-! ## Encoding -/

/-- The bytes of one character, one to four of them. -/
def encodeChar (c : Char) : List UInt8 :=
  let n := c.toNat
  if n < 0x80 then [n.toUInt8]
  else if n < 0x800 then [(0xC0 + n / 64).toUInt8, (0x80 + n % 64).toUInt8]
  else if n < 0x10000 then
    [(0xE0 + n / 4096).toUInt8, (0x80 + n / 64 % 64).toUInt8, (0x80 + n % 64).toUInt8]
  else
    [(0xF0 + n / 262144).toUInt8, (0x80 + n / 4096 % 64).toUInt8, (0x80 + n / 64 % 64).toUInt8,
      (0x80 + n % 64).toUInt8]

/-- The bytes of a text. -/
def encode (s : List Char) : List UInt8 := s.flatMap encodeChar

/-- How many bytes a text takes. -/
def size (s : List Char) : Nat := (encode s).length

@[simp] theorem encode_nil : encode [] = [] := rfl

@[simp] theorem encode_cons (c : Char) (s : List Char) :
    encode (c :: s) = encodeChar c ++ encode s := rfl

@[simp] theorem encode_append (s t : List Char) : encode (s ++ t) = encode s ++ encode t := by
  simp [encode]

theorem encodeChar_ne_nil (c : Char) : encodeChar c ≠ [] := by
  unfold encodeChar
  simp only
  repeat' split
  all_goals simp

/-! ## One item -/

/-- A byte that continues a sequence. -/
def isContinuation (b : UInt8) : Bool := 0x80 ≤ b && b ≤ 0xBF

/-- The second bytes that may follow the lead `a` of a longer sequence: all continuation bytes
less those that would spell a character in more bytes than it needs, a surrogate, or a number
beyond the last character. -/
def isSecond (a b : UInt8) : Bool :=
  isContinuation b && (a != 0xE0 || 0xA0 ≤ b) && (a != 0xED || b ≤ 0x9F) &&
    (a != 0xF0 || 0x90 ≤ b) && (a != 0xF4 || b ≤ 0x8F)

/-- The six payload bits of a continuation byte. -/
def payload (b : UInt8) : Nat := b.toNat % 64

/-- One item off the front of some bytes: the character there, or `none` for the longest start
of an ill-formed sequence, together with the bytes after it. -/
def next (a : UInt8) (r : List UInt8) : Option Char × List UInt8 :=
  if a < 0x80 then (some (Char.ofNat a.toNat), r)
  else if 0xC2 ≤ a && a ≤ 0xDF then
    match r with
    | b :: r₁ =>
      if isContinuation b then (some (Char.ofNat (a.toNat % 32 * 64 + payload b)), r₁) else (none, r)
    | [] => (none, [])
  else if 0xE0 ≤ a && a ≤ 0xEF then
    match r with
    | b :: r₁ =>
      if isSecond a b then
        match r₁ with
        | c :: r₂ =>
          if isContinuation c then
            (some (Char.ofNat (a.toNat % 16 * 4096 + payload b * 64 + payload c)), r₂)
          else (none, r₁)
        | [] => (none, [])
      else (none, r)
    | [] => (none, [])
  else if 0xF0 ≤ a && a ≤ 0xF4 then
    match r with
    | b :: r₁ =>
      if isSecond a b then
        match r₁ with
        | c :: r₂ =>
          if isContinuation c then
            match r₂ with
            | d :: r₃ =>
              if isContinuation d then
                (some (Char.ofNat
                  (a.toNat % 8 * 262144 + payload b * 4096 + payload c * 64 + payload d)), r₃)
              else (none, r₂)
            | [] => (none, [])
          else (none, r₁)
        | [] => (none, [])
      else (none, r)
    | [] => (none, [])
  else (none, r)

theorem next_length_le (a : UInt8) (r : List UInt8) : (next a r).2.length ≤ r.length := by
  unfold next
  repeat' split
  all_goals simp <;> omega

/-! ## Decoding -/

/-- The text of well-formed bytes. -/
def decode : List UInt8 → Option (List Char)
  | [] => some []
  | a :: r =>
    match (next a r).1 with
    | some c => (decode (next a r).2).map (c :: ·)
    | none => none
  termination_by s => s.length
  decreasing_by have := next_length_le a r; simp; omega

/-- The text of any bytes, with U+FFFD for each broken item. -/
def decodeLossy : List UInt8 → List Char
  | [] => []
  | a :: r => (next a r).1.getD '\uFFFD' :: decodeLossy (next a r).2
  termination_by s => s.length
  decreasing_by have := next_length_le a r; simp; omega

/-- How many bytes stand before the first broken item; all of them if there is none. -/
def validLength : List UInt8 → Nat
  | [] => 0
  | a :: r =>
    match (next a r).1 with
    | some c => (encodeChar c).length + validLength (next a r).2
    | none => 0
  termination_by s => s.length
  decreasing_by have := next_length_le a r; simp; omega

/-! ## Strings -/

/-- The bytes of a string. -/
def ofString (s : String) : List UInt8 := encode s.toList

/-- The string of well-formed bytes. -/
def toString? (b : List UInt8) : Option String := (decode b).map String.ofList

/-- The string of any bytes, with U+FFFD for each broken item. -/
def toStringLossy (b : List UInt8) : String := String.ofList (decodeLossy b)

/-- What is not in a list of characters is not in the string made of them. -/
theorem notMem_toList_ofList {c : Char} {s : List Char} (h : c ∉ s) :
    c ∉ (String.ofList s).toList := by
  rwa [String.toList_ofList]

end MigrationClient.Text.Utf8
