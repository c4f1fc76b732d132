import MigrationClient.Proofs.Json.Spelling

/-!
# Reading tokens back

What is written for a string or a word is read as what it was written for, whatever stands behind
(`token_text`). Where nobody asks for it, it is passed over as a whole, and so is an integer, unless
what stands behind continues it (`skipToken_text`).
-/

namespace MigrationClient.Json

open Text

/-! ## Characters of strings -/

/-- A byte that stands for itself in a string: no quote, no backslash and no control. -/
def Verbatim (b : UInt8) : Prop := b ≠ 34 ∧ b ≠ 92 ∧ ¬ b < 32

/-- The bytes that a character may be written as in a string: a backslash and a letter, a backslash
and its number, or its own bytes. -/
inductive Escaped (c : Char) : List UInt8 → Prop
  | letter {e : UInt8} : e ≠ 117 → simpleEscape? e = some c.toNat.toUInt8 → c.toNat < 0x80 →
    Escaped c [92, e]
  | number {x y z w : UInt8} :
    valueFrom? 16 0 ([x, y, z, w].map fun b => Char.ofNat b.toNat) = some c.toNat →
    ([x, y, z, w].all fun b => isHex (Char.ofNat b.toNat)) = true → c.toNat < 0x20 →
    Escaped c [92, 117, x, y, z, w]
  | verbatim : (∀ b ∈ Utf8.encodeChar c, Verbatim b) → Escaped c (Utf8.encodeChar c)

/-- The number of a control is written with the digits that it is read from. -/
theorem encode_control (n : Fin 0x20) : ∃ z w : UInt8,
    Utf8.encode ("\\u".toList ++ padLeft '0' 4 (hexadecimal n)) = [92, 117, 48, 48, z, w] ∧
      valueFrom? 16 0 (([48, 48, z, w] : List UInt8).map fun b => Char.ofNat b.toNat) = some n.1 ∧
      (([48, 48, z, w] : List UInt8).all fun b => isHex (Char.ofNat b.toNat)) = true := by
  have key : ∀ n : Fin 0x20,
      let bytes := Utf8.encode (padLeft '0' 4 (hexadecimal n))
      bytes = [48, 48, bytes.getD 2 0, bytes.getD 3 0] ∧
        valueFrom? 16 0 (bytes.map fun b => Char.ofNat b.toNat) = some n.1 ∧
        (bytes.all fun b => isHex (Char.ofNat b.toNat)) = true := by decide +kernel
  obtain ⟨hbytes, hvalue, hhex⟩ := key n
  rw [hbytes] at hvalue hhex
  refine ⟨_, _, ?_, hvalue, hhex⟩
  rw [Utf8.encode_append, hbytes]
  rfl

/-- A character without an escape of its own that is no control. -/
theorem verbatim_of_mem_encodeChar {c : Char} {b : UInt8} (hs : shortEscape? c = none)
    (hc : ¬ c.toNat < 0x20) (hb : b ∈ Utf8.encodeChar c) : Verbatim b := by
  simp only [Verbatim, ne_eq, ← UInt8.toNat_inj, UInt8.lt_iff_toNat_lt]
  by_cases ha : c.toNat < 0x80
  · rw [Utf8.encodeChar_of_ascii ha, List.mem_singleton] at hb
    rw [hb, Utf8.toNat_toUInt8 (by omega)]
    have hquote : c ≠ '"' := by
      rintro rfl
      cases hs
    have hbackslash : c ≠ '\\' := by
      rintro rfl
      cases hs
    exact ⟨fun h => hquote (Char.toNat_inj.1 h), fun h => hbackslash (Char.toNat_inj.1 h), hc⟩
  · have hb := Utf8.le_of_mem_encodeChar (by omega) hb
    have h34 : (34 : UInt8).toNat = 34 := rfl
    have h92 : (92 : UInt8).toNat = 92 := rfl
    have h32 : (32 : UInt8).toNat = 32 := rfl
    omega

theorem escaped_escapeChar (c : Char) : Escaped c (Utf8.encode (escapeChar c)) := by
  unfold escapeChar
  split
  · next e he =>
    unfold shortEscape? at he
    split at he
    all_goals
      cases he
      try exact Escaped.letter (by decide) rfl (by decide)
  · next hs =>
    split
    · next hc =>
      obtain ⟨z, w, he, hvalue, hhex⟩ := encode_control ⟨c.toNat, hc⟩
      rw [he]
      exact .number hvalue hhex hc
    · next hc =>
      rw [Utf8.encode_cons, Utf8.encode_nil, List.append_nil]
      exact .verbatim fun b hb => verbatim_of_mem_encodeChar hs hc hb

variable {c : Char} {s rest : List UInt8}

theorem stringBytes_verbatim {bs : List UInt8} (h : ∀ b ∈ bs, Verbatim b) :
    stringBytes (bs ++ s) = (stringBytes s).map fun (cs, u) => (bs ++ cs, u) := by
  induction bs with
  | nil => cases h : stringBytes s <;> simp [h, Except.map]
  | cons b bs ih =>
    obtain ⟨hquote, hbackslash, hcontrol⟩ := h b List.mem_cons_self
    rw [List.cons_append, stringBytes, if_neg hquote, if_neg hbackslash, if_neg hcontrol,
      ih fun d hd => h d (List.mem_cons_of_mem b hd)]
    cases stringBytes s <;> rfl

theorem skipString_verbatim {bs : List UInt8} (h : ∀ b ∈ bs, Verbatim b) :
    skipString (bs ++ s) = skipString s := by
  induction bs with
  | nil => rfl
  | cons b bs ih =>
    obtain ⟨hquote, hbackslash, hcontrol⟩ := h b List.mem_cons_self
    rw [List.cons_append, skipString, if_neg hcontrol,
      ih fun d hd => h d (List.mem_cons_of_mem b hd)]
    all_goals
      intros
      simp_all

/-- An escape stands for its bytes. -/
theorem stringBytes_escape {r bs : List UInt8} (h : escape r = .ok (bs, s)) :
    stringBytes (92 :: r) = (stringBytes s).map fun (cs, u) => (bs ++ cs, u) := by
  rw [stringBytes, if_neg (by decide), if_pos rfl]
  grind

theorem escape_letter {e b : UInt8} (he : e ≠ 117) (hb : simpleEscape? e = some b) :
    escape (e :: s) = .ok ([b], s) := by
  simp [escape, he, hb]

theorem escape_number {x y z w : UInt8} {n : Nat}
    (h : valueFrom? 16 0 ([x, y, z, w].map fun b => Char.ofNat b.toNat) = some n)
    (hn : n < 0x20) : escape (117 :: x :: y :: z :: w :: s) = .ok (characterBytes n, s) := by
  have hx : hexEscape (x :: y :: z :: w :: s) = .ok (n, s) := by rw [hexEscape, h]
  simp only [escape, if_true, hx]
  rw [if_neg (by omega), if_neg (by omega)]

/-- **A character is read from what is written for it.** -/
theorem stringBytes_escaped {bs : List UInt8} (h : Escaped c bs) :
    stringBytes (bs ++ s) =
      (stringBytes s).map fun (cs, u) => (Utf8.encodeChar c ++ cs, u) := by
  cases h with
  | letter he hs hc =>
    rw [Utf8.encodeChar_of_ascii hc]
    exact stringBytes_escape (escape_letter he hs)
  | number hn hx hc =>
    have h := stringBytes_escape (escape_number (s := s) hn hc)
    rwa [characterBytes, Char.ofNat_toNat] at h
  | verbatim h => exact stringBytes_verbatim h

theorem skipString_escaped {bs : List UInt8} (h : Escaped c bs) :
    skipString (bs ++ s) = skipString s := by
  cases h with
  | @letter e he hs hc =>
    rw [List.cons_append, List.singleton_append, skipString, hs]
    · rfl
    · simp_all
    · simp_all
  | number hn hx hc =>
    simp only [List.cons_append, List.nil_append, skipString, hx, if_true]
  | verbatim h => exact skipString_verbatim h

/-! ## Strings -/

/-- **A string is read from what is written for it**, whatever stands behind. -/
theorem stringBytes_flatMap (cs : List Char) :
    stringBytes (Utf8.encode (cs.flatMap escapeChar) ++ 34 :: rest) =
      .ok (Utf8.encode cs, rest) := by
  induction cs with
  | nil => simp [stringBytes]
  | cons c cs ih =>
    rw [List.flatMap_cons, Utf8.encode_append, List.append_assoc,
      stringBytes_escaped (escaped_escapeChar c), ih]
    rfl

theorem skipString_flatMap (cs : List Char) :
    skipString (Utf8.encode (cs.flatMap escapeChar) ++ 34 :: rest) = .ok rest := by
  induction cs with
  | nil => simp [skipString]
  | cons c cs ih =>
    rw [List.flatMap_cons, Utf8.encode_append, List.append_assoc,
      skipString_escaped (escaped_escapeChar c), ih]

theorem encode_stringText (s : String) : Utf8.encode (stringText s) =
    34 :: (Utf8.encode (s.toList.flatMap escapeChar) ++ [34]) := by
  rw [stringText, Utf8.encode_append, Utf8.encode_cons]
  rfl

/-- **A string is read back behind its opening quote.** -/
theorem string_flatMap (s : String) :
    string (Utf8.encode (s.toList.flatMap escapeChar) ++ 34 :: rest) = .ok (s, rest) := by
  rw [string, stringBytes_flatMap]
  have htake : (Utf8.encode (s.toList.flatMap escapeChar) ++ 34 :: rest).take
      ((Utf8.encode (s.toList.flatMap escapeChar) ++ 34 :: rest).length - rest.length - 1) =
        Utf8.encode (s.toList.flatMap escapeChar) := by
    rw [List.length_append, List.length_cons]
    exact List.take_left' (by omega)
  simp only [htake, Utf8.validLength_encode]
  rw [← Utf8.ofString, Utf8.toString?_ofString]
  simp

/-! ## Words -/

@[simp] theorem word_append (letters : List UInt8) : word letters (letters ++ s) = .ok s := by
  induction letters with
  | nil => rfl
  | cons w ws ih => simp [word, ih]

/-- **A word or a string is read as a token**, whatever stands behind. -/
theorem token_text {t : Token} (ht : ∀ n, t ≠ .number n) :
    ∃ b r, Utf8.encode t.value.text = b :: r ∧ isSpace b = false ∧ Bracket.ofByte? b = none ∧
      token b (r ++ s) = .ok (t, s) := by
  match t, ht with
  | .null, _ =>
    refine ⟨110, [117, 108, 108], rfl, rfl, rfl, ?_⟩
    change (word [117, 108, 108] ([117, 108, 108] ++ s)).map _ = _
    rw [word_append]
    rfl
  | .boolean true, _ =>
    refine ⟨116, [114, 117, 101], rfl, rfl, rfl, ?_⟩
    change (word [114, 117, 101] ([114, 117, 101] ++ s)).map _ = _
    rw [word_append]
    rfl
  | .boolean false, _ =>
    refine ⟨102, [97, 108, 115, 101], rfl, rfl, rfl, ?_⟩
    change (word [97, 108, 115, 101] ([97, 108, 115, 101] ++ s)).map _ = _
    rw [word_append]
    rfl
  | .string t, _ =>
    refine ⟨34, _, encode_stringText t, rfl, rfl, ?_⟩
    rw [List.append_assoc]
    change MigrationClient.Reader.mapStep _ (string (_ ++ 34 :: s)) = _
    rw [string_flatMap]
    rfl
  | .number n, h => exact absurd rfl (h n)

/-! ## Integers -/

/-- That what follows a number does not continue it. -/
def Ends (s : List UInt8) : Prop :=
  ∀ b ∈ s.head?, isDigit b = false ∧ b ≠ 46 ∧ b ≠ 101 ∧ b ≠ 69

theorem ends_cons {b : UInt8} :
    Ends (b :: s) ↔ isDigit b = false ∧ b ≠ 46 ∧ b ≠ 101 ∧ b ≠ 69 := by
  simp [Ends]

theorem ends_blanks (h : ∀ b ∈ s, isSpace b = true) : Ends s := by
  intro b hb
  have hs := h b (List.mem_of_mem_head? hb)
  simp [isSpace] at hs
  rcases hs with ((rfl | rfl) | rfl) | rfl <;> decide

theorem skipFraction_of_ends (h : Ends s) : skipFraction s = .ok s := by
  cases s with
  | nil => rfl
  | cons b r =>
    obtain ⟨-, hpoint, he, hE⟩ := h b rfl
    rw [skipFraction]
    · rw [skipExponentPart, if_neg (not_or.2 ⟨he, hE⟩)]
    · rintro r' ⟨⟩
      exact hpoint rfl

theorem encode_digitChar {k : Nat} (hk : k < 10) :
    ∃ d : UInt8, Utf8.encode [digitChar k] = [d] ∧ isDigit d = true ∧ (d = 48 → k = 0) := by
  have key : ∀ k : Fin 10, Utf8.encode [digitChar k] = [(48 + k.1).toUInt8] ∧
      isDigit (48 + k.1).toUInt8 = true ∧ ((48 + k.1).toUInt8 = 48 → k.1 = 0) := by decide
  exact ⟨_, key ⟨k, hk⟩⟩

/-- The digits of a number, of which the first is a zero for zero alone. -/
theorem encode_decimal (n : Nat) : ∃ d ds, Utf8.encode (decimal n) = d :: ds ∧
    isDigit d = true ∧ (∀ b ∈ ds, isDigit b = true) ∧ (d = 48 → n = 0) := by
  induction n using Nat.strongRecOn with
  | ind n ih =>
    unfold decimal digits
    split
    · next h =>
      obtain ⟨d, ds, hn, hd, hds, hzero⟩ := ih (n / 10) (by omega)
      obtain ⟨e, he, hdigit, -⟩ := encode_digitChar (k := n % 10) (by omega)
      rw [decimal] at hn
      refine ⟨d, ds ++ [e], ?_, hd, ?_, fun h0 => ?_⟩
      · rw [Utf8.encode_append, hn, he, List.cons_append]
      · intro b hb
        rcases List.mem_append.1 hb with hb | hb
        · exact hds b hb
        · rwa [List.mem_singleton.1 hb]
      · have := hzero h0
        omega
    · next h =>
      obtain ⟨e, he, hdigit, hzero⟩ := encode_digitChar (k := n) (by omega)
      exact ⟨e, [], he, hdigit, by simp, hzero⟩

/-- **The digits of a number are passed over as a whole.** -/
theorem skipNumber_decimal (n : Nat) (h : Ends s) :
    skipNumber (Utf8.encode (decimal n) ++ s) = .ok s := by
  obtain ⟨d, ds, hn, hd, hds, hzero⟩ := encode_decimal n
  have hnext : s.head?.any isDigit = false := by
    cases s with
    | nil => rfl
    | cons b r => exact (h b rfl).1
  rw [hn, List.cons_append, skipNumber]
  by_cases h0 : d = 48
  · obtain rfl : ds = [] := by
      have hone : Utf8.encode (decimal 0) = [48] := by
        rw [decimal, digits]
        rfl
      rw [hzero h0, hone] at hn
      exact (List.cons.inj hn).2.symm
    rw [if_pos h0, List.nil_append, hnext]
    exact skipFraction_of_ends h
  · have hdrop : (ds ++ s).dropWhile isDigit = s := by
      rw [List.dropWhile_append_of_pos hds]
      cases s with
      | nil => rfl
      | cons b r => simp [(h b rfl).1]
    rw [if_neg h0, if_pos hd, hdrop]
    exact skipFraction_of_ends h

/-! ## Tokens that are passed over -/

/-- A value without parts and fractions. -/
def Value.isPlain : Value → Bool
  | .null | .boolean _ | .number (.integer _) | .string _ => true
  | _ => false

theorem isDigit_iff {b : UInt8} : isDigit b = true ↔ 48 ≤ b.toNat ∧ b.toNat ≤ 57 := by
  simp [isDigit, UInt8.le_iff_toNat_le]

/-- A digit begins a number and nothing else. -/
theorem skipToken_digit {b : UInt8} {r : List UInt8} (hb : isDigit b = true) :
    isSpace b = false ∧ Bracket.ofByte? b = none ∧ skipToken b r = skipNumber (b :: r) := by
  have hn := isDigit_iff.1 hb
  refine ⟨?_, ?_, ?_⟩
  · simp only [isSpace, ← UInt8.toNat_inj, Bool.or_eq_false_iff, decide_eq_false_iff_not]
    grind
  · unfold Bracket.ofByte?
    simp only [← UInt8.toNat_inj]
    grind
  · have hne : ∀ c : Char, 57 < c.toNat ∨ c.toNat < 48 → Char.ofNat b.toNat ≠ c := by
      rintro _ hc rfl
      rw [Utf8.toNat_ofNat (by omega)] at hc
      omega
    unfold skipToken
    split
    case h_6 => rw [if_pos hb]
    all_goals
      next h => exact absurd h (hne _ (by decide))

/-- **A plain value is passed over as a whole**, wherever it stands. -/
theorem skipToken_text {v : Value} (hv : v.isPlain = true) (hs : Ends s) :
    ∃ b r, Utf8.encode v.text = b :: r ∧ isSpace b = false ∧ Bracket.ofByte? b = none ∧
      skipToken b (r ++ s) = .ok s := by
  match v, hv with
  | .null, _ => exact ⟨110, [117, 108, 108], rfl, rfl, rfl, word_append _⟩
  | .boolean true, _ => exact ⟨116, [114, 117, 101], rfl, rfl, rfl, word_append _⟩
  | .boolean false, _ => exact ⟨102, [97, 108, 115, 101], rfl, rfl, rfl, word_append _⟩
  | .string t, _ =>
    refine ⟨34, _, encode_stringText t, rfl, rfl, ?_⟩
    rw [List.append_assoc]
    exact skipString_flatMap t.toList
  | .number (.integer (.negSucc n)), _ =>
    exact ⟨45, Utf8.encode (decimal (n + 1)), rfl, rfl, rfl, skipNumber_decimal (n + 1) hs⟩
  | .number (.integer (.ofNat n)), _ =>
    obtain ⟨d, ds, hn, hd, -⟩ := encode_decimal n
    obtain ⟨hspace, hbracket, hskip⟩ := skipToken_digit (r := ds ++ s) hd
    refine ⟨d, ds, hn, hspace, hbracket, ?_⟩
    rw [hskip, ← List.cons_append, ← hn]
    exact skipNumber_decimal n hs

end MigrationClient.Json
