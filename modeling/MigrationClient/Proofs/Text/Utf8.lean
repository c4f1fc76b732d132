import MigrationClient.Text.Utf8

/-!
# Well-formed bytes

The first item of some bytes is a character exactly when they begin with what that character is
encoded as (`next_eq_some_iff`). So **bytes have a text exactly when they are what the text is
encoded as** (`decode_eq_some_iff`): there is one way to write a text, and what is written is read
back. It is the encoding that strings are held in (`isValidUTF8_iff`).
-/

namespace MigrationClient.Text.Utf8

/-! ## Numbers of characters and bytes -/

theorem toNat_toUInt8 {n : Nat} (h : n < 256) : n.toUInt8.toNat = n := by
  simp
  omega

/-- The numbers of characters: all up to the last one but the surrogates. -/
theorem toNat_char (c : Char) : c.toNat < 0xD800 ∨ 0xDFFF < c.toNat ∧ c.toNat < 0x110000 := by
  have := c.valid
  simpa [UInt32.isValidChar, Nat.isValidChar] using this

theorem toNat_ofNat {n : Nat} (h : n < 0xD800 ∨ 0xDFFF < n ∧ n < 0x110000) :
    (Char.ofNat n).toNat = n := by
  rw [Char.ofNat, dif_pos h]
  rfl

theorem isContinuation_iff {b : UInt8} :
    isContinuation b = true ↔ 0x80 ≤ b.toNat ∧ b.toNat ≤ 0xBF := by
  simp [isContinuation, UInt8.le_iff_toNat_le]

theorem isSecond_iff {a b : UInt8} : isSecond a b = true ↔
    (0x80 ≤ b.toNat ∧ b.toNat ≤ 0xBF) ∧ (a.toNat = 0xE0 → 0xA0 ≤ b.toNat) ∧
      (a.toNat = 0xED → b.toNat ≤ 0x9F) ∧ (a.toNat = 0xF0 → 0x90 ≤ b.toNat) ∧
      (a.toNat = 0xF4 → b.toNat ≤ 0x8F) := by
  simp only [isSecond, Bool.and_eq_true, isContinuation_iff, Bool.or_eq_true, bne_iff_ne, ne_eq,
    decide_eq_true_eq, UInt8.le_iff_toNat_le, ← UInt8.toNat_inj]
  grind

/-! ## One character -/

/-- The items that are characters, by the number of their bytes. -/
inductive Item : UInt8 → List UInt8 → Char → List UInt8 → Prop
  | one {a r} : a.toNat < 0x80 → Item a r (Char.ofNat a.toNat) r
  | two {a b r} : 0xC2 ≤ a.toNat → a.toNat ≤ 0xDF → isContinuation b = true →
      Item a (b :: r) (Char.ofNat (a.toNat % 32 * 64 + payload b)) r
  | three {a b c r} : 0xE0 ≤ a.toNat → a.toNat ≤ 0xEF → isSecond a b = true →
      isContinuation c = true →
      Item a (b :: c :: r) (Char.ofNat (a.toNat % 16 * 4096 + payload b * 64 + payload c)) r
  | four {a b c d r} : 0xF0 ≤ a.toNat → a.toNat ≤ 0xF4 → isSecond a b = true →
      isContinuation c = true → isContinuation d = true →
      Item a (b :: c :: d :: r) (Char.ofNat
        (a.toNat % 8 * 262144 + payload b * 4096 + payload c * 64 + payload d)) r

variable {a : UInt8} {r t : List UInt8} {c : Char}

theorem next_of_item (h : Item a r c t) : next a r = (some c, t) := by
  cases h with
  | one ha => simp [next, UInt8.lt_iff_toNat_lt, ha]
  | two ha ha' hb =>
    have h1 : ¬ a.toNat < 0x80 := by omega
    simp [next, UInt8.lt_iff_toNat_lt, UInt8.le_iff_toNat_le, h1, ha, ha', hb]
  | three ha ha' hb hc =>
    have h1 : ¬ a.toNat < 0x80 := by omega
    have h2 : ¬ a.toNat ≤ 0xDF := by omega
    simp [next, UInt8.lt_iff_toNat_lt, UInt8.le_iff_toNat_le, h1, h2, ha, ha', hb, hc]
  | four ha ha' hb hc hd =>
    have h1 : ¬ a.toNat < 0x80 := by omega
    have h2 : ¬ a.toNat ≤ 0xDF := by omega
    have h3 : ¬ a.toNat ≤ 0xEF := by omega
    simp [next, UInt8.lt_iff_toNat_lt, UInt8.le_iff_toNat_le, h1, h2, h3, ha, ha', hb, hc, hd]

theorem item_of_next (h : next a r = (some c, t)) : Item a r c t := by
  unfold next at h
  simp only [UInt8.lt_iff_toNat_lt, UInt8.le_iff_toNat_le, Bool.and_eq_true,
    decide_eq_true_eq] at h
  split at h
  · next ha =>
    cases h
    exact .one ha
  split at h
  · next ha =>
    split at h
    · split at h
      · next hb =>
        cases h
        exact .two ha.1 ha.2 hb
      · cases h
    · cases h
  split at h
  · next ha =>
    split at h
    · split at h
      · next hb =>
        split at h
        · split at h
          · next hc =>
            cases h
            exact .three ha.1 ha.2 hb hc
          · cases h
        · cases h
      · cases h
    · cases h
  split at h
  · next ha =>
    split at h
    · split at h
      · next hb =>
        split at h
        · split at h
          · next hc =>
            split at h
            · split at h
              · next hd =>
                cases h
                exact .four ha.1 ha.2 hb hc hd
              · cases h
            · cases h
          · cases h
        · cases h
      · cases h
    · cases h
  · cases h

/-- A character is encoded as the bytes of its item. -/
theorem encodeChar_of_item (h : Item a r c t) : a :: r = encodeChar c ++ t := by
  cases h with
  | one ha =>
    have hn := toNat_ofNat (n := a.toNat) (by omega)
    simp [encodeChar, hn, ha]
  | @two b _ ha ha' hb =>
    rw [isContinuation_iff] at hb
    have hn := toNat_ofNat (n := a.toNat % 32 * 64 + b.toNat % 64) (by omega)
    simp only [encodeChar, payload, hn]
    rw [if_neg (by omega), if_pos (by omega)]
    simp only [List.cons_append, List.nil_append, List.cons.injEq, ← UInt8.toNat_inj, and_true]
    rw [toNat_toUInt8 (by omega), toNat_toUInt8 (by omega)]
    omega
  | @three b c _ ha ha' hb hc =>
    rw [isSecond_iff] at hb
    rw [isContinuation_iff] at hc
    have hn := toNat_ofNat (n := a.toNat % 16 * 4096 + b.toNat % 64 * 64 + c.toNat % 64) (by omega)
    simp only [encodeChar, payload, hn]
    rw [if_neg (by omega), if_neg (by omega), if_pos (by omega)]
    simp only [List.cons_append, List.nil_append, List.cons.injEq, ← UInt8.toNat_inj, and_true]
    rw [toNat_toUInt8 (by omega), toNat_toUInt8 (by omega), toNat_toUInt8 (by omega)]
    omega
  | @four b c d _ ha ha' hb hc hd =>
    rw [isSecond_iff] at hb
    rw [isContinuation_iff] at hc hd
    have hn := toNat_ofNat (n := a.toNat % 8 * 262144 + b.toNat % 64 * 4096 + c.toNat % 64 * 64 +
      d.toNat % 64) (by omega)
    simp only [encodeChar, payload, hn]
    rw [if_neg (by omega), if_neg (by omega), if_neg (by omega)]
    simp only [List.cons_append, List.nil_append, List.cons.injEq, ← UInt8.toNat_inj, and_true]
    rw [toNat_toUInt8 (by omega), toNat_toUInt8 (by omega), toNat_toUInt8 (by omega),
      toNat_toUInt8 (by omega)]
    omega

theorem item_encodeChar (c : Char) (t : List UInt8) :
    ∃ a r, encodeChar c ++ t = a :: r ∧ Item a r c t := by
  have hc := toNat_char c
  have named : ∀ {a r n}, n = c.toNat → Item a r (Char.ofNat n) t → Item a r c t := by
    rintro a r _ rfl h
    rwa [Char.ofNat_toNat] at h
  by_cases h1 : c.toNat < 0x80
  · have hn := toNat_toUInt8 (n := c.toNat) (by omega)
    refine ⟨_, _, by simp only [encodeChar, h1, if_true]; rfl, named hn (.one ?_)⟩
    omega
  by_cases h2 : c.toNat < 0x800
  · have ha := toNat_toUInt8 (n := 0xC0 + c.toNat / 64) (by omega)
    have hb := toNat_toUInt8 (n := 0x80 + c.toNat % 64) (by omega)
    refine ⟨_, _, by simp only [encodeChar, h1, h2, if_true, if_false]; rfl,
      named ?_ (.two ?_ ?_ (isContinuation_iff.2 ?_))⟩
    all_goals
      simp only [payload, ha, hb]
      omega
  by_cases h3 : c.toNat < 0x10000
  · have ha := toNat_toUInt8 (n := 0xE0 + c.toNat / 4096) (by omega)
    have hb := toNat_toUInt8 (n := 0x80 + c.toNat / 64 % 64) (by omega)
    have hd := toNat_toUInt8 (n := 0x80 + c.toNat % 64) (by omega)
    refine ⟨_, _, by simp only [encodeChar, h1, h2, h3, if_true, if_false]; rfl,
      named ?_ (.three ?_ ?_ (isSecond_iff.2 ?_) (isContinuation_iff.2 ?_))⟩
    all_goals
      simp only [payload, ha, hb, hd]
      omega
  · have ha := toNat_toUInt8 (n := 0xF0 + c.toNat / 262144) (by omega)
    have hb := toNat_toUInt8 (n := 0x80 + c.toNat / 4096 % 64) (by omega)
    have hd := toNat_toUInt8 (n := 0x80 + c.toNat / 64 % 64) (by omega)
    have he := toNat_toUInt8 (n := 0x80 + c.toNat % 64) (by omega)
    refine ⟨_, _, by simp only [encodeChar, h1, h2, h3, if_false]; rfl,
      named ?_ (.four ?_ ?_ (isSecond_iff.2 ?_) (isContinuation_iff.2 ?_)
        (isContinuation_iff.2 ?_))⟩
    all_goals
      simp only [payload, ha, hb, hd, he]
      omega

theorem encodeChar_of_ascii (hc : c.toNat < 0x80) : encodeChar c = [c.toNat.toUInt8] := by
  simp [encodeChar, hc]

/-- No byte of a character beyond ASCII is one of ASCII. -/
theorem le_of_mem_encodeChar {b : UInt8} (hc : 0x80 ≤ c.toNat) (hb : b ∈ encodeChar c) :
    0x80 ≤ b.toNat := by
  obtain ⟨a, r, he, hi⟩ := item_encodeChar c []
  rw [List.append_nil] at he
  rw [he] at hb
  cases hi with
  | one ha =>
    have hn := toNat_ofNat (n := a.toNat) (by omega)
    omega
  | two ha _ hb' =>
    rw [isContinuation_iff] at hb'
    simp only [List.mem_cons, List.not_mem_nil, or_false] at hb
    rcases hb with rfl | rfl <;> omega
  | three ha _ hb' hc' =>
    rw [isSecond_iff] at hb'
    rw [isContinuation_iff] at hc'
    simp only [List.mem_cons, List.not_mem_nil, or_false] at hb
    rcases hb with rfl | rfl | rfl <;> omega
  | four ha _ hb' hc' hd' =>
    rw [isSecond_iff] at hb'
    rw [isContinuation_iff] at hc' hd'
    simp only [List.mem_cons, List.not_mem_nil, or_false] at hb
    rcases hb with rfl | rfl | rfl | rfl <;> omega

/-- **The first item is a character exactly when the bytes begin with its encoding.** -/
theorem next_eq_some_iff : next a r = (some c, t) ↔ a :: r = encodeChar c ++ t := by
  constructor
  · intro h
    exact encodeChar_of_item (item_of_next h)
  · intro h
    obtain ⟨a', r', he, hi⟩ := item_encodeChar c t
    rw [← h] at he
    cases he
    exact next_of_item hi

/-! ## Whole texts -/

/-- **Bytes have a text exactly when they are what the text is encoded as.** -/
theorem decode_eq_some_iff {b : List UInt8} {s : List Char} : decode b = some s ↔ b = encode s := by
  constructor
  · intro h
    fun_induction decode b generalizing s with
    | case1 =>
      cases h
      rfl
    | case2 a r c hc ih =>
      obtain ⟨s', hs, rfl⟩ := Option.map_eq_some_iff.1 h
      rw [encode_cons, ← ih hs, next_eq_some_iff.1 (Prod.ext hc rfl)]
    | case3 => cases h
  · rintro rfl
    induction s with
    | nil => simp [decode]
    | cons c s ih =>
      obtain ⟨a, r, he, hi⟩ := item_encodeChar c (encode s)
      rw [encode_cons, he, decode, next_of_item hi]
      simp [ih]

theorem toString?_eq_some_iff {b : List UInt8} {s : String} :
    toString? b = some s ↔ b = ofString s := by
  rw [toString?, Option.map_eq_some_iff]
  constructor
  · rintro ⟨t, ht, rfl⟩
    rw [decode_eq_some_iff.1 ht, ofString, String.toList_ofList]
  · rintro rfl
    exact ⟨s.toList, decode_eq_some_iff.2 rfl, String.ofList_toList⟩

@[simp] theorem toString?_ofString (s : String) : toString? (ofString s) = some s :=
  toString?_eq_some_iff.2 rfl

theorem ofString_inj {s t : String} : ofString s = ofString t ↔ s = t := by
  constructor
  · intro h
    rw [← Option.some_inj, ← toString?_ofString s, h, toString?_ofString]
  · rintro rfl
    rfl

/-- No byte of an encoded text stands before a broken item. -/
theorem validLength_encode (s : List Char) : validLength (encode s) = (encode s).length := by
  induction s with
  | nil => simp [validLength]
  | cons c s ih =>
    obtain ⟨a, r, he, hi⟩ := item_encodeChar c (encode s)
    rw [encode_cons, he, validLength, next_of_item hi]
    simp [ih, ← he]

/-! ## How strings are held -/

theorem encodeChar_eq (c : Char) : encodeChar c = String.utf8EncodeChar c := by
  have hc := toNat_char c
  have hval : c.val.toNat = c.toNat := rfl
  have le_iff : ∀ n, c.toNat ≤ n ↔ c.toNat < n + 1 := fun n => Nat.lt_succ_iff.symm
  simp only [encodeChar, String.utf8EncodeChar, hval, le_iff, Nat.reduceAdd]
  -- only the lead byte is written in another way
  split
  · rfl
  split
  · have hlead : c.toNat / 64 % 32 = c.toNat / 64 := by omega
    simp only [hlead, Nat.add_comm]
  split
  · have hlead : c.toNat / 4096 % 16 = c.toNat / 4096 := by omega
    simp only [hlead, Nat.add_comm]
  · have hlead : c.toNat / 262144 % 8 = c.toNat / 262144 := by omega
    simp only [hlead, Nat.add_comm]

theorem toByteArray_encode (s : List Char) : (encode s).toByteArray = s.utf8Encode := by
  rw [encode, funext encodeChar_eq, List.utf8Encode]

/-- **The bytes that a string can be held in** are those that a text is encoded as. -/
theorem isValidUTF8_iff {b : List UInt8} :
    b.toByteArray.IsValidUTF8 ↔ ∃ s : String, b = ofString s := by
  constructor
  · rintro ⟨s, hs⟩
    rw [← toByteArray_encode, List.toByteArray_inj] at hs
    exact ⟨String.ofList s, by rw [hs, ofString, String.toList_ofList]⟩
  · rintro ⟨s, rfl⟩
    exact ⟨s.toList, toByteArray_encode s.toList⟩

end MigrationClient.Text.Utf8
