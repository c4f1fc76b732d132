import MigrationClient.Proofs.Text.Utf8

/-!
# Broken bytes

A broken sequence ends before the first byte that cannot carry it on, and the encoding of a text
begins with such a byte (`startsItem_encode`). So whatever stands before the border to a text is
read as if the bytes ended there (`next_append`), and **lossy decoding of bytes and a text behind
them decodes each on its own** (`decodeLossy_append`). Behind a text it is the same for a plainer
reason: every character is read off at once (`decodeLossy_encode_append`).
-/

namespace MigrationClient.Text.Utf8

variable {b t : List UInt8}

/-! ## Behind broken bytes -/

/-- The bytes do not carry on a sequence that was begun before them. -/
def StartsItem (t : List UInt8) : Prop := ∀ b ∈ t.head?, isContinuation b = false

/-- A text begins with a new item. -/
theorem startsItem_encode (s : List Char) : StartsItem (encode s) := by
  intro b hb
  cases s with
  | nil => cases hb
  | cons c s =>
    obtain ⟨a, r, he, hi⟩ := item_encodeChar c (encode s)
    rw [encode_cons, he] at hb
    obtain rfl : a = b := Option.some.inj hb
    rw [Bool.eq_false_iff, ne_eq, isContinuation_iff]
    cases hi <;> omega

/-- **The first item is the same without the bytes where a new item starts**, be it whole or
broken. -/
theorem next_append (ht : StartsItem t) (a : UInt8) (r : List UInt8) :
    next a (r ++ t) = ((next a r).1, (next a r).2 ++ t) := by
  cases t with
  | nil => simp
  | cons e t =>
    have hthird : isContinuation e = false := ht e rfl
    have hsecond : isSecond a e = false := by simp [isSecond, hthird]
    -- An item has three bytes at most behind the first; where `r` has fewer, `e` may be looked at.
    rcases r with _ | ⟨b, _ | ⟨c, _ | ⟨d, r⟩⟩⟩
    iterate 3
      · simp only [next, List.cons_append, List.nil_append, hsecond, hthird, Bool.false_eq_true,
          if_false]
        repeat' split
        all_goals rfl
    · simp only [next, List.cons_append]
      repeat' split
      all_goals rfl

theorem decodeLossy_append (ht : StartsItem t) (b : List UInt8) :
    decodeLossy (b ++ t) = decodeLossy b ++ decodeLossy t := by
  fun_induction decodeLossy b with
  | case1 => rfl
  | case2 a r ih => rw [List.cons_append, decodeLossy, next_append ht, ih, List.cons_append]

/-! ## Behind a text -/

theorem decodeLossy_encode_append (s : List Char) (b : List UInt8) :
    decodeLossy (encode s ++ b) = s ++ decodeLossy b := by
  induction s with
  | nil => rfl
  | cons c s ih =>
    obtain ⟨a, r, he, hi⟩ := item_encodeChar c (encode s ++ b)
    rw [encode_cons, List.append_assoc, he, decodeLossy, next_of_item hi, ih, Option.getD_some,
      List.cons_append]

theorem decodeLossy_encode (s : List Char) : decodeLossy (encode s) = s := by
  have h := decodeLossy_encode_append s []
  rwa [List.append_nil, decodeLossy, List.append_nil] at h

/-- **Bytes between two texts** are decoded as if they stood alone. -/
theorem decodeLossy_between (s : List Char) (b : List UInt8) (t : List Char) :
    decodeLossy (encode s ++ b ++ encode t) = s ++ decodeLossy b ++ t := by
  calc decodeLossy (encode s ++ b ++ encode t)
      = decodeLossy (encode s ++ b) ++ decodeLossy (encode t) :=
        decodeLossy_append (startsItem_encode t) _
    _ = s ++ decodeLossy b ++ t := by rw [decodeLossy_encode_append, decodeLossy_encode]

/-! ## What broken bytes leave -/

theorem decodeLossy_eq_nil_iff : decodeLossy b = [] ↔ b = [] := by
  cases b <;> simp [decodeLossy]

/-- Where bytes have no text, a mark is left in its place. -/
theorem mem_decodeLossy_of_decode (h : decode b = none) : '\uFFFD' ∈ decodeLossy b := by
  fun_induction decode b with
  | case1 => cases h
  | case2 a r c hc ih =>
    rw [decodeLossy]
    exact List.mem_cons_of_mem _ (ih (Option.map_eq_none_iff.1 h))
  | case3 a r hr =>
    rw [decodeLossy, hr]
    exact List.mem_cons_self

end MigrationClient.Text.Utf8
