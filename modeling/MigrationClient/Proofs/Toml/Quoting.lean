import MigrationClient.Toml.Reader

/-!
# Strings in double quotes

Between double quotes a plain character stands for itself, and any character of four hexadecimal
digits can be written by its number. However the two are mixed, reading gives back what was written
(`basicString_spelled`). An escape takes more characters than the one it stands for, and quotes of
three take more of them than quotes of one. So if text in double quotes is read as it stands, there
are no escapes in it and no quotes, and **all of it is plain** (`plain_of_quoted`).
-/

namespace MigrationClient.Toml

open Text Reader

variable {c d : Char} {s a r t : List Char}

/-! ## Plain characters -/

/-- The controls other than the tab. -/
def IsControl (c : Char) : Prop :=
  c.toNat ≤ 0x08 ∨ 0x0A ≤ c.toNat ∧ c.toNat ≤ 0x1F ∨ c.toNat = 0x7F

/-- A character that stands for itself between double quotes. -/
def IsPlain (c : Char) : Prop := c ≠ '"' ∧ c ≠ '\\' ∧ ¬ IsControl c

instance : DecidablePred IsControl := fun c =>
  inferInstanceAs (Decidable (c.toNat ≤ 0x08 ∨ 0x0A ≤ c.toNat ∧ c.toNat ≤ 0x1F ∨ c.toNat = 0x7F))

instance : DecidablePred IsPlain := fun c =>
  inferInstanceAs (Decidable (c ≠ '"' ∧ c ≠ '\\' ∧ ¬ IsControl c))

theorem isForbidden_iff : isForbidden c = true ↔ IsControl c := by
  have htab : c = '\t' ↔ c.toNat = 0x09 :=
    ⟨fun h => h ▸ rfl, fun h => Char.toNat_inj.1 h⟩
  simp only [isForbidden, IsControl, Bool.or_eq_true, Bool.and_eq_true, decide_eq_true_eq,
    bne_iff_ne, ne_eq, htab]
  omega

theorem basicString_quote (r : List Char) : basicString ('"' :: r) = .ok ([], r) := by
  rw [basicString, if_pos rfl]

theorem basicString_plain (h : IsPlain c) (r : List Char) :
    basicString (c :: r) = mapStep (c :: ·) (basicString r) := by
  obtain ⟨hquote, hescape, hcontrol⟩ := h
  rw [basicString, if_neg hquote, if_neg hescape, if_neg (mt isForbidden_iff.1 hcontrol)]

theorem basicString_escape (h : escape r = .ok (d, t)) :
    basicString ('\\' :: r) = mapStep (d :: ·) (basicString t) := by
  rw [basicString, if_neg (by decide), if_pos rfl]
  split
  · next h' =>
    rw [h] at h'
    cases h'
  · next h' =>
    rw [h] at h'
    cases h'
    rfl

/-! ## Characters by their numbers -/

/-- A hexadecimal digit, of either case. -/
def hexDigit (upper : Bool) (n : Nat) : Char := if upper then upperDigitChar n else digitChar n

/-- The last four hexadecimal digits of a number. -/
def fourDigits (upper : Bool) (n : Nat) : List Char :=
  [n / 4096 % 16, n / 256 % 16, n / 16 % 16, n % 16].map (hexDigit upper)

/-- A character by its number. -/
def byNumber (upper : Bool) (c : Char) : List Char := '\\' :: 'u' :: fourDigits upper c.toNat

theorem digitIn?_hexDigit (upper : Bool) (n : Nat) :
    digitIn? 16 (hexDigit upper (n % 16)) = some (n % 16) := by
  have hdigit : ∀ upper, ∀ m : Fin 16, digitIn? 16 (hexDigit upper m.1) = some m.1 := by decide
  exact hdigit upper ⟨n % 16, Nat.mod_lt n (by decide)⟩

theorem value?_fourDigits (upper : Bool) {n : Nat} (hn : n < 65536) :
    value? 16 (fourDigits upper n) = some n := by
  simp only [fourDigits, value?, List.map_cons, List.map_nil, List.isEmpty_cons,
    Bool.false_eq_true, if_false, valueFrom?, digitIn?_hexDigit, Option.bind_some]
  congr 1
  omega

theorem escape_byNumber (upper : Bool) (hc : c.toNat < 65536) (r : List Char) :
    escape ('u' :: (fourDigits upper c.toNat ++ r)) = .ok (c, r) := by
  have htake : (fourDigits upper c.toNat ++ r).take 4 = fourDigits upper c.toNat := rfl
  have hdrop : (fourDigits upper c.toNat ++ r).drop 4 = r := rfl
  have hvalid : c.toNat.isValidChar := c.valid
  change hexChar 4 (fourDigits upper c.toNat ++ r) = _
  simp only [hexChar, htake, hdrop, value?_fourDigits upper hc]
  rw [if_pos ⟨rfl, hvalid⟩, Char.ofNat_toNat]

/-! ## Strings as they are written -/

/-- A string with some of its characters by their numbers. -/
def spelled (upper : Bool) (numbered : Char → Bool) (s : List Char) : List Char :=
  s.flatMap fun c => if numbered c then byNumber upper c else [c]

theorem spelled_none (upper : Bool) (s : List Char) : spelled upper (fun _ => false) s = s := by
  simp [spelled]

/-- What can be written: a character by its number if that has four digits, and as it is if it is
plain. -/
def Spellable (numbered : Char → Bool) (s : List Char) : Prop :=
  ∀ c ∈ s, if numbered c then c.toNat < 65536 else IsPlain c

variable {numbered : Char → Bool}

/-- **Reading gives back what was written.** -/
theorem basicString_spelled (upper : Bool) (hs : Spellable numbered s) (r : List Char) :
    basicString (spelled upper numbered s ++ '"' :: r) = .ok (s, r) := by
  induction s with
  | nil => exact basicString_quote r
  | cons c s ih =>
    obtain ⟨hc, hs⟩ := List.forall_mem_cons.1 hs
    rw [spelled, List.flatMap_cons, List.append_assoc]
    change basicString (_ ++ (spelled upper numbered s ++ '"' :: r)) = _
    cases hn : numbered c with
    | true =>
      rw [hn, if_pos rfl] at hc
      have hescape := escape_byNumber upper hc (spelled upper numbered s ++ '"' :: r)
      exact (basicString_escape hescape).trans (congrArg (mapStep (c :: ·)) (ih hs))
    | false =>
      rw [hn, if_neg Bool.false_ne_true] at hc
      exact (basicString_plain hc _).trans (congrArg (mapStep (c :: ·)) (ih hs))

/-- Quotes of one are not taken for quotes of three. -/
theorem quoted_basic (h : ∀ t, s ≠ '"' :: '"' :: t) :
    quoted ('"' :: s) = mapStep String.ofList (basicString s) := by
  unfold quoted
  split
  · next t he => exact absurd (List.cons.inj he).2 (h t)
  · next he => rw [(List.cons.inj he).2]
  · next he => cases he
  · next he => cases he
  · next hne _ _ => exact (hne s rfl).elim

theorem quoted_spelled (upper : Bool) (hs : Spellable numbered s) (hd : d ≠ '"') (r : List Char) :
    quoted ('"' :: (spelled upper numbered s ++ '"' :: d :: r)) =
      .ok (String.ofList s, d :: r) := by
  rw [quoted_basic, basicString_spelled upper hs]
  · rfl
  · intro t h
    cases s with
    | nil => exact hd (List.cons.inj (List.cons.inj h).2).1
    | cons c s =>
      have hc := hs c List.mem_cons_self
      cases hn : numbered c with
      | true => simp [spelled, hn, byNumber] at h
      | false =>
        rw [hn, if_neg Bool.false_ne_true] at hc
        simp only [spelled, List.flatMap_cons, hn, Bool.false_eq_true, if_false, List.cons_append,
          List.cons.injEq] at h
        exact hc.1 h.1

/-! ## Strings that are read as they stand -/

/-- An escape takes something. -/
theorem escape_eq_ok (h : escape r = .ok (d, t)) : ∃ u, u ≠ [] ∧ r = u ++ t := by
  have hhex : ∀ {n s}, hexChar n s = .ok (d, t) → ∃ u, s = u ++ t := by
    intro n s h
    unfold hexChar at h
    split at h
    · split at h
      · cases h
        exact ⟨s.take n, (List.take_append_drop n s).symm⟩
      · cases h
    · cases h
  unfold escape at h
  split at h
  case h_9 | h_10 | h_11 =>
    obtain ⟨u, rfl⟩ := hhex h
    exact ⟨_ :: u, List.cons_ne_nil _ _, rfl⟩
  case h_12 => cases h
  all_goals
    cases h
    exact ⟨[_], List.cons_ne_nil _ _, rfl⟩

/-- A string is at most as long as what is written for it, and if it is just as long, then what is
written is the string itself, and all of it is plain. -/
theorem basicString_eq_ok (h : basicString s = .ok (a, r)) :
    ∃ b, s = b ++ '"' :: r ∧ a.length ≤ b.length ∧
      (b.length ≤ a.length → a = b ∧ ∀ c ∈ b, IsPlain c) := by
  fun_induction basicString s generalizing a r
  case case1 | case3 | case5 => cases h
  case case2 =>
    cases h
    exact ⟨[], rfl, Nat.le_refl _, fun _ => ⟨rfl, fun c hc => absurd hc List.not_mem_nil⟩⟩
  case case4 hescape _ ih =>
    obtain ⟨a, ha, rfl⟩ := mapStep_eq_ok h
    obtain ⟨b, rfl, hle, -⟩ := ih ha
    obtain ⟨u, hu, rfl⟩ := escape_eq_ok hescape
    have hu := List.length_pos_iff.2 hu
    refine ⟨'\\' :: (u ++ b), by simp, ?_, fun hge => ?_⟩
    · simp only [List.length_cons, List.length_append]
      omega
    · simp only [List.length_cons, List.length_append] at hge
      omega
  case case6 c r hquote hescape hcontrol ih =>
    obtain ⟨a, ha, rfl⟩ := mapStep_eq_ok h
    obtain ⟨b, rfl, hle, hsame⟩ := ih ha
    refine ⟨c :: b, rfl, Nat.succ_le_succ hle, fun hge => ?_⟩
    obtain ⟨rfl, hplain⟩ := hsame (Nat.le_of_succ_le_succ hge)
    have hc : IsPlain c := ⟨hquote, hescape, mt isForbidden_iff.2 hcontrol⟩
    exact ⟨rfl, List.forall_mem_cons.2 ⟨hc, hplain⟩⟩

/-- A string of several lines takes three quotes more than it is long. -/
theorem longString_length_le {q : Char} {e : Bool} (h : longString q e s = .ok (a, r)) :
    a.length + 3 + r.length ≤ s.length := by
  fun_induction longString q e s generalizing a r
  case case1 | case5 | case9 => cases h
  case case2 t n hn =>
    cases h
    have hrun : n ≤ (q :: t).length :=
      Nat.le_trans (Nat.min_le_right _ _) (List.takeWhile_sublist _).length_le
    simp only [List.length_replicate, List.length_drop]
    omega
  case case3 ih | case7 ih | case8 ih | case10 ih =>
    obtain ⟨b, hb, rfl⟩ := mapStep_eq_ok h
    have := ih hb
    simp only [List.length_cons]
    omega
  case case4 ht ih =>
    have h1 := ih h
    have h2 := continuation?_shorter ht
    simp only [List.length_cons]
    omega
  case case6 ht ih =>
    obtain ⟨b, hb, rfl⟩ := mapStep_eq_ok h
    have h1 := ih hb
    have h2 := escape_shorter ht
    simp only [List.length_cons]
    omega

/-- **Text in double quotes at the end of a line that is read as it stands is plain.** -/
theorem plain_of_quoted (h : quoted ('"' :: (s ++ ['"', '\n'])) = .ok (String.ofList s, r)) :
    ∀ c ∈ s, IsPlain c := by
  by_cases hthree : ∃ t, s ++ ['"', '\n'] = '"' :: '"' :: t
  · -- quotes of three would have to be closed by three more
    obtain ⟨t, ht⟩ := hthree
    rw [ht] at h
    obtain ⟨a, ha, hs⟩ := mapStep_eq_ok h
    have hlong := longString_length_le ha
    have hopening := afterOpening_length_le t
    have hlength := congrArg List.length ht
    rw [String.ofList_inj.1 hs] at hlong
    simp only [List.length_append, List.length_cons, List.length_nil] at hlength
    omega
  · rw [quoted_basic fun t ht => hthree ⟨t, ht⟩] at h
    obtain ⟨a, ha, hs⟩ := mapStep_eq_ok h
    obtain rfl := String.ofList_inj.1 hs
    obtain ⟨b, hb, hle, hsame⟩ := basicString_eq_ok ha
    have hlength := congrArg List.length hb
    simp only [List.length_append, List.length_cons, List.length_nil] at hlength
    cases r with
    | nil =>
      -- the string would be closed by the end of the line
      have hlast := congrArg List.getLast? hb
      simp at hlast
    | cons d r =>
      obtain ⟨rfl, hplain⟩ := hsame (by simp only [List.length_cons] at hlength; omega)
      exact hplain

end MigrationClient.Toml
