import MigrationClient.Url.Host

/-!
# What stays at the end of a host

A plain character that begins no escape and no cluster stays where it is at the end of a host, in
every form that the host goes through: decoded, mapped, normalized, and written in ASCII. So a host
that ends in a space or a control is refused (`special_concat_ne_ok`).
-/

namespace MigrationClient

open Text

/-! ## Spaces and controls -/

namespace Text

variable {c d : Char}

theorem ne_of_toNat (hc : c.toNat ≤ 0x20) (hd : 0x20 < d.toNat) : c ≠ d := by
  rintro rfl
  omega

theorem not_le_of_toNat (hc : c.toNat ≤ 0x20) (hd : 0x20 < d.toNat) : ¬ d ≤ c := fun h => by
  have : d.toNat ≤ c.toNat := h
  omega

theorem digitValue?_of_toNat (hc : c.toNat ≤ 0x20) : digitValue? c = none := by
  simp [digitValue?, not_le_of_toNat hc]

end Text

/-! ## Texts of bytes -/

namespace Url.Percent

theorem decode_concat {c : Char} (hd : digitValue? c = none) (hc : c ≠ '%') (s : List Char) :
    decode (s ++ [c]) = decode s ++ Utf8.encodeChar c := by
  fun_induction decode s
  case case1 => simp [decode_cons_of_ne hc, decode]
  case case2 a b r x y hx hy ih => simp [decode, hx, hy, ih]
  case case3 a b r hno ih =>
    have hraw : decode ('%' :: a :: b :: (r ++ [c])) =
        Utf8.encodeChar '%' ++ decode (a :: b :: (r ++ [c])) := by
      rw [decode]
      split
      · next x y hx hy => exact absurd hy (hno x y hx)
      · rfl
    simpa [hraw] using ih
  case case4 d r hno ih =>
    have hraw : decode (d :: (r ++ [c])) = Utf8.encodeChar d ++ decode (r ++ [c]) := by
      by_cases hp : d = '%'
      · -- Too little follows the sign for an escape, and what is put behind is no digit.
        subst hp
        rcases r with _ | ⟨a, _ | ⟨b, r⟩⟩
        · rfl
        · simp [decode, hd]
        · exact absurd rfl (hno a b r rfl)
      · exact decode_cons_of_ne hp _
    simp [hraw, ih]

end Url.Percent

namespace Text

namespace Utf8

/-- A byte that is not the one put behind has the rest before that. -/
theorem eq_append_of_concat {b x : UInt8} {r t : List UInt8} (h : r ++ [b] = x :: t) (hx : x ≠ b) :
    ∃ r', t = r' ++ [b] ∧ r'.length ≤ r.length := by
  cases r with
  | nil => exact absurd (List.cons.inj h).1.symm hx
  | cons y r =>
    obtain ⟨rfl, rfl⟩ := List.cons.inj h
    exact ⟨r, rfl, by simp⟩

/-- No longer sequence takes in the plain byte that is put behind. -/
theorem next_concat {b : UInt8} (hb : b < 0x80) (a : UInt8) (r : List UInt8) {c : Char}
    (h : (next a (r ++ [b])).1 = some c) :
    ∃ r', (next a (r ++ [b])).2 = r' ++ [b] ∧ r'.length ≤ r.length := by
  have hcont : ∀ x, isContinuation x = true → x ≠ b := by
    rintro x hx rfl
    simp only [isContinuation, Bool.and_eq_true, decide_eq_true_eq] at hx
    exact UInt8.not_le.2 hb hx.1
  have hsecond : ∀ x, isSecond a x = true → x ≠ b := fun x hx =>
    hcont x (by simp only [isSecond, Bool.and_eq_true] at hx; exact hx.1.1.1.1)
  revert h
  generalize hs : r ++ [b] = s
  fun_cases next a s
  case case1 => exact fun _ => ⟨r, hs.symm, Nat.le_refl _⟩
  case case2 hx =>
    obtain ⟨r₁, rfl, h₁⟩ := eq_append_of_concat hs (hcont _ hx)
    exact fun _ => ⟨r₁, rfl, h₁⟩
  case case5 hx _ _ hy =>
    obtain ⟨r₁, hr, h₁⟩ := eq_append_of_concat hs (hsecond _ hx)
    obtain ⟨r₂, rfl, h₂⟩ := eq_append_of_concat hr.symm (hcont _ hy)
    exact fun _ => ⟨r₂, rfl, Nat.le_trans h₂ h₁⟩
  case case10 hx _ hy _ _ hz =>
    obtain ⟨r₁, hr, h₁⟩ := eq_append_of_concat hs (hsecond _ hx)
    obtain ⟨r₂, hr, h₂⟩ := eq_append_of_concat hr.symm (hcont _ hy)
    obtain ⟨r₃, rfl, h₃⟩ := eq_append_of_concat hr.symm (hcont _ hz)
    exact fun _ => ⟨r₃, rfl, Nat.le_trans h₃ (Nat.le_trans h₂ h₁)⟩
  all_goals exact fun h => nomatch h

/-- A plain byte at the end is a character for itself. -/
theorem decode_concat {b : UInt8} (hb : b < 0x80) {bs : List UInt8} {s : List Char}
    (h : decode (bs ++ [b]) = some s) : ∃ r, s = r ++ [Char.ofNat b.toNat] := by
  match bs with
  | [] =>
    have hb : (next b []) = (some (Char.ofNat b.toNat), []) := by simp [next, hb]
    rw [List.nil_append, decode, hb] at h
    exact ⟨[], by simpa [decode] using h.symm⟩
  | a :: r =>
    rw [List.cons_append, decode] at h
    split at h
    · next c hc =>
      obtain ⟨r', hr, hlen⟩ := next_concat hb a r hc
      rw [hr] at h
      obtain ⟨t, ht, rfl⟩ := Option.map_eq_some_iff.1 h
      obtain ⟨q, rfl⟩ := decode_concat hb ht
      exact ⟨c :: q, rfl⟩
    · cases h
  termination_by bs.length
  decreasing_by simp; omega

end Utf8

namespace Normalization

variable {c : Char}

theorem insertMark_concat (hc : combiningClass c = 0) (d : Char) (s : List Char) :
    insertMark d (s ++ [c]) = insertMark d s ++ [c] := by
  induction s with
  | nil => simp [insertMark, hc]
  | cons e r ih =>
    simp only [List.cons_append, insertMark, ih]
    split <;> rfl

theorem order_concat (hc : combiningClass c = 0) (s : List Char) :
    order (s ++ [c]) = order s ++ [c] := by
  unfold order
  induction s with
  | nil => simp [hc]
  | cons d r ih =>
    rw [List.cons_append, List.foldr_cons, ih, List.foldr_cons]
    split
    · rfl
    · exact insertMark_concat hc ..

theorem composeFrom_concat (hc : c.toNat < 0x300) (k : Cluster) (s : List Char) :
    composeFrom k (s ++ [c]) = composeFrom k s ++ [c] := by
  induction s generalizing k with
  | nil =>
    have hclass : combiningClass c = 0 := by simp [combiningClass, hc]
    have hno : ∀ a, compose? a c = none := fun a => by simp [compose?, hc]
    simp [composeFrom, Cluster.step, hclass, hno]
  | cons d r ih => simp [composeFrom, ih]

theorem compose_concat (hc : c.toNat < 0x300) (s : List Char) :
    compose (s ++ [c]) = compose s ++ [c] := by
  have hclass : combiningClass c = 0 := by simp [combiningClass, hc]
  have htake : (s ++ [c]).takeWhile (combiningClass · ≠ 0) = s.takeWhile (combiningClass · ≠ 0) :=
    takeWhile_append_cons_of_neg (by simp [hclass]) s []
  have hle : (s.takeWhile (combiningClass · ≠ 0)).length ≤ s.length :=
    (List.takeWhile_prefix _).length_le
  unfold compose
  simp only [htake, List.drop_append_of_le_length hle]
  cases s.drop (s.takeWhile (combiningClass · ≠ 0)).length with
  | nil => rfl
  | cons d r => simp [composeFrom_concat hc]

theorem normalize_concat (hc : c.toNat < 0xC0) (s : List Char) :
    normalize (s ++ [c]) = normalize s ++ [c] := by
  have hclass : combiningClass c = 0 := by simp [combiningClass]; omega
  rw [normalize, List.flatMap_append]
  simp only [List.flatMap_cons, List.flatMap_nil, List.append_nil, decomposeChar, if_pos hc]
  rw [order_concat hclass, compose_concat (by omega)]
  rfl

end Normalization

end Text

/-! ## Domain names -/

namespace Domain

theorem map?_concat {c : Char} (hc : isValid c = true) (s : List Char) :
    map? (s ++ [c]) = (map? s).map (· ++ [c]) := by
  have hm : mapChar? c = some [c] := by simp [mapChar?, hc]
  unfold map?
  rw [List.mapM_append]
  cases s.mapM mapChar? <;> simp [hm]

/-- Plain characters stay in a label as it is looked up. -/
theorem Label.mem_ascii {s : List Char} {l : Label} {c : Char} (h : Label.ofText? s = some l)
    (hs : c ∈ s) (hc : c.toNat < 0x80) : c ∈ l.ascii := by
  unfold ofText? at h
  split at h
  · split at h
    · split at h
      · split at h
        · cases h
          exact hs
        · cases h
      · cases h
    · cases h
  · split at h
    · cases h
      exact hs
    · split at h
      · cases h
        simp [Punycode.encode, hs, hc]
      · cases h

theorem mem_of_toAscii?_concat {s name : List Char} {c : Char} (hc : c.toNat < 0x80)
    (hvalid : isValid c = true) (hdot : c ≠ '.') (h : toAscii? (s ++ [c]) = some name) :
    c ∈ name := by
  simp only [toAscii?, map?_concat hvalid, Option.bind_eq_bind, Option.bind_map,
    Option.bind_eq_some_iff, Function.comp_apply] at h
  obtain ⟨m, -, labels, hlabels, h⟩ := h
  obtain ⟨front, last, hparts⟩ := splitBy_concat (p := (· == '.')) (by simpa using hdot)
    (Normalization.normalize m)
  rw [Normalization.normalize_concat (by omega), splitOn, hparts, List.mapM_append] at hlabels
  simp only [List.mapM_cons, List.mapM_nil, Option.bind_eq_bind, Option.bind_eq_some_iff,
    Option.pure_def, Option.some.injEq] at hlabels
  obtain ⟨ls, -, ls', ⟨l, hl, rest, rfl, rfl⟩, rfl⟩ := hlabels
  have hc : c ∈ l.ascii := Label.mem_ascii hl (by simp) hc
  split at h
  · cases h
  · cases h
    exact mem_join (by simp) hc

end Domain

namespace Url.Host

/-- **A host does not end in a space or a control.** -/
theorem special_concat_ne_ok {c : Char} (hc : c.toNat ≤ 0x20) (s : List Char) (host : Host) :
    special (s ++ [c]) ≠ .ok host := by
  have hvalid : Domain.isValid c = true := by
    simp [Domain.isValid, not_le_of_toNat hc, show c.toNat < 0x80 by omega]
  have hbyte : Utf8.encodeChar c = [c.toNat.toUInt8] := by
    simp [Utf8.encodeChar, show c.toNat < 0x80 by omega]
  have hforbidden : isForbiddenInDomain c = true := by
    rcases Nat.lt_or_eq_of_le hc with h | h
    · simp [isForbiddenInDomain, h]
    · obtain rfl : c = ' ' := Char.toNat_inj.1 h
      rfl
  intro h
  unfold special at h
  split at h
  · unfold bracketed at h
    rw [List.getLast?_concat, if_neg (by simp [ne_of_toNat hc])] at h
    cases h
  · split at h
    · cases h
    · next name hname =>
      obtain ⟨text, htext, hname⟩ := Option.bind_eq_some_iff.1 hname
      rw [Percent.decode_concat (digitValue?_of_toNat hc) (ne_of_toNat hc (by decide)), hbyte]
        at htext
      have hback : c.toNat.toUInt8.toNat = c.toNat := by
        rw [Nat.toUInt8_eq, UInt8.toNat_ofNat_of_lt' (by simp only [UInt8.size]; omega)]
      have hplain : c.toNat.toUInt8 < 0x80 := by
        rw [UInt8.lt_iff_toNat_lt, hback]
        exact Nat.lt_of_le_of_lt hc (by decide)
      obtain ⟨r, rfl⟩ := Utf8.decode_concat hplain htext
      rw [hback, Char.ofNat_toNat] at hname
      have hmem := Domain.mem_of_toAscii?_concat (by omega) hvalid
        (ne_of_toNat hc (by decide)) hname
      rw [if_pos (List.any_eq_true.2 ⟨c, hmem, hforbidden⟩)] at h
      cases h

end Url.Host

end MigrationClient
