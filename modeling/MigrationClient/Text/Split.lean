/-!
# Splitting

Cutting a text at every occurrence of a separator, or at the first or the last one, and putting
parts together with a separator between them.
-/

namespace MigrationClient.Text

/-- The parts between the items that satisfy `p`; one part more than such items. -/
def splitBy (p : α → Bool) (s : List α) : List (List α) :=
  s.foldr (fun c parts =>
    if p c then [] :: parts
    else match parts with
      | [] => [[c]]
      | part :: rest => (c :: part) :: rest) [[]]

/-- The parts between the occurrences of `sep`. -/
def splitOn (sep : Char) (s : List Char) : List (List Char) := splitBy (· == sep) s

/-- The parts with `sep` between each two. -/
def join (sep : List α) : List (List α) → List α
  | [] => []
  | [part] => part
  | part :: rest => part ++ sep ++ join sep rest

/-- The text after `start`, if it begins so. -/
def after? : (start text : List Char) → Option (List Char)
  | [], text => some text
  | _ :: _, [] => none
  | c :: start, d :: text => if c = d then after? start text else none

/-- The parts before and after the first character that satisfies `p`, which is in neither. -/
def cut? (p : Char → Bool) : List Char → Option (List Char × List Char)
  | [] => none
  | c :: r => if p c then some ([], r) else (cut? p r).map fun (a, b) => (c :: a, b)

/-- The parts before and after the last character that satisfies `p`, which is in neither. -/
def cutLast? (p : Char → Bool) : List Char → Option (List Char × List Char)
  | [] => none
  | c :: r =>
    match cutLast? p r with
    | some (a, b) => some (c :: a, b)
    | none => if p c then some ([], r) else none

theorem splitBy_ne_nil (p : α → Bool) (s : List α) : splitBy p s ≠ [] := by
  cases s with
  | nil => simp [splitBy]
  | cons c r =>
    simp only [splitBy, List.foldr_cons]
    split
    · simp
    · split <;> simp

theorem splitBy_cons_of_pos {p : α → Bool} {c : α} (h : p c = true) (r : List α) :
    splitBy p (c :: r) = [] :: splitBy p r := by simp [splitBy, h]

theorem splitBy_cons_of_neg {p : α → Bool} {c : α} (h : p c = false) (r : List α) :
    ∃ part rest, splitBy p r = part :: rest ∧ splitBy p (c :: r) = (c :: part) :: rest := by
  obtain ⟨part, rest, hr⟩ := List.exists_cons_of_ne_nil (splitBy_ne_nil p r)
  refine ⟨part, rest, hr, ?_⟩
  simp only [splitBy, List.foldr_cons, h] at hr ⊢
  simp [hr]

/-- An item that satisfies `p` separates what is before it from what is after it. -/
theorem splitBy_append_cons {p : α → Bool} {c : α} (h : p c = true) (s t : List α) :
    splitBy p (s ++ c :: t) = splitBy p s ++ splitBy p t := by
  induction s with
  | nil => exact splitBy_cons_of_pos h t
  | cons d r ih =>
    cases hd : p d with
    | true => simp [splitBy_cons_of_pos hd, ih]
    | false =>
      obtain ⟨part, rest, hr, hc⟩ := splitBy_cons_of_neg hd r
      obtain ⟨part', rest', hr', hc'⟩ := splitBy_cons_of_neg hd (r ++ c :: t)
      rw [ih, hr, List.cons_append, List.cons.injEq] at hr'
      rw [List.cons_append, hc', hc, ← hr'.1, ← hr'.2, List.cons_append]

theorem splitBy_of_neg {p : α → Bool} {s : List α} (h : ∀ c ∈ s, p c = false) :
    splitBy p s = [s] := by
  induction s with
  | nil => rfl
  | cons d r ih =>
    obtain ⟨part, rest, hr, hc⟩ := splitBy_cons_of_neg (h d List.mem_cons_self) r
    rw [ih fun c hc => h c (List.mem_cons_of_mem d hc), List.cons.injEq] at hr
    rw [hc, ← hr.1, ← hr.2]

theorem splitBy_concat {p : α → Bool} {c : α} (h : p c = false) (s : List α) :
    ∃ front last, splitBy p (s ++ [c]) = front ++ [last ++ [c]] := by
  induction s with
  | nil => exact ⟨[], [], by simp [splitBy_of_neg, h]⟩
  | cons d r ih =>
    obtain ⟨front, last, hr⟩ := ih
    cases hd : p d with
    | true => exact ⟨[] :: front, last, by simp [splitBy_cons_of_pos hd, hr]⟩
    | false =>
      obtain ⟨part, rest, hp, hc⟩ := splitBy_cons_of_neg hd (r ++ [c])
      rw [hr] at hp
      rw [List.cons_append, hc]
      cases front with
      | nil =>
        obtain ⟨rfl, rfl⟩ := List.cons.inj hp
        exact ⟨[], d :: last, rfl⟩
      | cons p ps =>
        obtain ⟨rfl, rfl⟩ := List.cons.inj hp
        exact ⟨(d :: p) :: ps, last, rfl⟩

theorem mem_join {sep part : List α} {parts : List (List α)} {c : α} (hp : part ∈ parts)
    (hc : c ∈ part) : c ∈ join sep parts := by
  fun_induction join sep parts
  case case1 => cases hp
  case case2 => simp_all
  case case3 part' rest _ ih =>
    rcases List.mem_cons.1 hp with rfl | hp
    · simp [hc]
    · simp [ih hp]

/-! ## Cutting once -/

theorem takeWhile_append_cons_of_neg {p : α → Bool} {c : α} (h : p c = false) (s t : List α) :
    (s ++ c :: t).takeWhile p = s.takeWhile p := by
  induction s with
  | nil => simp [h]
  | cons d r ih => cases hd : p d <;> simp [hd, ih]

theorem dropWhile_append_cons_of_neg {p : α → Bool} {c : α} (h : p c = false) (s t : List α) :
    (s ++ c :: t).dropWhile p = s.dropWhile p ++ c :: t := by
  induction s with
  | nil => simp [h]
  | cons d r ih => cases hd : p d <;> simp [hd, ih]

theorem takeWhile_append_cons {p : α → Bool} {s : List α} {c : α} (hs : ∀ a ∈ s, p a = true)
    (hc : p c = false) (t : List α) : (s ++ c :: t).takeWhile p = s := by
  rw [List.takeWhile_append_of_pos hs, List.takeWhile_cons_of_neg (by simp [hc]), List.append_nil]

theorem dropWhile_append_cons {p : α → Bool} {s : List α} {c : α} (hs : ∀ a ∈ s, p a = true)
    (hc : p c = false) (t : List α) : (s ++ c :: t).dropWhile p = c :: t := by
  rw [List.dropWhile_append_of_pos hs, List.dropWhile_cons_of_neg (by simp [hc])]

theorem takeWhile_append_of_ne_nil {p : α → Bool} {s : List α} (h : s.dropWhile p ≠ [])
    (t : List α) : (s ++ t).takeWhile p = s.takeWhile p := by
  induction s with
  | nil => exact absurd rfl h
  | cons c r ih =>
    cases hc : p c with
    | true =>
      rw [List.dropWhile_cons_of_pos hc] at h
      rw [List.cons_append, List.takeWhile_cons_of_pos hc, List.takeWhile_cons_of_pos hc, ih h]
    | false => simp [hc]

theorem dropWhile_append_of_ne_nil {p : α → Bool} {s : List α} (h : s.dropWhile p ≠ [])
    (t : List α) : (s ++ t).dropWhile p = s.dropWhile p ++ t := by
  rw [List.dropWhile_append, if_neg (by simpa using h)]

/-- The part before the cut, or the whole text where nothing is cut. -/
theorem getD_fst_cut? (p : Char → Bool) (s : List Char) :
    ((cut? p s).map (·.1)).getD s = s.takeWhile (!p ·) := by
  induction s with
  | nil => rfl
  | cons c r ih =>
    cases hc : p c with
    | true => simp [cut?, hc]
    | false =>
      rw [List.takeWhile_cons_of_pos (by simp [hc]), ← ih, cut?, hc]
      cases cut? p r <;> rfl

theorem cut?_eq_none_iff {p : Char → Bool} {s : List Char} :
    cut? p s = none ↔ ∀ c ∈ s, p c = false := by
  induction s with
  | nil => simp [cut?]
  | cons c r ih => cases hc : p c <;> simp [cut?, hc, ih]

theorem cut?_append_of_neg {p : Char → Bool} {d : List Char} (h : ∀ c ∈ d, p c = false)
    (t : List Char) : cut? p (d ++ t) = (cut? p t).map fun (a, b) => (d ++ a, b) := by
  induction d with
  | nil => simp
  | cons c r ih =>
    rw [List.cons_append, cut?, h c List.mem_cons_self,
      ih fun x hx => h x (List.mem_cons_of_mem c hx)]
    cases cut? p t <;> rfl

end MigrationClient.Text
