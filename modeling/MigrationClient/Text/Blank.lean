/-!
# Blank characters

The characters with the Unicode property `White_Space`, and what is left of a text when the
blanks at its two ends are cut off. A text is blank exactly when the cut leaves nothing
(`trim_eq_nil_iff`).
-/

namespace MigrationClient.Text

/-- A character with the property `White_Space`: 25 of them in all. -/
def isBlank (c : Char) : Bool :=
  (9 ≤ c.toNat && c.toNat ≤ 13) || c.toNat = 0x20 || c.toNat = 0x85 || c.toNat = 0xA0 ||
    c.toNat = 0x1680 || (0x2000 ≤ c.toNat && c.toNat ≤ 0x200A) || c.toNat = 0x2028 ||
    c.toNat = 0x2029 || c.toNat = 0x202F || c.toNat = 0x205F || c.toNat = 0x3000

/-- The text without the characters of class `p` at its two ends. -/
def trimBy (p : Char → Bool) (s : List Char) : List Char :=
  ((s.dropWhile p).reverse.dropWhile p).reverse

/-- The text without the blanks at its two ends. -/
def trim (s : List Char) : List Char := trimBy isBlank s

theorem dropWhile_eq_nil_iff {p : Char → Bool} {s : List Char} :
    s.dropWhile p = [] ↔ ∀ c ∈ s, p c = true := by
  induction s with
  | nil => simp
  | cons c r ih => by_cases h : p c = true <;> simp [h, ih]

theorem mem_dropWhile_iff {p : α → Bool} {s : List α} {c : α} (h : p c = false) :
    c ∈ s.dropWhile p ↔ c ∈ s := by
  refine ⟨fun hc => (List.dropWhile_suffix p).subset hc, fun hc => ?_⟩
  rw [← List.takeWhile_append_dropWhile (p := p) (l := s), List.mem_append] at hc
  refine hc.resolve_left fun hm => ?_
  rw [List.all_eq_true.1 List.all_takeWhile c hm] at h
  cases h

theorem mem_trimBy_iff {p : Char → Bool} {s : List Char} {c : Char} (h : p c = false) :
    c ∈ trimBy p s ↔ c ∈ s := by
  simp [trimBy, mem_dropWhile_iff h]

theorem trimBy_eq_nil_iff {p : Char → Bool} {s : List Char} :
    trimBy p s = [] ↔ ∀ c ∈ s, p c = true := by
  rw [trimBy, List.reverse_eq_nil_iff, dropWhile_eq_nil_iff]
  constructor
  · intro h
    by_cases hs : s.dropWhile p = []
    · exact dropWhile_eq_nil_iff.1 hs
    · obtain ⟨c, r, hc⟩ := List.exists_cons_of_ne_nil hs
      have h1 : p c = true := h c (by simp [hc])
      have h2 := List.head?_dropWhile_not p s
      simp [hc] at h2
      simp [h1] at h2
  · intro h c hc
    exact h c ((List.dropWhile_suffix p).subset (List.mem_reverse.1 hc))

/-- **A text is blank exactly when trimming leaves nothing.** -/
theorem trim_eq_nil_iff {s : List Char} : trim s = [] ↔ ∀ c ∈ s, isBlank c = true :=
  trimBy_eq_nil_iff

end MigrationClient.Text
