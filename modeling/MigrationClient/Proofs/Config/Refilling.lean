import MigrationClient.Proofs.Config.Placeholder

/-!
# Filling in twice

What is put in is not looked through again, but a file may be filled in, written down and read
once more. If no value reads as a part of a placeholder (`IsInert`), nothing is left to do then:
**filling in a second time changes nothing** (`substitute_twice`).

The second scan sees another text, so the argument is about its pieces. They are those of the first
scan, with the characters of a value in the place of each placeholder that had one (`pieces_fill`).
For this no placeholder may begin in the new text where none began before
(`begins_of_begins_fill`). No value puts an opening brace behind a dollar sign; and where a closing
brace comes after filling in, there was one before, if only that of a placeholder.
-/

namespace MigrationClient.Placeholder

/-- A value that reads as plain text, whatever it is put behind. -/
structure IsInert (v : String) : Prop where
  ne_empty : v ≠ ""
  dollar : '$' ∉ v.toList
  brace : v.toList.head? ≠ some '\x7b'

/-- What has become of a piece in the text that was filled in. -/
def Piece.refilled (lookup : String → Option String) : Piece → List Piece
  | char c => [.char c]
  | placeholder name =>
    match lookup (String.ofList name) with
    | some v => v.toList.map .char
    | none => [.placeholder name]

variable {lookup : String → Option String} {s t name : List Char} {c : Char}

theorem Piece.refilled_of_some {v : String} (h : lookup (String.ofList name) = some v) :
    (placeholder name).refilled lookup = v.toList.map .char := by rw [refilled, h]

theorem Piece.refilled_of_none (h : lookup (String.ofList name) = none) :
    (placeholder name).refilled lookup = [.placeholder name] := by rw [refilled, h]

/-- A piece that was filled in has nothing left to fill in. -/
theorem flatMap_fill_refilled (lookup : String → Option String) (p : Piece) :
    (p.refilled lookup).flatMap (Piece.fill lookup) = p.fill lookup := by
  cases p with
  | char c => rfl
  | placeholder name =>
    cases hname : lookup (String.ofList name) with
    | some v => rw [Piece.refilled_of_some hname, flatMap_fill_char, Piece.fill, hname]
    | none => rw [Piece.refilled_of_none hname, List.flatMap_singleton]

/-- A placeholder that is left is one that has no value. -/
theorem of_mem_refilled {p : Piece} (h : .placeholder name ∈ p.refilled lookup) :
    p = .placeholder name ∧ lookup (String.ofList name) = none := by
  cases p with
  | char c => simp [Piece.refilled] at h
  | placeholder other =>
    cases hother : lookup (String.ofList other) with
    | some v => simp [Piece.refilled_of_some hother] at h
    | none =>
      obtain rfl : name = other := by simpa [Piece.refilled_of_none hother] using h
      exact ⟨rfl, hother⟩

/-! ## Where placeholders begin -/

/-- Text without a closing brace stays as it is. -/
theorem fill_of_open (h : '\x7d' ∉ s) : fill lookup s = s := by
  induction s with
  | nil => exact fill_nil lookup
  | cons c s ih =>
    have hs : '\x7d' ∉ s := fun hmem => h (List.mem_cons_of_mem c hmem)
    have hnot : ¬ Begins (c :: s) := by
      rintro hb
      obtain ⟨-, r, rfl, -, hr⟩ := begins_cons_iff.1 hb
      exact hs (List.mem_cons_of_mem _ hr)
    rw [fill_cons_of_not_begins lookup hnot, ih hs]

section

variable (hv : ∀ name v, lookup name = some v → IsInert v)
include hv

/-- Where a placeholder was, no opening brace stands first. -/
theorem head?_fill_placeholder_append (name t : List Char) :
    ((Piece.placeholder name).fill lookup ++ t).head? ≠ some '\x7b' := by
  cases hname : lookup (String.ofList name) with
  | some v =>
    have hne : v.toList ≠ [] := by simpa using (hv _ v hname).ne_empty
    obtain ⟨c, r, hcons⟩ := List.exists_cons_of_ne_nil hne
    have hbrace := (hv _ v hname).brace
    simpa [Piece.fill, hname, hcons] using hbrace
  | none => simp [Piece.fill, hname, written]

/-- An opening brace that comes first after filling in came first before. -/
theorem exists_of_fill_eq_brace_cons (h : fill lookup s = '\x7b' :: t) :
    ∃ r, s = '\x7b' :: r ∧ t = fill lookup r := by
  cases s with
  | nil => simp at h
  | cons c s =>
    by_cases hb : Begins (c :: s)
    · obtain ⟨name, hname, r, hs⟩ := hb
      rw [← hs, fill, pieces_written_append hname, List.flatMap_cons] at h
      exact absurd (by rw [h]; rfl) (head?_fill_placeholder_append hv name _)
    · rw [fill_cons_of_not_begins lookup hb] at h
      obtain ⟨rfl, rfl⟩ := List.cons.inj h
      exact ⟨s, rfl, rfl⟩

/-- **No placeholder arises** from what is put in behind a character. -/
theorem begins_of_begins_fill (h : Begins (c :: fill lookup s)) : Begins (c :: s) := by
  obtain ⟨rfl, t, ht, hhead, hclosed⟩ := begins_cons_iff.1 h
  obtain ⟨r, rfl, rfl⟩ := exists_of_fill_eq_brace_cons hv ht
  refine begins_cons_iff.2 ⟨rfl, r, rfl, fun hr => ?_, ?_⟩
  · obtain ⟨r, rfl⟩ : ∃ r', r = '\x7d' :: r' := List.head?_eq_some_iff.1 hr
    rw [fill_cons_of_not_begins lookup (not_begins_of_ne (by decide) r)] at hhead
    exact hhead rfl
  · -- The closing brace may come from a value, but then its placeholder had one as well.
    by_cases hr : '\x7d' ∈ r
    · exact hr
    · rwa [fill_of_open hr] at hclosed

/-! ## The pieces of a text that was filled in -/

/-- **The second scan finds what the first one left**, at the same places, and no placeholder
besides. -/
theorem pieces_fill (s : List Char) :
    pieces (fill lookup s) = (pieces s).flatMap (Piece.refilled lookup) := by
  fun_induction pieces s with
  | case1 => simp
  | case2 c r name t h ih =>
    obtain ⟨hname, hs⟩ := leading?_eq_some_iff.1 h
    rw [hs, fill, pieces_written_append hname, List.flatMap_cons, List.flatMap_cons, ← ih, ← fill]
    cases hvalue : lookup (String.ofList name) with
    | some v =>
      rw [Piece.refilled_of_some hvalue, Piece.fill, hvalue]
      exact pieces_append_of_plain (hv _ v hvalue).dollar _
    | none =>
      rw [Piece.refilled_of_none hvalue, Piece.fill, hvalue]
      exact pieces_written_append hname _
  | case3 c r h ih =>
    have hnot := leading?_eq_none_iff.1 h
    rw [fill_cons_of_not_begins lookup hnot,
      pieces_cons_of_not_begins (mt (begins_of_begins_fill hv) hnot), ih]
    rfl

/-- **Filling in a second time changes nothing.** -/
theorem fill_fill (s : List Char) : fill lookup (fill lookup s) = fill lookup s := by
  calc fill lookup (fill lookup s)
      = ((pieces s).flatMap (Piece.refilled lookup)).flatMap (Piece.fill lookup) := by
        rw [fill, pieces_fill hv]
    _ = (pieces s).flatMap fun p => (p.refilled lookup).flatMap (Piece.fill lookup) :=
        List.flatMap_assoc
    _ = fill lookup s := by
        simp only [flatMap_fill_refilled]
        rfl

end

/-- A placeholder is left at a place exactly if there was one that has no value. -/
theorem flatMap_refilled_eq_iff {ps front back : List Piece} :
    ps.flatMap (Piece.refilled lookup) = front ++ .placeholder name :: back ↔
      lookup (String.ofList name) = none ∧ ∃ front' back',
        ps = front' ++ .placeholder name :: back' ∧
          front'.flatMap (Piece.refilled lookup) = front ∧
          back'.flatMap (Piece.refilled lookup) = back := by
  constructor
  · intro h
    induction ps generalizing front with
    | nil => simp at h
    | cons p ps ih =>
      rw [List.flatMap_cons, List.append_eq_append_iff] at h
      -- The placeholder stands behind what is left of `p`, or within it: then it is all of that.
      rcases h with ⟨rest, rfl, h⟩ | ⟨rest, hp, h⟩
      · obtain ⟨hnone, front', back', rfl, rfl, rfl⟩ := ih h
        exact ⟨hnone, p :: front', back', rfl, rfl, rfl⟩
      cases rest with
      | nil =>
        obtain ⟨hnone, front', back', rfl, hfront, rfl⟩ := @ih [] h.symm
        rw [List.append_nil] at hp
        exact ⟨hnone, p :: front', back', rfl,
          by rw [List.flatMap_cons, hfront, hp, List.append_nil], rfl⟩
      | cons q rest =>
        obtain ⟨rfl, rfl⟩ := List.cons.inj h
        obtain ⟨rfl, hnone⟩ : p = .placeholder name ∧ lookup (String.ofList name) = none :=
          of_mem_refilled (by rw [hp]; exact List.mem_append_cons_self)
        rw [Piece.refilled_of_none hnone] at hp
        obtain ⟨rfl, hrest⟩ | ⟨-, hrest⟩ := List.append_eq_singleton_iff.1 hp.symm
        · obtain rfl : rest = [] := (List.cons.inj hrest).2
          exact ⟨hnone, [], ps, rfl, rfl, rfl⟩
        · cases hrest
  · rintro ⟨hnone, front', back', rfl, rfl, rfl⟩
    rw [List.flatMap_append, List.flatMap_cons, Piece.refilled_of_none hnone, List.singleton_append]

/-- **Filling in a text a second time changes nothing**, as long as every value reads as plain text.
The second scan finds what the first one left, at the same places: the placeholders whose names
have no value, and no others. So a file that was filled in is read as it was before. -/
theorem substitute_twice {lookup : String → Option String}
    (hv : ∀ name v, lookup name = some v → IsInert v) (text : String) :
    substitute lookup (substitute lookup text) = substitute lookup text ∧
      pieces (substitute lookup text).toList =
        (pieces text.toList).flatMap (Piece.refilled lookup) ∧
      (∀ front name back,
        pieces (substitute lookup text).toList = front ++ .placeholder name :: back ↔
          lookup (String.ofList name) = none ∧ ∃ front' back',
            pieces text.toList = front' ++ .placeholder name :: back' ∧
              front'.flatMap (Piece.refilled lookup) = front ∧
              back'.flatMap (Piece.refilled lookup) = back) ∧
      ∀ env : Environment, env.text? = lookup →
        SettingsFile.ofText env (substitute lookup text) = SettingsFile.ofText env text := by
  have htext : (substitute lookup text).toList = fill lookup text.toList := String.toList_ofList
  have hpieces := pieces_fill hv text.toList
  refine ⟨?_, ?_, fun front name back => ?_, fun env henv => ?_⟩
  · rw [substitute, htext, fill_fill hv, ← substitute]
  · rw [htext, hpieces]
  · rw [htext, hpieces]
    exact flatMap_refilled_eq_iff
  · subst henv
    simp only [SettingsFile.ofText, htext, fill_fill hv]

/-- A value behind a dollar sign, and beside text that looks like the start of a placeholder. -/
theorem filled_once :
    let lookup name := if name = "A" then some "a\x7d" else none
    let text := "$$\x7bA\x7d$\x7b\x7d$\x7bB$\x7bC\x7d"
    (∀ name v, lookup name = some v → IsInert v) ∧
      substitute lookup text = "$a\x7d$\x7b\x7d$\x7bB$\x7bC\x7d" ∧
      substitute lookup (substitute lookup text) = substitute lookup text := by
  intro lookup text
  have hv : ∀ name v, lookup name = some v → IsInert v := by
    intro name v h
    simp only [lookup] at h
    split at h
    · cases h
      exact ⟨by decide, by decide, by decide⟩
    · cases h
  exact ⟨hv, by decide +kernel, (substitute_twice hv text).1⟩

/-- A value that is empty lets a placeholder arise. -/
example :
    let lookup name := if name = "A" then some "" else if name = "B" then some "b" else none
    substitute lookup "$$\x7bA\x7d\x7bB\x7d" = "$\x7bB\x7d" ∧
      substitute lookup "$\x7bB\x7d" = "b" := by
  decide +kernel

end MigrationClient.Placeholder
