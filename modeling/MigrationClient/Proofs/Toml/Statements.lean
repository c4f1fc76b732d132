import MigrationClient.Proofs.Toml.Lines
import MigrationClient.Proofs.Toml.Quoting

/-!
# Lines as they are written

What a line comes to that holds a header of one bare key, or a bare key with a value after an equals
sign, whatever follows on the lines below: the document goes on with the next line
(`statements_line`), and there is a table more (`foldlM_section`). The other way round, a document
that is accepted has some statement on its first line, however the line ends (`statements_eq_ok`).
-/

namespace MigrationClient.Toml

open Reader Text

variable {c d : Char} {name : String} {r s t : List Char} {a : Statement} {as : List Statement}

/-! ## Where a line begins -/

theorem skipSpace_cons (h : isSpace c = false) (r : List Char) : skipSpace (c :: r) = c :: r :=
  List.dropWhile_cons_of_neg (by simp [h])

/-- A text with something in it from its first character on. -/
def Starts (s : List Char) : Prop := s ≠ [] ∧ skipLines s = s

theorem starts_cons (hspace : isSpace c = false) (hc : c ∉ ['#', '\n', '\r']) (r : List Char) :
    Starts (c :: r) := by
  simp only [List.mem_cons, List.not_mem_nil, or_false, not_or] at hc
  obtain ⟨hcomment, hnewline, hreturn⟩ := hc
  have hskip : skipComment (skipSpace (c :: r)) = c :: r := by
    rw [skipSpace_cons hspace]
    unfold skipComment
    split
    · next he => exact absurd (List.cons.inj he).1 hcomment
    · rfl
  have hend : lineEnd? (c :: r) = none := by
    unfold lineEnd?
    split
    · next he => exact absurd (List.cons.inj he).1 hnewline
    · next he => exact absurd (List.cons.inj he).1 hreturn
    · rfl
  refine ⟨List.cons_ne_nil _ _, ?_⟩
  rw [skipLines]
  split
  · next he =>
    rw [hskip, hend] at he
    cases he
  · exact hskip

theorem statements_nil : statements [] = .ok [] := by
  have hskip : skipLines [] = [] := by
    rw [skipLines]
    rfl
  rw [statements]
  split
  · rfl
  · next he =>
    rw [hskip] at he
    cases he

/-- The first statement of a document stands where the document has something in it. -/
theorem statements_eq_ok (hs : Starts s) (h : statements s = .ok as) :
    ∃ a t as', statement s = .ok (a, t) ∧ as = a :: as' := by
  obtain ⟨hne, hskip⟩ := hs
  rw [statements] at h
  split at h
  · next he => exact absurd (hskip.symm.trans he) hne
  · next he =>
    obtain rfl := hskip.symm.trans he
    split at h
    · cases h
    · next ha =>
      split at h
      · obtain ⟨as', -, rfl⟩ := map_eq_ok h
        exact ⟨_, _, as', ha, rfl⟩
      · split at h
        · cases h
          exact ⟨_, _, [], ha, rfl⟩
        · cases h

/-- After a line the document goes on with the next. -/
theorem statements_line (hs : Starts s) (h : statement s = .ok (a, '\n' :: t)) :
    statements s = (statements t).map (a :: ·) := by
  have hend : lineEnd? (skipComment (skipSpace ('\n' :: t))) = some t := rfl
  obtain ⟨hne, hskip⟩ := hs
  rw [statements]
  split
  · next he => exact absurd (hskip.symm.trans he) hne
  · next he =>
    obtain rfl := hskip.symm.trans he
    split
    · next he =>
      rw [h] at he
      cases he
    · next he =>
      rw [h] at he
      cases he
      split
      · next he =>
        rw [hend] at he
        cases he
        rfl
      · next he =>
        rw [hend] at he
        cases he

/-! ## Bare keys -/

/-- A key that can stand without quotes. -/
def IsBareKey (name : String) : Prop := name.toList ≠ [] ∧ ∀ c ∈ name.toList, isBare c = true

theorem ne_of_isBare (hc : isBare c = true) (hd : isBare d = false) : c ≠ d := by
  rintro rfl
  rw [hc] at hd
  cases hd

theorem isSpace_of_isBare (h : isBare c = true) : isSpace c = false := by
  have hspace := ne_of_isBare h (d := ' ') (by decide)
  have htab := ne_of_isBare h (d := '\t') (by decide)
  simp [isSpace, hspace, htab]

theorem IsBareKey.toList_eq (h : IsBareKey name) :
    ∃ c cs, name.toList = c :: cs ∧ isBare c = true := by
  obtain ⟨c, cs, hcs⟩ := List.exists_cons_of_ne_nil h.1
  exact ⟨c, cs, hcs, h.2 c (hcs ▸ List.mem_cons_self)⟩

theorem IsBareKey.starts (h : IsBareKey name) (r : List Char) : Starts (name.toList ++ r) := by
  obtain ⟨c, cs, hcs, hc⟩ := h.toList_eq
  rw [hcs]
  refine starts_cons (isSpace_of_isBare hc) (fun hmem => ?_) _
  have hnone : ['#', '\n', '\r'].all (fun d => !isBare d) = true := by decide
  have hbare := List.all_eq_true.1 hnone c hmem
  rw [hc] at hbare
  cases hbare

theorem segment_bare (h : IsBareKey name) (hd : isBare d = false) (r : List Char) :
    ∃ span, segment (name.toList ++ d :: r) = .ok (⟨name, span⟩, d :: r) := by
  have htake := takeWhile_append_cons h.2 hd r
  have hdrop := dropWhile_append_cons h.2 hd r
  have hname := String.ofList_toList (s := name)
  obtain ⟨c, cs, hcs, hc⟩ := h.toList_eq
  rw [hcs] at htake hdrop hname ⊢
  unfold segment
  split
  · next he => exact absurd (List.cons.inj he).1 (ne_of_isBare hc (by decide))
  · next he => exact absurd (List.cons.inj he).1 (ne_of_isBare hc (by decide))
  · subst hname
    rw [htake, hdrop]
    exact ⟨_, rfl⟩

/-- A bare key of one segment ends where something comes that is neither bare nor, after blanks, a
dot. -/
theorem key_bare (h : IsBareKey name) (hd : isBare d = false)
    (hdot : ∀ t, skipSpace (d :: r) ≠ '.' :: t) :
    ∃ span, key (name.toList ++ d :: r) = .ok ([⟨name, span⟩], d :: r) := by
  obtain ⟨span, hsegment⟩ := segment_bare h hd r
  have hpath : keyPath (name.toList ++ d :: r) = .ok ([⟨name, span⟩], d :: r) := by
    rw [keyPath]
    split
    · next he =>
      rw [hsegment] at he
      cases he
    · next he =>
      rw [hsegment] at he
      cases he
      split
      · next he => exact absurd he (hdot _)
      · rfl
  refine ⟨span, ?_⟩
  rw [key, hpath]
  rfl

/-! ## Headers and entries -/

theorem statement_header (h : IsBareKey name) (r : List Char) :
    ∃ span span', statement ('[' :: (name.toList ++ ']' :: r)) =
      .ok (.table [⟨name, span⟩] span', r) := by
  obtain ⟨span, hkey⟩ := key_bare h (d := ']') (r := r) (by decide) fun t he => by cases he
  obtain ⟨c, cs, hcs, hc⟩ := h.toList_eq
  rw [hcs] at hkey ⊢
  have hheader : headerKey [']'] (c :: cs ++ ']' :: r) = .ok ([⟨name, span⟩], r) := by
    rw [headerKey, List.cons_append, skipSpace_cons (isSpace_of_isBare hc), ← List.cons_append,
      hkey]
    rfl
  refine ⟨span, ⟨('[' :: (c :: cs ++ ']' :: r)).length, r.length⟩, ?_⟩
  unfold statement
  split
  · next he =>
    have he := (List.cons.inj (List.cons.inj he).2).1
    exact absurd he (ne_of_isBare hc (by decide))
  · next he =>
    obtain rfl := (List.cons.inj he).2
    rw [hheader]
    rfl
  · next hne => exact (hne _ rfl).elim

theorem statement_entry (h : IsBareKey name) (hs : skipSpace s = s) :
    ∃ span, statement (name.toList ++ ' ' :: '=' :: ' ' :: s) =
      mapStep (fun v => .entry [⟨name, span⟩] v) ((value maxDepth).run s) := by
  obtain ⟨span, hkey⟩ := key_bare h (d := ' ') (r := '=' :: ' ' :: s) (by decide)
    fun t he => by cases he
  have hassignment : assignment (value maxDepth) (name.toList ++ ' ' :: '=' :: ' ' :: s) =
      mapStep ([⟨name, span⟩], ·) ((value maxDepth).run s) := by
    rw [assignment, hkey]
    change mapStep _ ((value maxDepth).run (skipSpace s)) = _
    rw [hs]
  obtain ⟨c, cs, hcs, hc⟩ := h.toList_eq
  have hbracket := ne_of_isBare hc (d := '[') (by decide)
  rw [hcs] at hassignment ⊢
  refine ⟨span, ?_⟩
  unfold statement
  split
  · next he => exact absurd (List.cons.inj he).1 hbracket
  · next he => exact absurd (List.cons.inj he).1 hbracket
  · rw [hassignment]
    cases (value maxDepth).run s <;> rfl

/-- A header and an entry. -/
theorem statements_section {key : String} {v : Value} (hkey : IsBareKey key)
    (hname : IsBareKey name) (hs : skipSpace s = s)
    (hv : (value maxDepth).run s = .ok (v, '\n' :: t)) :
    ∃ span span' span'',
      statements ('[' :: (key.toList ++ ']' :: '\n' :: (name.toList ++ ' ' :: '=' :: ' ' :: s))) =
        (statements t).map fun as => .table [⟨key, span⟩] span' ::
          .entry [⟨name, span''⟩] v :: as := by
  obtain ⟨span, span', hheader⟩ := statement_header hkey
    ('\n' :: (name.toList ++ ' ' :: '=' :: ' ' :: s))
  obtain ⟨span'', hentry⟩ := statement_entry hname hs
  refine ⟨span, span', span'', ?_⟩
  rw [hv] at hentry
  rw [statements_line (starts_cons (by decide) (by decide) _) hheader,
    statements_line (hname.starts _) hentry]
  cases statements t <;> rfl

/-! ## Values -/

theorem value_string (s : List Char) :
    (value maxDepth).run ('"' :: s) = spanned .string ('"' :: s) (quoted ('"' :: s)) := rfl

/-- A boolean as it is written. -/
def booleanText (b : Bool) : String := if b then "true" else "false"

theorem value_boolean (b : Bool) (r : List Char) :
    ∃ span, (value maxDepth).run ((booleanText b).toList ++ '\n' :: r) =
      .ok (.boolean span b, '\n' :: r) := by
  cases b <;> exact ⟨_, rfl⟩

/-! ## Tables -/

variable {es inner : Entries} {header : List Key} {k j : Key} {span : Span} {v : Value}

theorem add_header (hk : es.find? k.name = none) :
    Draft.add ⟨es, header⟩ (.table [k] span) =
      .ok ⟨es.put k.name (.table span .header []), [k]⟩ := by
  have hopen : es.openTable [k] span = .ok (es.put k.name (.table span .header [])) := by
    simp only [Entries.openTable, Entries.splitKey, List.dropLast_singleton,
      List.getLast?_singleton, Option.getD_some, Entries.modify, hk]
  rw [Draft.add, hopen]
  rfl

theorem add_entry (hk : es.find? k.name = some (.table span .header inner))
    (hj : inner.find? j.name = none) :
    Draft.add ⟨es, [k]⟩ (.entry [j] v) =
      .ok ⟨es.put k.name (.table span .header (inner.put j.name v)), [k]⟩ := by
  have hinsert : Entries.insert [j] v .header inner = .ok (inner.put j.name v) := by
    simp [Entries.insert, Entries.splitKey, Entries.modify, hj]
  have hunder : es.insertUnder [k] [j] v =
      .ok (es.put k.name (.table span .header (inner.put j.name v))) := by
    simp only [Entries.insertUnder, Entries.modify, hk]
    rw [if_pos (by rfl), hinsert]
    rfl
  rw [Draft.add, hunder]
  rfl

/-- A header that is not there yet and an entry under it make a table with one value. -/
theorem foldlM_section {key name : String} {span' span'' : Span} (hk : es.find? key = none) :
    (.table [⟨key, span⟩] span' :: .entry [⟨name, span''⟩] v :: as).foldlM Draft.add ⟨es, header⟩ =
      as.foldlM Draft.add ⟨es.put key (.table span' .header [(name, v)]), [⟨key, span⟩]⟩ := by
  have hfound := Entries.find?_put key key (.table span' .header []) es
  rw [if_pos rfl] at hfound
  rw [List.foldlM_cons, add_header hk]
  change (.entry [⟨name, span''⟩] v :: as).foldlM Draft.add ⟨_, [⟨key, span⟩]⟩ = _
  rw [List.foldlM_cons, add_entry hfound rfl, Entries.put_put]
  rfl

end MigrationClient.Toml
