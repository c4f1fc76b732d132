import MigrationClient.Proofs.Folding
import MigrationClient.Proofs.Toml.Growth
import MigrationClient.Toml.Document

/-!
# What the lines of a document come to

A header names a table, and the entries after it go on from there; an entry may go further by dots,
and its value may be a table in braces. All of this is one path from the document down
(`Statement.line`). When a document is accepted, its tables have been added to line by line
(`grows_parse`), so that a path leads to a plain value **exactly when some line says that value for
it** (`Grows.at?_eq_some_iff`), and to anything at all exactly when some line mentions it
(`Grows.isSome_at?_iff`). Which of the lines it is, and where the path is divided into header, dots
and braces, does not matter.
-/

namespace MigrationClient.Toml

open Reader

/-! ## What is read has keys, and orderly values -/

theorem keyPath_ne_nil {s : List Char} {ks r} (h : keyPath s = .ok (ks, r)) : ks ≠ [] := by
  fun_induction keyPath s generalizing ks r
  case case1 => cases h
  case case2 =>
    obtain ⟨b, -, rfl⟩ := mapStep_eq_ok h
    exact List.cons_ne_nil _ _
  case case3 =>
    cases h
    exact List.cons_ne_nil _ _

theorem key_ne_nil {s : List Char} {ks r} (h : key s = .ok (ks, r)) : ks ≠ [] := by
  unfold key at h
  split at h
  · cases h
  · next hk =>
    split at h
    · cases h
    · cases h
      exact keyPath_ne_nil hk

theorem assignment_eq_ok {value : Reader Value} {s : List Char} {ks v r}
    (h : assignment value s = .ok ((ks, v), r)) :
    ks ≠ [] ∧ ∃ t, value.run t = .ok (v, r) := by
  unfold assignment at h
  split at h
  · cases h
  · next hk =>
    split at h
    · obtain ⟨w, hw, he⟩ := mapStep_eq_ok h
      cases he
      exact ⟨key_ne_nil hk, _, hw⟩
    · cases h

/-- Whatever holds of each item that is read holds of all that stand side by side. -/
theorem sideBySide_forall {item : Reader α} {closing : Char} {P : α → Prop}
    (hitem : ∀ s a r, item.run s = .ok (a, r) → P a) {s : List Char} {as r}
    (h : sideBySide item closing s = .ok (as, r)) : ∀ a ∈ as, P a := by
  fun_induction sideBySide item closing s generalizing as r
  case case1 | case3 | case6 | case7 => cases h
  case case2 =>
    cases h
    exact fun a ha => absurd ha List.not_mem_nil
  case case4 hi _ _ ih =>
    obtain ⟨bs, hbs, rfl⟩ := mapStep_eq_ok h
    exact List.forall_mem_cons.2 ⟨hitem _ _ _ hi, ih hbs⟩
  case case5 hi _ _ _ =>
    cases h
    intro a ha
    rw [List.mem_singleton.1 ha]
    exact hitem _ _ _ hi

theorem orderly_inlineTable {span : Span} {as : List (List Key × Value)} {v : Value}
    (has : ∀ a ∈ as, a.2.Orderly) (h : inlineTable span as = .ok v) : v.Orderly := by
  obtain ⟨es, hes, rfl⟩ := map_eq_ok h
  refine Value.orderly_table_iff.2
    (foldlM_keeps (m := Except _) (fun es es' a ha h hes => ?_) hes Entries.orderly_nil)
  exact Entries.orderly_insert (has a ha) hes h

theorem orderly_simple {s : List Char} {v r} (h : simple s = .ok (v, r)) : v.Orderly := by
  have hplain : v.inner = [] ∧ ∀ span kind es, v ≠ .table span kind es := by
    unfold simple at h
    split at h
    · obtain ⟨⟨b, t⟩, -, hv⟩ := map_eq_ok h
      cases hv
      exact ⟨rfl, fun _ _ _ he => by cases he⟩
    · obtain ⟨⟨b, t⟩, -, hv⟩ := map_eq_ok h
      cases hv
      exact ⟨rfl, fun _ _ _ he => by cases he⟩
    · simp only [scalar] at h
      split at h
      · next w hw =>
        split at h
        · cases h
        · cases h
          unfold scalar? at hw
          repeat' split at hw
          all_goals cases hw
          all_goals exact ⟨rfl, fun _ _ _ he => by cases he⟩
      · cases h
  refine Value.orderly_of_inner hplain.2 fun u hu => ?_
  rw [hplain.1] at hu
  exact absurd hu List.not_mem_nil

/-- **Every value that is read is orderly**, by how deep brackets may go. -/
theorem orderly_value {depth : Nat} {s : List Char} {v r}
    (h : (value depth).run s = .ok (v, r)) : v.Orderly := by
  induction depth generalizing s v r with
  | zero =>
    change deepest s = .ok (v, r) at h
    unfold deepest at h
    split at h
    · cases h
    · cases h
    · exact orderly_simple h
  | succ depth ih =>
    change valueOver (value depth) s = .ok (v, r) at h
    unfold valueOver at h
    split at h
    · obtain ⟨⟨items, t⟩, hitems, hv⟩ := map_eq_ok h
      cases hv
      exact Value.orderly_array_iff.2 (sideBySide_forall (fun _ _ _ => ih) hitems)
    · split at h
      · cases h
      · next as t has =>
        obtain ⟨w, hw, hv⟩ := map_eq_ok h
        cases hv
        refine orderly_inlineTable (sideBySide_forall (fun s a r ha => ?_) has) hw
        obtain ⟨-, t, ht⟩ := assignment_eq_ok ha
        exact ih ht
    · exact orderly_simple h

/-! ## Statements -/

/-- What holds of every statement that is read: there is a key, and the value is orderly. -/
inductive Statement.WellRead : Statement → Prop
  | table {path span} : path ≠ [] → WellRead (.table path span)
  | element {path span} : path ≠ [] → WellRead (.element path span)
  | entry {path v} : path ≠ [] → v.Orderly → WellRead (.entry path v)

theorem headerKey_ne_nil {closing s : List Char} {ks r} (h : headerKey closing s = .ok (ks, r)) :
    ks ≠ [] := by
  unfold headerKey at h
  split at h
  · cases h
  · next hk =>
    simp only at h
    split at h
    · cases h
      exact key_ne_nil hk
    · cases h

theorem wellRead_statement {s : List Char} {a r} (h : statement s = .ok (a, r)) : a.WellRead := by
  unfold statement at h
  split at h
  · obtain ⟨⟨ks, t⟩, hks, he⟩ := map_eq_ok h
    cases he
    exact .element (headerKey_ne_nil hks)
  · obtain ⟨⟨ks, t⟩, hks, he⟩ := map_eq_ok h
    cases he
    exact .table (headerKey_ne_nil hks)
  · obtain ⟨⟨ks, v⟩, hks, rfl⟩ := mapStep_eq_ok h
    obtain ⟨hne, t, ht⟩ := assignment_eq_ok hks
    exact .entry hne (orderly_value ht)

theorem wellRead_statements {s : List Char} {as : List Statement} (h : statements s = .ok as) :
    ∀ a ∈ as, a.WellRead := by
  fun_induction statements s generalizing as
  case case1 =>
    cases h
    exact fun a ha => absurd ha List.not_mem_nil
  case case2 | case5 => cases h
  case case3 ha _ _ ih =>
    obtain ⟨bs, hbs, rfl⟩ := map_eq_ok h
    exact List.forall_mem_cons.2 ⟨wellRead_statement ha, ih hbs⟩
  case case4 ha _ _ =>
    cases h
    intro b hb
    rw [List.mem_singleton.1 hb]
    exact wellRead_statement ha

/-! ## Lines -/

/-- A statement as a line, under the header before it. -/
def Statement.line (header : List Key) : Statement → Line
  | .table path _ | .element path _ => ⟨path.map (·.name), none⟩
  | .entry path v => ⟨header.map (·.name) ++ path.map (·.name), some v⟩

/-- The header that holds after a statement. -/
def Statement.header (header : List Key) : Statement → List Key
  | .table path _ | .element path _ => path
  | .entry _ _ => header

/-- Statements as lines, from the first to the last. -/
def linesUnder (header : List Key) : List Statement → List Line
  | [] => []
  | a :: as => a.line header :: linesUnder (a.header header) as

/-- The lines of a document; there are none if it cannot be read. -/
def lines (document : List Char) : List Line :=
  match statements (withoutMark document) with
  | .ok as => linesUnder [] as
  | .error _ => []

namespace Entries

/-- What becomes of some entries with any number of lines more. -/
structure Grows (es es' : Entries) (ls : List Line) : Prop where
  lasts : ∀ p v, es.at? p = some v → ∃ w, es'.at? p = some w ∧ v.Alike w
  fresh : ∀ p w, es'.at? p = some w → (∃ v, es.at? p = some v ∧ v.Alike w) ∨
    ∃ l ∈ ls, (∃ v, l.Says p v ∧ v.Alike w) ∨ p <+: l.path ∧ w.IsGroup
  said : ∀ l ∈ ls, ∀ p v, l.Says p v → (∃ w, es'.at? p = some w ∧ v.Alike w) ∨ es'.Blocked p
  made : ∀ l ∈ ls, ∀ p, p ≠ [] → p <+: l.path → (es'.at? p).isSome ∨ es'.Blocked p

variable {es es' es'' : Entries} {l : Line} {ls : List Line} {p : List String} {v : Value}

theorem Grows.refl (es : Entries) : Grows es es [] :=
  ⟨fun _ v h => ⟨v, h, .refl v⟩, fun _ w h => .inl ⟨w, h, .refl w⟩,
    fun _ hl => absurd hl List.not_mem_nil, fun _ hl => absurd hl List.not_mem_nil⟩

/-- A path that leads into an array of tables goes on to do so. -/
theorem Grows.blocked (h : Grows es es' ls) (hp : es.Blocked p) : es'.Blocked p := by
  obtain ⟨q, r, span, items, hr, rfl, hq⟩ := hp
  obtain ⟨w, hw, halike⟩ := h.lasts q _ hq
  cases halike with
  | refl => exact ⟨q, r, _, _, hr, rfl, hw⟩
  | array => exact ⟨q, r, _, _, hr, rfl, hw⟩

theorem Grows.cons (h : Takes es es' l) (h' : Grows es' es'' ls) : Grows es es'' (l :: ls) := by
  constructor
  · intro p v hv
    obtain ⟨w, hw, hvw⟩ := h.lasts p v hv
    obtain ⟨u, hu, hwu⟩ := h'.lasts p w hw
    exact ⟨u, hu, hvw.trans hwu⟩
  · intro p w hw
    rcases h'.fresh p w hw with ⟨v, hv, hvw⟩ | ⟨l', hl', hw⟩
    · rcases h.fresh p v hv with ⟨u, hu, huv⟩ | hsays | ⟨hp, hgroup⟩
      · exact .inl ⟨u, hu, huv.trans hvw⟩
      · exact .inr ⟨l, List.mem_cons_self, .inl ⟨v, hsays, hvw⟩⟩
      · exact .inr ⟨l, List.mem_cons_self, .inr ⟨hp, hvw.isGroup hgroup⟩⟩
    · exact .inr ⟨l', List.mem_cons_of_mem _ hl', hw⟩
  · intro l' hl' p v hv
    rcases List.mem_cons.1 hl' with rfl | hl'
    · exact (h.said p v hv).imp (h'.lasts p v) h'.blocked
    · exact h'.said l' hl' p v hv
  · intro l' hl' p hne hp
    rcases List.mem_cons.1 hl' with rfl | hl'
    · refine (h.made p hne hp).imp (fun hsome => ?_) h'.blocked
      obtain ⟨v, hv⟩ := Option.isSome_iff_exists.1 hsome
      obtain ⟨w, hw, -⟩ := h'.lasts p v hv
      rw [hw]
      rfl
    · exact h'.made l' hl' p hne hp

/-- **A path leads to a plain value exactly when a line says that value for it.** -/
theorem Grows.at?_eq_some_iff (h : Grows [] es ls) (hp : ¬ es.Blocked p) (hv : ¬ v.IsGroup) :
    es.at? p = some v ↔ ∃ l ∈ ls, l.Says p v := by
  constructor
  · intro hat
    rcases h.fresh p v hat with ⟨u, hu, -⟩ | ⟨l, hl, ⟨u, hu, halike⟩ | ⟨-, hgroup⟩⟩
    · cases p <;> cases hu
    · exact ⟨l, hl, halike.eq_of_not_isGroup hv ▸ hu⟩
    · exact absurd hgroup hv
  · rintro ⟨l, hl, hsays⟩
    obtain ⟨w, hw, halike⟩ := (h.said l hl p v hsays).resolve_right hp
    cases halike with
    | refl => exact hw
    | table => exact absurd .table hv
    | array => exact absurd .array hv

/-- **A path leads somewhere exactly when a line mentions it.** -/
theorem Grows.isSome_at?_iff (h : Grows [] es ls) (hne : p ≠ []) (hp : ¬ es.Blocked p) :
    (es.at? p).isSome ↔ ∃ l ∈ ls, l.Mentions p := by
  constructor
  · intro hsome
    obtain ⟨w, hw⟩ := Option.isSome_iff_exists.1 hsome
    rcases h.fresh p w hw with ⟨u, hu, -⟩ | ⟨l, hl, ⟨v, hv, -⟩ | ⟨hpath, -⟩⟩
    · cases p <;> cases hu
    · exact ⟨l, hl, .inr ⟨v, hv⟩⟩
    · exact ⟨l, hl, .inl hpath⟩
  · rintro ⟨l, hl, hpath | ⟨v, hv⟩⟩
    · exact (h.made l hl p hne hpath).resolve_right hp
    · obtain ⟨w, hw, -⟩ := (h.said l hl p v hv).resolve_right hp
      rw [hw]
      rfl

end Entries

/-! ## Documents -/

/-- What one statement does. -/
theorem takes_add {d d' : Draft} {a : Statement} (ha : a.WellRead) (hd : d.entries.Orderly)
    (h : d.add a = .ok d') :
    d.entries.Takes d'.entries (a.line d.header) ∧ d'.header = a.header d.header ∧
      d'.entries.Orderly := by
  cases ha with
  | table hne =>
    obtain ⟨es, hes, rfl⟩ := map_eq_ok h
    exact ⟨Entries.takes_openTable hne hes, rfl, Entries.orderly_openTable hd hes⟩
  | element hne =>
    obtain ⟨es, hes, rfl⟩ := map_eq_ok h
    exact ⟨Entries.takes_openElement hne hes, rfl, Entries.orderly_openElement hd hes⟩
  | entry hne hv =>
    obtain ⟨es, hes, rfl⟩ := map_eq_ok h
    exact ⟨Entries.takes_insertUnder hne hes, rfl, Entries.orderly_insertUnder hv hd hes⟩

/-- What any number of statements do, one after the other. -/
theorem grows_foldlM_add {d d' : Draft} {as : List Statement} (has : ∀ a ∈ as, a.WellRead)
    (hd : d.entries.Orderly) (h : as.foldlM Draft.add d = .ok d') :
    d.entries.Grows d'.entries (linesUnder d.header as) ∧ d'.entries.Orderly := by
  induction as generalizing d with
  | nil =>
    cases h
    exact ⟨.refl _, hd⟩
  | cons a as ih =>
    rw [List.foldlM_cons] at h
    obtain ⟨e, he, h⟩ := bind_eq_ok_iff.1 h
    obtain ⟨htakes, hheader, horderly⟩ := takes_add (has a List.mem_cons_self) hd he
    obtain ⟨hgrows, hd'⟩ := ih (fun b hb => has b (List.mem_cons_of_mem _ hb)) horderly h
    rw [hheader] at hgrows
    exact ⟨.cons htakes hgrows, hd'⟩

/-- **An accepted document has grown from nothing by its lines**, and is orderly. -/
theorem grows_parse {document : List Char} {es : Entries} (h : parse document = .ok es) :
    Entries.Grows [] es (lines document) ∧ es.Orderly := by
  obtain ⟨as, has, h⟩ := bind_eq_ok_iff.1 h
  obtain ⟨d, hd, h⟩ := bind_eq_ok_iff.1 h
  cases h
  rw [lines, has]
  exact grows_foldlM_add (wellRead_statements has) Entries.orderly_nil hd

end MigrationClient.Toml
