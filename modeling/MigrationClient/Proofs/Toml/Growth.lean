import MigrationClient.Proofs.Toml.Value
import MigrationClient.Reading
import MigrationClient.Toml.Entries

/-!
# How the tables of a document grow

Each line of a document adds to its tables: an entry puts a value at the end of a path, and a
header sees to it that there is a table. However the path is written, in a header, with dots or
both, `modify` goes along it in the same way, so that what a line does can be said by its path alone
(`Takes`): **what was there stays, what is new is what the line says, and it is found where the line
says**, unless the path goes on in an array of tables. One step of the path is `takes_entered`, the
whole path is `takes_modify`.
-/

namespace MigrationClient.Toml

/-! ## What a line says -/

/-- A line of a document: the whole path from the document to what it is about, and the value that
it puts there if it is an entry. -/
structure Line where
  path : List String
  value : Option Value

namespace Line

/-- A line says a value for a path: its own value at its own path, and whatever is in the tables of
its value at the paths that go on. -/
def Says (l : Line) (p : List String) (v : Value) : Prop :=
  ∃ w q, l.value = some w ∧ p = l.path ++ q ∧ w.at? q = some v

/-- A line has something at a path, be it a table on the way. -/
def Mentions (l : Line) (p : List String) : Prop := p <+: l.path ∨ ∃ v, l.Says p v

theorem says_cons_iff {k j : String} {path p : List String} {value : Option Value} {v : Value} :
    Says ⟨k :: path, value⟩ (j :: p) v ↔ j = k ∧ Says ⟨path, value⟩ p v := by
  simp only [Says, List.cons_append, List.cons.injEq]
  constructor
  · rintro ⟨w, q, hw, ⟨rfl, rfl⟩, hq⟩
    exact ⟨rfl, w, q, hw, rfl, hq⟩
  · rintro ⟨rfl, w, q, hw, rfl, hq⟩
    exact ⟨w, q, hw, ⟨rfl, rfl⟩, hq⟩

theorem not_says_nil_of_ne_nil {l : Line} (h : l.path ≠ []) (v : Value) : ¬ l.Says [] v := by
  rintro ⟨w, q, -, hq, -⟩
  exact h (List.append_eq_nil_iff.1 hq.symm).1

end Line

namespace Value

/-- A table, or an array of tables: what lines can add to. -/
inductive IsGroup : Value → Prop
  | table {span kind es} : IsGroup (.table span kind es)
  | array {span items} : IsGroup (.array span true items)

/-- Values that are the same, or groups of one sort. -/
inductive Alike : Value → Value → Prop
  | refl (v : Value) : Alike v v
  | table {s s' : Span} {kind kind' : TableKind} {es es' : Entries} :
      Alike (.table s kind es) (.table s' kind' es')
  | array {s s' : Span} {items items' : List Value} :
      Alike (.array s true items) (.array s' true items')

variable {u v w : Value}

theorem Alike.trans (h : Alike u v) (h' : Alike v w) : Alike u w := by
  cases h with
  | refl => exact h'
  | table => cases h' with
    | refl => exact .table
    | table => exact .table
  | array => cases h' with
    | refl => exact .array
    | array => exact .array

theorem Alike.isGroup (h : Alike v w) (hv : v.IsGroup) : w.IsGroup := by
  cases h with
  | refl => exact hv
  | table => exact .table
  | array => exact .array

theorem Alike.eq_of_not_isGroup (h : Alike v w) (hw : ¬ w.IsGroup) : v = w := by
  cases h with
  | refl => rfl
  | table => exact absurd .table hw
  | array => exact absurd .array hw

end Value

namespace Entries

/-- A path leads into an array of tables before its end. -/
def Blocked (es : Entries) (p : List String) : Prop :=
  ∃ q r span items, r ≠ [] ∧ p = q ++ r ∧ es.at? q = some (.array span true items)

/-- What becomes of some entries with one more line. -/
structure Takes (es es' : Entries) (l : Line) : Prop where
  lasts : ∀ p v, es.at? p = some v → ∃ w, es'.at? p = some w ∧ v.Alike w
  fresh : ∀ p w, es'.at? p = some w →
    (∃ v, es.at? p = some v ∧ v.Alike w) ∨ l.Says p w ∨ p <+: l.path ∧ w.IsGroup
  said : ∀ p v, l.Says p v → es'.at? p = some v ∨ es'.Blocked p
  made : ∀ p, p ≠ [] → p <+: l.path → (es'.at? p).isSome ∨ es'.Blocked p

variable {es es' inner : Entries} {k : String} {l : Line} {v w : Value} {p : List String}

/-! ## One key -/

theorem at?_table {span : Span} {kind : TableKind} (h : p ≠ []) :
    (Value.table span kind es).at? p = es.at? p := by
  obtain ⟨k, p, rfl⟩ := List.exists_cons_of_ne_nil h
  rfl

theorem at?_array {span : Span} {ofTables : Bool} {items : List Value} (h : p ≠ []) :
    (Value.array span ofTables items).at? p = none := by
  obtain ⟨k, p, rfl⟩ := List.exists_cons_of_ne_nil h
  rfl

theorem at?_nil (p : List String) : at? p [] = none := by
  cases p <;> rfl

theorem at?_of_none (h : find? k es = none) (p : List String) : es.at? (k :: p) = none := by
  rw [at?, h]
  rfl

theorem blocked_of_find? {span : Span} {items : List Value}
    (h : find? k es = some (.array span true items)) (hp : p ≠ []) : es.Blocked (k :: p) :=
  ⟨[k], p, span, items, hp, rfl, by rw [at?_singleton, h]⟩

theorem Blocked.within {span : Span} {kind : TableKind} (hb : inner.Blocked p)
    (h : find? k es = some (.table span kind inner)) : es.Blocked (k :: p) := by
  obtain ⟨q, r, sp, items, hr, rfl, hq⟩ := hb
  have hne : q ≠ [] := by
    rintro rfl
    cases hq
  refine ⟨k :: q, r, sp, items, hr, rfl, ?_⟩
  rw [at?, h, Option.bind_some, at?_table hne, hq]

/-- What is at the end of each path when the value of one key is replaced: nothing changes at the
paths that do not begin with the key. -/
theorem Takes.of_put {path : List String} {value : Option Value}
    (lasts : ∀ p v, es.at? (k :: p) = some v → ∃ w', w.at? p = some w' ∧ v.Alike w')
    (fresh : ∀ p v, w.at? p = some v → (∃ u, es.at? (k :: p) = some u ∧ u.Alike v) ∨
      Line.Says ⟨path, value⟩ p v ∨ p <+: path ∧ v.IsGroup)
    (said : ∀ p v, Line.Says ⟨path, value⟩ p v →
      w.at? p = some v ∨ (put k w es).Blocked (k :: p))
    (made : ∀ p, p <+: path → (w.at? p).isSome ∨ (put k w es).Blocked (k :: p)) :
    Takes es (put k w es) ⟨k :: path, value⟩ := by
  constructor
  · intro p v h
    cases p with
    | nil => cases h
    | cons j p =>
      rw [at?_put]
      by_cases hj : j = k
      · subst hj
        rw [if_pos rfl]
        exact lasts p v h
      · rw [if_neg hj]
        exact ⟨v, h, .refl v⟩
  · intro p v h
    cases p with
    | nil => cases h
    | cons j p =>
      rw [at?_put] at h
      by_cases hj : j = k
      · subst hj
        rw [if_pos rfl] at h
        rcases fresh p v h with h | h | ⟨hp, hv⟩
        · exact .inl h
        · exact .inr (.inl (Line.says_cons_iff.2 ⟨rfl, h⟩))
        · exact .inr (.inr ⟨List.cons_prefix_cons.2 ⟨rfl, hp⟩, hv⟩)
      · rw [if_neg hj] at h
        exact .inl ⟨v, h, .refl v⟩
  · intro p v h
    cases p with
    | nil => exact absurd h (Line.not_says_nil_of_ne_nil (List.cons_ne_nil _ _) v)
    | cons j p =>
      obtain ⟨rfl, hs⟩ := Line.says_cons_iff.1 h
      rw [at?_put, if_pos rfl]
      exact said p v hs
  · intro p hne hp
    cases p with
    | nil => exact absurd rfl hne
    | cons j p =>
      obtain ⟨rfl, hpath⟩ := List.cons_prefix_cons.1 hp
      rw [at?_put, if_pos rfl]
      exact made p hpath

/-! ## Base cases: a new value, a new header -/

/-- A value at a key that was free. -/
theorem takes_value (h : find? k es = none) (v : Value) : Takes es (put k v es) ⟨[k], some v⟩ := by
  refine .of_put (fun p w hw => ?_) (fun p w hw => ?_) (fun p w hw => ?_) fun p hp => ?_
  · rw [at?_of_none h] at hw
    cases hw
  · exact .inr (.inl ⟨v, p, rfl, rfl, hw⟩)
  · obtain ⟨u, q, hu, rfl, hq⟩ := hw
    cases hu
    exact .inl hq
  · rw [List.prefix_nil.1 hp]
    exact .inl rfl

/-- A group at a key, with what was there before, if there was one. -/
theorem takes_header (hv : v.IsGroup) (hlasts : ∀ w, find? k es = some w → w.Alike v)
    (hinner : ∀ p, p ≠ [] → v.at? p = es.at? (k :: p)) :
    Takes es (put k v es) ⟨[k], none⟩ := by
  refine .of_put (fun p w hw => ?_) (fun p w hw => ?_) (fun p w hw => ?_) fun p hp => ?_
  · by_cases hp : p = []
    · subst hp
      rw [at?_singleton] at hw
      exact ⟨v, rfl, hlasts w hw⟩
    · exact ⟨w, by rw [hinner p hp, hw], .refl w⟩
  · by_cases hp : p = []
    · subst hp
      cases hw
      exact .inr (.inr ⟨List.prefix_refl _, hv⟩)
    · exact .inl ⟨w, by rw [← hinner p hp, hw], .refl w⟩
  · obtain ⟨u, q, hu, -⟩ := hw
    cases hu
  · rw [List.prefix_nil.1 hp]
    exact .inl rfl

/-! ## Paths -/

/-- How `modify` goes on at a key: in a table that is made, in a table that is there, or in the last
table of an array. -/
inductive Entered (dotted : Bool) (span : Span) (f : TableKind → Entries → Except Fault Entries) :
    Option Value → Value → Prop
  | fresh {kind : TableKind} {inner : Entries} : f kind [] = .ok inner →
      Entered dotted span f none (.table span kind inner)
  | table {s : Span} {kind : TableKind} {es inner : Entries} : f kind es = .ok inner →
      Entered dotted span f (some (.table s kind es)) (.table s kind inner)
  | element {s last : Span} {kind : TableKind} {front : List Value} {es inner : Entries} :
      f kind es = .ok inner →
      Entered dotted span f (some (.array s true (front ++ [.table last kind es])))
        (.array s true (front ++ [.table last kind inner]))

variable {dotted : Bool} {f : TableKind → Entries → Except Fault Entries} {kind : TableKind}

theorem modify_cons {k : Key} {ks : List Key}
    (h : modify dotted f kind es (k :: ks) = .ok es') :
    ∃ v, Entered dotted k.span (fun kind es => modify dotted f kind es ks) (find? k.name es) v ∧
      es' = put k.name v es := by
  rw [modify] at h
  split at h
  · next hnone =>
    obtain ⟨inner, hinner, h⟩ := Reader.bind_eq_ok_iff.1 h
    cases h
    exact ⟨_, hnone ▸ .fresh hinner, rfl⟩
  · next span kind inner htable =>
    split at h
    · obtain ⟨inner, hinner, h⟩ := Reader.bind_eq_ok_iff.1 h
      cases h
      exact ⟨_, htable ▸ .table hinner, rfl⟩
    · cases h
  · next span items harray =>
    split at h
    · next last kind inner hlast =>
      obtain ⟨inner, hinner, h⟩ := Reader.bind_eq_ok_iff.1 h
      cases h
      obtain ⟨front, rfl⟩ := List.getLast?_eq_some_iff.1 hlast
      rw [List.dropLast_concat]
      exact ⟨_, harray ▸ .element hinner, rfl⟩
    · cases h
  · cases h

/-- What a line does to a table, it does a key further down where that table is. -/
theorem takes_inner {old : Entries} {span : Span} {kind : TableKind} (ht : Takes old inner l)
    (hl : l.path ≠ [])
    (htable : ∀ w, find? k es = some w → w.Alike (.table span kind inner))
    (hold : ∀ p, p ≠ [] → es.at? (k :: p) = old.at? p) :
    Takes es (put k (.table span kind inner) es) ⟨k :: l.path, l.value⟩ := by
  have hput : find? k (put k (.table span kind inner) es) = some (.table span kind inner) := by
    rw [find?_put, if_pos rfl]
  refine .of_put (fun p v hv => ?_) (fun p v hv => ?_) (fun p v hv => ?_) fun p hp => ?_
  · by_cases hp : p = []
    · subst hp
      rw [at?_singleton] at hv
      exact ⟨_, rfl, htable v hv⟩
    · rw [hold p hp] at hv
      rw [at?_table hp]
      exact ht.lasts p v hv
  · by_cases hp : p = []
    · subst hp
      cases hv
      exact .inr (.inr ⟨List.nil_prefix, .table⟩)
    · rw [at?_table hp] at hv
      rw [hold p hp]
      exact ht.fresh p v hv
  · by_cases hp : p = []
    · exact absurd (hp ▸ hv) (Line.not_says_nil_of_ne_nil hl v)
    · rw [at?_table hp]
      exact (ht.said p v hv).imp id (·.within hput)
  · by_cases hne : p = []
    · exact .inl (by rw [hne]; rfl)
    · rw [at?_table hne]
      exact (ht.made p hne hp).imp id (·.within hput)

/-- What a line does in an array of tables cannot be seen along paths, before and after. -/
theorem takes_items {s s' : Span} {items items' : List Value} (hl : l.path ≠ [])
    (h : find? k es = some (.array s true items)) :
    Takes es (put k (.array s' true items') es) ⟨k :: l.path, l.value⟩ := by
  have hput : find? k (put k (.array s' true items') es) = some (.array s' true items') := by
    rw [find?_put, if_pos rfl]
  have hold : ∀ p, p ≠ [] → es.at? (k :: p) = none := fun p hp => by
    rw [at?, h, Option.bind_some, at?_array hp]
  refine .of_put (fun p v hv => ?_) (fun p v hv => ?_) (fun p v hv => ?_) fun p hp => ?_
  · by_cases hp : p = []
    · subst hp
      rw [at?_singleton, h] at hv
      cases hv
      exact ⟨_, rfl, .array⟩
    · rw [hold p hp] at hv
      cases hv
  · by_cases hp : p = []
    · subst hp
      cases hv
      exact .inr (.inr ⟨List.nil_prefix, .array⟩)
    · rw [at?_array hp] at hv
      cases hv
  · by_cases hp : p = []
    · exact absurd (hp ▸ hv) (Line.not_says_nil_of_ne_nil hl v)
    · exact .inr (blocked_of_find? hput hp)
  · by_cases hne : p = []
    · exact .inl (by rw [hne]; rfl)
    · exact .inr (blocked_of_find? hput hne)

/-- One key in front of the path of a line. -/
theorem takes_entered {span : Span}
    (hf : ∀ {kind es es'}, f kind es = .ok es' → Takes es es' l) (hl : l.path ≠ [])
    (h : Entered dotted span f (find? k es) w) : Takes es (put k w es) ⟨k :: l.path, l.value⟩ := by
  generalize hfound : find? k es = found at h
  cases h with
  | fresh hinner =>
    refine takes_inner (hf hinner) hl (fun w hw => ?_) fun p hp => ?_
    · rw [hfound] at hw
      cases hw
    · rw [at?_of_none hfound, at?_nil]
  | table hinner =>
    refine takes_inner (hf hinner) hl (fun w hw => ?_) fun p hp => ?_
    · rw [hfound] at hw
      cases hw
      exact .table
    · rw [at?, hfound, Option.bind_some, at?_table hp]
  | element _ => exact takes_items hl hfound

/-- **What is done at the end of a path is done by a line whose path is that much longer.** -/
theorem takes_modify (hf : ∀ {kind es es'}, f kind es = .ok es' → Takes es es' l)
    (hl : l.path ≠ []) {ks : List Key} (h : modify dotted f kind es ks = .ok es') :
    Takes es es' ⟨ks.map (·.name) ++ l.path, l.value⟩ := by
  induction ks generalizing kind es es' with
  | nil => exact hf h
  | cons k ks ih =>
    obtain ⟨v, hv, rfl⟩ := modify_cons h
    exact takes_entered (l := ⟨ks.map (·.name) ++ l.path, l.value⟩) ih (by simp [hl]) hv

/-- What keeps the entries of one table orderly does so at the end of any path. -/
theorem orderly_modify (hf : ∀ {kind es es'}, Orderly es → f kind es = .ok es' → Orderly es')
    {ks : List Key} (hes : es.Orderly) (h : modify dotted f kind es ks = .ok es') :
    es'.Orderly := by
  induction ks generalizing kind es es' with
  | nil => exact hf hes h
  | cons k ks ih =>
    obtain ⟨v, hv, rfl⟩ := modify_cons h
    refine orderly_put hes k.name ?_
    have hfound : ∀ u, find? k.name es = some u → u.Orderly := fun u hu =>
      hes.2 _ (mem_of_find? hu)
    generalize find? k.name es = found at hv hfound
    cases hv with
    | fresh hinner => exact Value.orderly_table_iff.2 (ih orderly_nil hinner)
    | table hinner =>
      exact Value.orderly_table_iff.2 (ih (Value.orderly_table_iff.1 (hfound _ rfl)) hinner)
    | @element _ _ _ front _ _ hinner =>
      have hitems := Value.orderly_array_iff.1 (hfound _ rfl)
      have hlast := hitems _ (List.mem_append_right front List.mem_cons_self)
      refine Value.orderly_array_iff.2 fun u hu => ?_
      rcases List.mem_append.1 hu with hu | hu
      · exact hitems u (List.mem_append_left _ hu)
      · rw [List.mem_singleton.1 hu]
        exact Value.orderly_table_iff.2 (ih (Value.orderly_table_iff.1 hlast) hinner)

/-! ## Lines -/

theorem map_splitKey {ks : List Key} (h : ks ≠ []) :
    (splitKey ks).1.map (·.name) ++ [(splitKey ks).2.name] = ks.map (·.name) := by
  have hlast := congrArg (List.map (·.name)) (List.dropLast_concat_getLast h)
  rw [splitKey, List.getLast?_eq_some_getLast h, Option.getD_some]
  rwa [List.map_append] at hlast

theorem takes_insert {ks : List Key} (hks : ks ≠ [])
    (h : insert ks v kind es = .ok es') : Takes es es' ⟨ks.map (·.name), some v⟩ := by
  rw [← map_splitKey hks]
  refine takes_modify (l := ⟨[(splitKey ks).2.name], some v⟩) (fun {kind es es'} h => ?_)
    (List.cons_ne_nil _ _) h
  split at h
  · cases h
  · split at h
    · cases h
    · next hfree =>
      cases h
      exact takes_value (Option.not_isSome_iff_eq_none.1 hfree) v

theorem orderly_insert {ks : List Key} (hv : v.Orderly) (hes : es.Orderly)
    (h : insert ks v kind es = .ok es') : es'.Orderly := by
  refine orderly_modify (fun {kind es es'} hes h => ?_) hes h
  split at h
  · cases h
  · split at h
    · cases h
    · cases h
      exact orderly_put hes _ hv

theorem takes_insertUnder {header ks : List Key} (hks : ks ≠ [])
    (h : insertUnder header ks v es = .ok es') :
    Takes es es' ⟨header.map (·.name) ++ ks.map (·.name), some v⟩ :=
  takes_modify (l := ⟨ks.map (·.name), some v⟩) (takes_insert hks) (by simp [hks]) h

theorem orderly_insertUnder {header ks : List Key} (hv : v.Orderly) (hes : es.Orderly)
    (h : insertUnder header ks v es = .ok es') : es'.Orderly :=
  orderly_modify (orderly_insert hv) hes h

theorem takes_openTable {ks : List Key} {span : Span} (hks : ks ≠ [])
    (h : openTable ks span es = .ok es') : Takes es es' ⟨ks.map (·.name), none⟩ := by
  rw [← map_splitKey hks]
  refine takes_modify (l := ⟨[(splitKey ks).2.name], none⟩) (fun {kind es es'} h => ?_)
    (List.cons_ne_nil _ _) h
  split at h
  · next hnone =>
    cases h
    refine takes_header .table (fun w hw => ?_) fun p hp => ?_
    · rw [hnone] at hw
      cases hw
    · rw [at?_table hp, at?_nil, at?_of_none hnone]
  · next s inner htable =>
    cases h
    refine takes_header .table (fun w hw => ?_) fun p hp => ?_
    · rw [htable] at hw
      cases hw
      exact .table
    · rw [at?, htable, Option.bind_some, at?_table hp, at?_table hp]
  · cases h

theorem orderly_openTable {ks : List Key} {span : Span} (hes : es.Orderly)
    (h : openTable ks span es = .ok es') : es'.Orderly := by
  refine orderly_modify (fun {kind es es'} hes h => ?_) hes h
  split at h
  · cases h
    exact orderly_put hes _ (Value.orderly_table_iff.2 orderly_nil)
  · next s inner htable =>
    cases h
    have htable := hes.2 _ (mem_of_find? htable)
    exact orderly_put hes _ (Value.orderly_table_iff.2 (Value.orderly_table_iff.1 htable))
  · cases h

theorem takes_openElement {ks : List Key} {span : Span} (hks : ks ≠ [])
    (h : openElement ks span es = .ok es') : Takes es es' ⟨ks.map (·.name), none⟩ := by
  rw [← map_splitKey hks]
  refine takes_modify (l := ⟨[(splitKey ks).2.name], none⟩) (fun {kind es es'} h => ?_)
    (List.cons_ne_nil _ _) h
  split at h
  · next hnone =>
    cases h
    refine takes_header .array (fun w hw => ?_) fun p hp => ?_
    · rw [hnone] at hw
      cases hw
    · rw [at?_array hp, at?_of_none hnone]
  · next first items harray =>
    cases h
    refine takes_header .array (fun w hw => ?_) fun p hp => ?_
    · rw [harray] at hw
      cases hw
      exact .array
    · rw [at?_array hp, at?, harray, Option.bind_some, at?_array hp]
  · cases h

theorem orderly_openElement {ks : List Key} {span : Span} (hes : es.Orderly)
    (h : openElement ks span es = .ok es') : es'.Orderly := by
  have hempty : (Value.table span .header []).Orderly := Value.orderly_table_iff.2 orderly_nil
  refine orderly_modify (fun {kind es es'} hes h => ?_) hes h
  split at h
  · cases h
    refine orderly_put hes _ (Value.orderly_array_iff.2 fun u hu => ?_)
    rw [List.mem_singleton.1 hu]
    exact hempty
  · next first items harray =>
    cases h
    have hitems := Value.orderly_array_iff.1 (hes.2 _ (mem_of_find? harray))
    refine orderly_put hes _ (Value.orderly_array_iff.2 fun u hu => ?_)
    rcases List.mem_append.1 hu with hu | hu
    · exact hitems u hu
    · rw [List.mem_singleton.1 hu]
      exact hempty
  · cases h

end Entries

end MigrationClient.Toml
