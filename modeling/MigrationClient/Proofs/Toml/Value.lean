import MigrationClient.Toml.Decoding

/-!
# Parts of TOML values

A value has parts, at any depth: the items of arrays and the values in tables. Two things are said
of all of them. A value is *orderly* if in each of its tables every key stands once, and *bounded*
if each of its numbers is one that some type holds, which is when it may be passed over
(`tooLarge?_eq_none_iff`). A path of keys leads through tables to one part of a value, or to none.
-/

namespace MigrationClient.Toml

namespace Entries

variable {es : Entries} {k : String} {v : Value}

/-! ## Look-up in one table -/

theorem mem_of_find? (h : find? k es = some v) : (k, v) ∈ es := by
  induction es with
  | nil => cases h
  | cons e es ih =>
    obtain ⟨j, w⟩ := e
    rw [find?] at h
    split at h
    · next hk =>
      cases h
      rw [hk]
      exact List.mem_cons_self
    · exact List.mem_cons_of_mem _ (ih h)

theorem find?_eq_some_iff (hs : Sorted es) : find? k es = some v ↔ (k, v) ∈ es := by
  refine ⟨mem_of_find?, fun h => ?_⟩
  induction es with
  | nil => cases h
  | cons e es ih =>
    obtain ⟨j, w⟩ := e
    obtain ⟨hfirst, hs⟩ := List.pairwise_cons.1 hs
    rcases List.mem_cons.1 h with he | he
    · cases he
      rw [find?, if_pos rfl]
    · have hne : k ≠ j := by
        rintro rfl
        exact String.lt_irrefl k (hfirst _ he)
      rw [find?, if_neg hne, ih hs he]

theorem find?_put (j k : String) (v : Value) (es : Entries) :
    find? j (put k v es) = if j = k then some v else find? j es := by
  induction es with
  | nil => rfl
  | cons e es ih =>
    obtain ⟨l, w⟩ := e
    rw [put]
    by_cases hk : k = l
    · subst hk
      rw [if_pos rfl, find?, find?]
      split <;> rfl
    · rw [if_neg hk]
      by_cases hlt : k < l
      · rw [if_pos hlt, find?]
      · rw [if_neg hlt, find?, find?, ih]
        by_cases hj : j = l
        · rw [if_pos hj, if_pos hj, if_neg (hj ▸ Ne.symm hk)]
        · rw [if_neg hj, if_neg hj]

theorem put_put (k : String) (v w : Value) (es : Entries) :
    put k w (put k v es) = put k w es := by
  induction es with
  | nil => exact if_pos rfl
  | cons e es ih =>
    obtain ⟨l, u⟩ := e
    rw [put, put]
    by_cases hk : k = l
    · rw [if_pos hk, if_pos hk, put, if_pos hk]
    · rw [if_neg hk, if_neg hk]
      by_cases hlt : k < l
      · rw [if_pos hlt, if_pos hlt, put, if_pos rfl]
      · rw [if_neg hlt, if_neg hlt, put, if_neg hk, if_neg hlt, ih]

theorem mem_put {e : String × Value} (h : e ∈ put k v es) : e = (k, v) ∨ e ∈ es := by
  induction es with
  | nil => exact .inl (List.mem_singleton.1 h)
  | cons f es ih =>
    obtain ⟨j, w⟩ := f
    rw [put] at h
    split at h
    · next hk =>
      subst hk
      exact (List.mem_cons.1 h).imp id (List.mem_cons_of_mem _)
    · split at h
      · exact List.mem_cons.1 h
      · rcases List.mem_cons.1 h with rfl | h
        · exact .inr List.mem_cons_self
        · exact (ih h).imp id (List.mem_cons_of_mem _)

theorem sorted_put (hs : Sorted es) (k : String) (v : Value) : Sorted (put k v es) := by
  induction es with
  | nil => exact List.pairwise_singleton _ _
  | cons e es ih =>
    obtain ⟨j, w⟩ := e
    obtain ⟨hfirst, hrest⟩ := List.pairwise_cons.1 hs
    rw [put]
    by_cases hk : k = j
    · subst hk
      rw [if_pos rfl]
      exact List.pairwise_cons.2 ⟨hfirst, hrest⟩
    · rw [if_neg hk]
      by_cases hlt : k < j
      · rw [if_pos hlt]
        refine List.pairwise_cons.2 ⟨fun e he => ?_, hs⟩
        rcases List.mem_cons.1 he with rfl | he
        · exact hlt
        · exact String.lt_trans hlt (hfirst e he)
      · rw [if_neg hlt]
        refine List.pairwise_cons.2 ⟨fun e he => ?_, ih hrest⟩
        rcases mem_put he with rfl | he
        · exact String.not_le.1 fun hle => hk (String.le_antisymm hle (String.not_lt.1 hlt))
        · exact hfirst e he

end Entries

/-! ## Parts -/

namespace Value

/-- The values directly within a value. -/
def inner : Value → List Value
  | array _ _ items => items
  | table _ _ es => es.map (·.2)
  | _ => []

/-- A value is part of another: it is that one, or part of a value within it. -/
inductive Part (w : Value) : Value → Prop
  | self : Part w w
  | within {u v : Value} : u ∈ v.inner → Part w u → Part w v

variable {v w : Value}

theorem part_iff : Part w v ↔ w = v ∨ ∃ u ∈ v.inner, Part w u := by
  constructor
  · rintro (_ | ⟨hu, hw⟩)
    · exact .inl rfl
    · exact .inr ⟨_, hu, hw⟩
  · rintro (rfl | ⟨u, hu, hw⟩)
    · exact .self
    · exact .within hu hw

/-- In each table in a value, every key stands once and in its place. -/
def Orderly (v : Value) : Prop := ∀ span kind es, Part (.table span kind es) v → Entries.Sorted es

/-- Each number in a value is one that some type holds. -/
def Bounded (v : Value) : Prop := ∀ w, Part w v → w.isTooLarge = false

end Value

/-- The same, of a table with these entries and of the values in it. -/
def Entries.Orderly (es : Entries) : Prop := es.Sorted ∧ ∀ e ∈ es, e.2.Orderly

theorem Entries.orderly_nil : Orderly [] := ⟨.nil, fun _ he => absurd he List.not_mem_nil⟩

theorem Entries.orderly_put {es : Entries} {v : Value} (hs : es.Orderly) (k : String)
    (hv : v.Orderly) : (es.put k v).Orderly := by
  refine ⟨sorted_put hs.1 k v, fun e he => ?_⟩
  rcases mem_put he with rfl | he
  · exact hv
  · exact hs.2 e he

namespace Value

variable {v w : Value}

theorem orderly_of_inner (hv : ∀ span kind es, v ≠ .table span kind es)
    (h : ∀ u ∈ v.inner, u.Orderly) : v.Orderly := by
  intro span kind es hp
  rcases part_iff.1 hp with he | ⟨u, hu, hp⟩
  · exact absurd he.symm (hv span kind es)
  · exact h u hu span kind es hp

theorem orderly_table_iff {span : Span} {kind : TableKind} {es : Entries} :
    (table span kind es).Orderly ↔ es.Orderly := by
  constructor
  · intro h
    refine ⟨h _ _ _ .self, fun e he span kind es hp => ?_⟩
    exact h _ _ _ (.within (List.mem_map_of_mem he) hp)
  · rintro ⟨hs, hes⟩ span kind es hp
    rcases part_iff.1 hp with he | ⟨u, hu, hp⟩
    · cases he
      exact hs
    · obtain ⟨e, he, rfl⟩ := List.mem_map.1 hu
      exact hes e he _ _ _ hp

theorem orderly_array_iff {span : Span} {b : Bool} {items : List Value} :
    (array span b items).Orderly ↔ ∀ v ∈ items, v.Orderly := by
  constructor
  · intro h v hv span kind es hp
    exact h _ _ _ (.within hv hp)
  · intro h
    refine orderly_of_inner (fun _ _ _ he => ?_) h
    cases he

theorem bounded_iff : v.Bounded ↔ v.isTooLarge = false ∧ ∀ u ∈ v.inner, u.Bounded := by
  constructor
  · intro h
    exact ⟨h v .self, fun u hu w hw => h w (.within hu hw)⟩
  · rintro ⟨hv, hinner⟩ w hw
    rcases part_iff.1 hw with rfl | ⟨u, hu, hw⟩
    · exact hv
    · exact hinner u hu w hw

end Value

mutual

/-- **A value may be passed over exactly when all its numbers are in bounds.** -/
theorem Value.tooLarge?_eq_none_iff (v : Value) : v.tooLarge? = none ↔ v.Bounded := by
  rw [Value.bounded_iff]
  cases v with
  | array span b items =>
    simp [Value.tooLarge?, Value.isTooLarge, Value.inner, tooLargeInItems_eq_none_iff items]
  | table span kind es =>
    rw [Value.tooLarge?, tooLargeInEntries_eq_none_iff es]
    simp [Value.isTooLarge, Value.inner]
  | _ => simp [Value.tooLarge?, Value.inner]

theorem tooLargeInItems_eq_none_iff (items : List Value) :
    tooLargeInItems items = none ↔ ∀ v ∈ items, v.Bounded := by
  cases items with
  | nil => simp [tooLargeInItems]
  | cons v items =>
    simp [tooLargeInItems, v.tooLarge?_eq_none_iff, tooLargeInItems_eq_none_iff items]

theorem tooLargeInEntries_eq_none_iff (es : List (String × Value)) :
    tooLargeInEntries es = none ↔ ∀ v ∈ es.map (·.2), v.Bounded := by
  cases es with
  | nil => simp [tooLargeInEntries]
  | cons e es =>
    rw [List.map_cons, List.forall_mem_cons, ← e.2.tooLarge?_eq_none_iff,
      ← tooLargeInEntries_eq_none_iff es, tooLargeInEntries, Option.or_eq_none_iff]

end

theorem Value.ignore_eq_ok_iff {v : Value} : v.ignore = .ok () ↔ v.Bounded := by
  rw [← v.tooLarge?_eq_none_iff, Value.ignore]
  cases v.tooLarge? <;> simp

/-! ## Paths -/

/-- The part of a value that a path leads to, through tables only. -/
def Value.at? : List String → Value → Option Value
  | [], v => some v
  | k :: p, .table _ _ es => (Entries.find? k es).bind (at? p)
  | _ :: _, _ => none

/-- The value that a path leads to from some entries. -/
def Entries.at? : List String → Entries → Option Value
  | [], _ => none
  | k :: p, es => (Entries.find? k es).bind (Value.at? p)

namespace Entries

theorem at?_singleton (k : String) (es : Entries) : at? [k] es = find? k es := by
  rw [at?]
  cases find? k es <;> rfl

theorem at?_put (j k : String) (p : List String) (v : Value) (es : Entries) :
    at? (j :: p) (put k v es) = if j = k then v.at? p else at? (j :: p) es := by
  rw [at?, find?_put]
  split <;> rfl

end Entries

end MigrationClient.Toml
