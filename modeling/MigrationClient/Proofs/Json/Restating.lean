import Mathlib.Data.List.Nodup
import MigrationClient.Proofs.Json.Reading

/-!
# Restated values

Who writes a value by hand may put the members of an object in another order, leave out those that
are `null`, and add others that nobody asked for (`Rearranged`), also in the objects within
(`Restated`). What a record makes of its members does not depend on any of this
(`reads_of_rearranged`).

An object that names a variant is another matter: it has the one member with this name, and no
other may be added.
-/

namespace MigrationClient.Json

/-! ## What may be changed -/

/-- The names of some members. -/
def names (ms : List (String × Value)) : List String := ms.map (·.1)

theorem names_cons (m : String × Value) (ms : List (String × Value)) :
    names (m :: ms) = m.1 :: names ms := rfl

/-- The members of an object as they may be rearranged: in any order, those with names of the
object once at most, all that are not `null` among them, and others with plain values. -/
structure Rearranged (ms ms' : List (String × Value)) : Prop where
  once : ((names ms').filter (· ∈ names ms)).Nodup
  kept : ∀ m ∈ ms, m.2 ≠ .null → m.1 ∈ names ms'
  others : ∀ m ∈ ms', m.1 ∉ names ms → m.2.isPlain = true

/-- A value as it may be restated. The members of an object are rearranged, and the values of those
that it keeps are restated in turn. But an object whose member has one of some names, the tags, has
this member and no other. -/
inductive Restated (tags : List String) : Value → Value → Prop
  | same (v : Value) : Restated tags v v
  | tagged {k : String} {v v' : Value} : k ∈ tags → Restated tags v v' →
      Restated tags (.object [(k, v)]) (.object [(k, v')])
  | record {ms ms' : List (String × Value)} : (∀ k ∈ names ms, k ∉ tags) → Rearranged ms ms' →
      (∀ m ∈ ms, ∀ m' ∈ ms', m.1 = m'.1 → Restated tags m.2 m'.2) →
      Restated tags (.object ms) (.object ms')

variable {tags : List String} {v v' : Value} {k : String} {ms ms' : List (String × Value)}

theorem rearranged_refl (h : (names ms).Nodup) : Rearranged ms ms where
  once := h.filter _
  kept _ hm _ := List.mem_map_of_mem hm
  others _ hm hn := absurd (List.mem_map_of_mem hm) hn

/-! ## What restated values are -/

theorem restated_null (h : Restated tags .null v') : v' = .null := by
  cases h
  rfl

theorem restated_boolean {b : Bool} (h : Restated tags (.boolean b) v') : v' = .boolean b := by
  cases h
  rfl

theorem restated_string {s : String} (h : Restated tags (.string s) v') : v' = .string s := by
  cases h
  rfl

theorem restated_tagged (h : Restated tags (.object [(k, v)]) v') (hk : k ∈ tags) :
    ∃ w, Restated tags v w ∧ v' = .object [(k, w)] := by
  cases h with
  | same => exact ⟨v, .same v, rfl⟩
  | tagged _ hw => exact ⟨_, hw, rfl⟩
  | record hms => exact absurd hk (hms k (by simp [names]))

theorem restated_record (h : Restated tags (.object ms) v') (hk : ∀ k ∈ names ms, k ∉ tags)
    (hms : (names ms).Nodup) : ∃ ms', v' = .object ms' ∧ Rearranged ms ms' ∧
      ∀ m ∈ ms, ∀ m' ∈ ms', m.1 = m'.1 → Restated tags m.2 m'.2 := by
  cases h with
  | same =>
    refine ⟨ms, rfl, rearranged_refl hms, fun m hm m' hm' hk => ?_⟩
    rw [List.inj_on_of_nodup_map hms hm hm' hk]
    exact .same m'.2
  | tagged ht => exact absurd ht (hk _ (by simp [names]))
  | record _ h hv => exact ⟨_, rfl, h, hv⟩

/-! ## What is read of restated members -/

section

variable {step : σ → String → Except Cause (Reader σ)} {after : List String → σ}

/-- Members that are read behind others. What has been read so far is told by the names that have
been seen, and a name of the object has not been seen before. -/
theorem reads_behind {rest : List (String × Value)} {seen : List String}
    (hstep : ∀ seen k v, (k, v) ∈ rest → (k ∈ names ms → k ∉ seen) →
      ∃ r, step (after seen) k = .ok r ∧ Takes r v (after (k :: seen)))
    (honce : ((names rest).filter (· ∈ names ms)).Nodup)
    (hseen : ∀ k ∈ names rest, k ∈ names ms → k ∉ seen) :
    Reads step (after seen) rest (after ((names rest).reverse ++ seen)) := by
  induction rest generalizing seen with
  | nil => exact .nil
  | cons m rest ih =>
    obtain ⟨k, v⟩ := m
    rw [names_cons] at honce hseen ⊢
    obtain ⟨r, hr, hv⟩ := hstep seen k v List.mem_cons_self (hseen k List.mem_cons_self)
    -- A name of the object that is seen now does not come again.
    have hlater : k ∈ names ms → k ∉ names rest := by
      intro hk hmem
      rw [List.filter_cons_of_pos (by simpa using hk), List.nodup_cons] at honce
      exact honce.1 (List.mem_filter.2 ⟨hmem, by simpa using hk⟩)
    have hrest : Reads step (after (k :: seen)) rest (after ((names rest).reverse ++ k :: seen)) := by
      refine ih (fun seen k v hm => hstep seen k v (List.mem_cons_of_mem _ hm)) ?_ ?_
      · exact honce.sublist ((List.sublist_cons_self k _).filter _)
      · intro j hj hknown hmem
        rcases List.mem_cons.1 hmem with rfl | hmem
        · exact hlater hknown hj
        · exact hseen j (List.mem_cons_of_mem _ hj) hknown hmem
    rw [List.reverse_cons, List.append_assoc, List.singleton_append]
    exact .cons hr hv hrest

/-- **What is read of the members of an object does not depend on how they are rearranged**, if a
member with a name of its own is read into its place and all others are passed over. -/
theorem reads_of_rearranged (after : List String → σ) (h : Rearranged ms ms')
    (hknown : ∀ seen k v v', (k, v) ∈ ms → (k, v') ∈ ms' → k ∉ seen →
      ∃ r, step (after seen) k = .ok r ∧ Takes r v' (after (k :: seen)))
    (hothers : ∀ seen k, k ∉ names ms →
      step (after seen) k = passOver (after seen) ∧ after (k :: seen) = after seen) :
    Reads step (after []) ms' (after (names ms').reverse) := by
  have hstep : ∀ seen k v', (k, v') ∈ ms' → (k ∈ names ms → k ∉ seen) →
      ∃ r, step (after seen) k = .ok r ∧ Takes r v' (after (k :: seen)) := by
    intro seen k v' hm hnew
    by_cases hk : k ∈ names ms
    · obtain ⟨⟨_, v⟩, hv, rfl⟩ := List.mem_map.1 hk
      exact hknown seen _ v v' hv hm (hnew hk)
    · obtain ⟨hstep, hafter⟩ := hothers seen k hk
      rw [hafter]
      exact ⟨_, hstep, (takes_ignored (h.others (k, v') hm hk)).map⟩
  have hreads := reads_behind hstep h.once fun _ _ _ => List.not_mem_nil
  rwa [List.append_nil] at hreads

end

/-! ## Records -/

/-- What is known of a field once some names have been seen. -/
def told (seen : List String) (name : String) (a : α) : Option α :=
  if name ∈ seen then some a else none

section

variable {a : α} {seen : List String} {name : String}

@[simp] theorem told_cons_self : told (name :: seen) name a = some a := by simp [told]

theorem told_cons_of_ne (h : name ≠ k) : told (k :: seen) name a = told seen name a := by
  simp [told, h]

theorem told_of_not_mem (h : name ∉ seen) : told seen name a = none := if_neg h

/-- A field that is not `null` is known in the end. -/
theorem told_of_kept (h : Rearranged ms ms') (hk : (k, v) ∈ ms) (hv : v ≠ .null) :
    told (names ms').reverse k a = some a :=
  if_pos (List.mem_reverse.2 (h.kept (k, v) hk hv))

/-- A field that is `null` may stay unknown. -/
theorem join_told {a : Option α} (h : Rearranged ms ms') (hk : (k, v) ∈ ms)
    (hv : v = .null → a = none) : (told (names ms').reverse k a).join = a := by
  by_cases hnull : v = .null
  · rw [hv hnull, told]
    split <;> rfl
  · rw [told_of_kept h hk hnull]
    rfl

end

/-- A field that has not been seen is read into its place. -/
theorem readInto_told {r : Reader α} {name : String} {seen : List String} {a : α} {put : α → σ}
    {st : σ} (hseen : name ∉ seen) (h : Takes r v a) (hput : put a = st) :
    ∃ r', readInto r name (told seen name a) put = .ok r' ∧ Takes r' v st := by
  rw [told_of_not_mem hseen]
  exact ⟨_, rfl, hput ▸ h.map⟩

/-- **A record of one field is read from any restated object.** -/
theorem takes_single {expected field : String} {d : Decoder α}
    {finish : Option α → Except Cause α} {a b : α} (hfield : field ∉ tags)
    (h : Restated tags (.object [(field, v)]) v')
    (hd : ∀ w, Restated tags v w → Takes d.reader w a) (hfinish : finish (some a) = .ok b)
    (hnull : v = .null → finish none = .ok b) :
    Takes (Decoder.single expected field d finish).reader v' b := by
  obtain ⟨ms', rfl, hms, hvalues⟩ := restated_record h (by simpa [names] using hfield)
    (by simp [names])
  refine takes_object rfl (reads_of_rearranged (told · field a) hms ?_ ?_) ?_
  · intro seen k w w' hw hw' hseen
    obtain ⟨rfl, rfl⟩ := Prod.mk.inj (List.mem_singleton.1 hw)
    simp only [if_true]
    exact readInto_told hseen (hd w' (hvalues _ hw _ hw' rfl)) told_cons_self.symm
  · intro seen k hk
    have hne : field ≠ k := by
      rintro rfl
      exact hk (by simp [names])
    rw [if_neg (Ne.symm hne), told_cons_of_ne hne]
    exact ⟨rfl, rfl⟩
  · by_cases hv : v = .null
    · rw [told]
      split
      · exact hfinish
      · exact hnull hv
    · rw [told_of_kept hms List.mem_cons_self hv]
      exact hfinish

/-! ## Whole texts -/

/-- **A text is decoded as what its value is taken for.** -/
theorem decode_of_takes {d : Decoder α} {a : α} {text : List UInt8} (h : Takes d.reader v a)
    (hs : v.Spelled text) : d.decode text = .ok a := by
  obtain ⟨blanks, hbegins, hblanks⟩ := hs
  have hrun := h text blanks hbegins (ends_blanks hblanks)
  have hlonger := d.reader.shorter hrun
  have hrest : skipSpace blanks = [] := by
    have := skipSpace_blanks (s := []) hblanks
    rwa [List.append_nil] at this
  cases text with
  | nil => cases hlonger
  | cons b text =>
    rw [Decoder.decode, if_neg (by simp), Reader.readAll, hrun]
    simp [hrest]

end MigrationClient.Json
