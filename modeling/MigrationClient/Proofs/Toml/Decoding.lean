import MigrationClient.Proofs.Toml.Value
import MigrationClient.Reading

/-!
# Reading records

A record is read entry by entry, and what has no reader is passed over, for which its numbers have
to be in bounds. In a table in which every key stands once this comes to the same as reading the
fields one by one, **each from the entry that has its name** (`readFields_eq`): nothing else in the
table has an influence.
-/

namespace MigrationClient.Toml

open Reader

namespace Entries

variable {es : Entries} {k : String} {v : Value}

/-- What stands before and after an entry. -/
theorem exists_split (hs : Sorted es) (h : find? k es = some v) :
    ∃ front back, es = front ++ (k, v) :: back ∧ (∀ e ∈ front, e.1 < k) ∧ (∀ e ∈ back, k < e.1) ∧
      Sorted back := by
  obtain ⟨front, back, rfl⟩ := List.append_of_mem (mem_of_find? h)
  obtain ⟨-, hback, hbefore⟩ := List.pairwise_append.1 hs
  obtain ⟨hafter, hsorted⟩ := List.pairwise_cons.1 hback
  exact ⟨front, back, rfl, fun e he => hbefore e he _ List.mem_cons_self, hafter, hsorted⟩

theorem find?_append_cons {front back : Entries} {j : String} (hfront : ∀ e ∈ front, e.1 < k)
    (hj : k < j) : find? j (front ++ (k, v) :: back) = find? j back := by
  have hne : ∀ {i}, i < j → j ≠ i := by
    rintro i hlt rfl
    exact String.lt_irrefl j hlt
  induction front with
  | nil => rw [List.nil_append, find?, if_neg (hne hj)]
  | cons e front ih =>
    have hlt := String.lt_trans (hfront e List.mem_cons_self) hj
    rw [List.cons_append, find?, if_neg (hne hlt),
      ih fun f hf => hfront f (List.mem_cons_of_mem _ hf)]

variable {readers : List (String × (α → Value → Except Fault α))}

/-- The entries without a reader have all their numbers in bounds. -/
def PassedOver (readers : List (String × (α → Value → Except Fault α))) (es : Entries) : Prop :=
  ∀ e ∈ es, readers.lookup e.1 = none → e.2.Bounded

theorem passedOver_iff :
    PassedOver readers es ↔ ∀ e ∈ es, e.1 ∉ readers.map (·.1) → e.2.Bounded := by
  refine forall_congr' fun e => imp_congr_right fun _ => imp_congr ?_ Iff.rfl
  rw [List.lookup_eq_none_iff, List.mem_map]
  constructor
  · rintro h ⟨r, hr, he⟩
    exact bne_iff_ne.1 (h r hr) he.symm
  · exact fun h r hr => bne_iff_ne.2 fun he => h ⟨r, hr, he.symm⟩

theorem readFields_cons (a : α) (k : String) (v : Value) (es : Entries) :
    readFields readers a ((k, v) :: es) =
      (match readers.lookup k with
        | some read => read a v
        | none => v.ignore.map fun _ => a) >>= fun b => readFields readers b es := rfl

theorem readFields_append (a : α) (front back : Entries) :
    readFields readers a (front ++ back) =
      readFields readers a front >>= fun b => readFields readers b back := by
  rw [readFields, List.foldlM_append]
  rfl

/-- Entries without a reader are passed over. -/
theorem readFields_of_none (hnone : ∀ e ∈ es, readers.lookup e.1 = none)
    (hb : PassedOver readers es) (a : α) : readFields readers a es = .ok a := by
  induction es with
  | nil => rfl
  | cons e es ih =>
    obtain ⟨k, v⟩ := e
    have hk := hnone _ List.mem_cons_self
    rw [readFields_cons, hk, Value.ignore_eq_ok_iff.2 (hb _ List.mem_cons_self hk)]
    exact ih (fun f hf => hnone f (List.mem_cons_of_mem _ hf))
      fun f hf => hb f (List.mem_cons_of_mem _ hf)

/-- What was passed over could be. -/
theorem passedOver_of_readFields {a b : α} (h : readFields readers a es = .ok b) :
    PassedOver readers es := by
  induction es generalizing a with
  | nil => exact fun e he => absurd he List.not_mem_nil
  | cons e es ih =>
    obtain ⟨k, v⟩ := e
    rw [readFields_cons] at h
    obtain ⟨c, hc, h⟩ := bind_eq_ok_iff.1 h
    intro f hf hnone
    rcases List.mem_cons.1 hf with rfl | hf
    · rw [hnone] at hc
      obtain ⟨u, hu, -⟩ := map_eq_ok hc
      exact Value.ignore_eq_ok_iff.1 hu
    · exact ih h f hf hnone

/-- A reader whose name is not there is not used. -/
theorem readFields_cons_of_ne {r : String × (α → Value → Except Fault α)}
    (h : ∀ e ∈ es, e.1 ≠ r.1) (a : α) :
    readFields (r :: readers) a es = readFields readers a es := by
  induction es generalizing a with
  | nil => rfl
  | cons e es ih =>
    obtain ⟨k, v⟩ := e
    have hne : (k == r.1) = false := by simpa using h _ List.mem_cons_self
    rw [readFields_cons, readFields_cons, List.lookup_cons, hne]
    exact congrArg _ (funext (ih fun f hf => h f (List.mem_cons_of_mem _ hf)))

/-- **Fields are read each from the entry that has its name**, in the order of the names. -/
theorem readFields_eq (found? : String → Option Value)
    (hr : readers.Pairwise fun r s => r.1 < s.1) (hs : Sorted es) (hb : PassedOver readers es)
    (hfound : ∀ r ∈ readers, found? r.1 = find? r.1 es) (a : α) :
    readFields readers a es =
      readers.foldlM (fun a r => (found? r.1).elim (.ok a) (r.2 a)) a := by
  induction readers generalizing es a with
  | nil => exact readFields_of_none (fun _ _ => rfl) hb a
  | cons r readers ih =>
    obtain ⟨hfirst, hr⟩ := List.pairwise_cons.1 hr
    have hrest := fun s hs => hfound s (List.mem_cons_of_mem _ hs)
    have hlookup : ∀ {e : String × Value}, e.1 ≠ r.1 →
        (r :: readers).lookup e.1 = readers.lookup e.1 := by
      intro e he
      rw [List.lookup_cons, beq_eq_false_iff_ne.2 he]
    rw [List.foldlM_cons, hfound r List.mem_cons_self]
    cases hf : find? r.1 es with
    | none =>
      have hne : ∀ e ∈ es, e.1 ≠ r.1 := by
        rintro e he h
        rw [← h, (find?_eq_some_iff hs).2 he] at hf
        cases hf
      have hbrest : PassedOver readers es := fun e he hnone =>
        hb e he ((hlookup (hne e he)).trans hnone)
      rw [readFields_cons_of_ne hne, ih hr hs hbrest hrest]
      rfl
    | some v =>
      obtain ⟨front, back, rfl, hfront, hback, hsorted⟩ := exists_split hs hf
      have hnone : ∀ e ∈ front, (r :: readers).lookup e.1 = none := by
        intro e he
        refine List.lookup_eq_none_iff.2 fun s hs => ?_
        rw [bne_iff_ne]
        rcases List.mem_cons.1 hs with rfl | hs
        · exact fun h => String.lt_irrefl _ (h ▸ hfront e he)
        · exact fun h => String.lt_irrefl _ (h ▸ String.lt_trans (hfront e he) (hfirst s hs))
      have hbfront := readFields_of_none hnone (fun e he => hb e (List.mem_append_left _ he)) a
      have hne : ∀ e ∈ back, e.1 ≠ r.1 := fun e he h => String.lt_irrefl _ (h ▸ hback e he)
      have hbback : PassedOver readers back := fun e he hnone =>
        hb e (List.mem_append_right _ (List.mem_cons_of_mem _ he))
          ((hlookup (hne e he)).trans hnone)
      have htail : ∀ b, readFields (r :: readers) b back =
          readers.foldlM (fun a r => (found? r.1).elim (.ok a) (r.2 a)) b := by
        intro b
        rw [readFields_cons_of_ne hne]
        refine ih hr hsorted hbback (fun s hs => ?_) b
        rw [hrest s hs, find?_append_cons hfront (hfirst s hs)]
      calc readFields (r :: readers) a (front ++ (r.1, v) :: back)
          = readFields (r :: readers) a ((r.1, v) :: back) := by
            rw [readFields_append, hbfront]
            rfl
        _ = r.2 a v >>= fun b => readFields (r :: readers) b back := by
            rw [readFields_cons, List.lookup_cons, beq_self_eq_true]
        _ = _ := congrArg _ (funext htail)

/-- Reading succeeds exactly when what has no reader can be passed over and the fields can be
read. -/
theorem readFields_eq_ok_iff (hr : readers.Pairwise fun r s => r.1 < s.1) (hs : Sorted es)
    {a b : α} :
    readFields readers a es = .ok b ↔
      PassedOver readers es ∧
        readers.foldlM (fun a r => (es.find? r.1).elim (.ok a) (r.2 a)) a = .ok b := by
  constructor
  · intro h
    have hb := passedOver_of_readFields h
    rw [readFields_eq (fun k => es.find? k) hr hs hb fun _ _ => rfl] at h
    exact ⟨hb, h⟩
  · rintro ⟨hb, h⟩
    rwa [readFields_eq (fun k => es.find? k) hr hs hb fun _ _ => rfl]

end Entries

namespace Value

variable {v : Value}

/-- A record of one field in a table is read from the entry that has its name. -/
theorem single_table_eq_ok_iff {expected field : String} {read : Value → Except Fault α}
    {absent : Span → Except Fault α} {span : Span} {kind : TableKind} {es : Entries} {a : α}
    (hs : es.Sorted) :
    single expected field read absent (.table span kind es) = .ok a ↔
      (∀ e ∈ es, e.1 ≠ field → e.2.Bounded) ∧
        (es.find? field).elim (absent span) read = .ok a := by
  rw [single, bind_eq_ok_iff]
  simp only [Entries.readFields_eq_ok_iff (List.pairwise_singleton _ _) hs,
    Entries.passedOver_iff, List.map_cons, List.map_nil, List.mem_singleton, List.foldlM_cons,
    List.foldlM_nil, and_assoc, exists_and_left]
  refine and_congr_right fun _ => ?_
  cases es.find? field with
  | none =>
    constructor
    · rintro ⟨o, ho, h⟩
      cases ho
      exact h
    · exact fun h => ⟨none, rfl, h⟩
  | some v =>
    cases hv : read v with
    | error fault => simp [hv, Except.map, bind, Except.bind]
    | ok b =>
      rw [Option.elim_some, Option.elim_some, hv]
      constructor
      · rintro ⟨o, ho, h⟩
        cases ho
        exact h
      · exact fun h => ⟨some b, rfl, h⟩

theorem mismatch_ne_ok {expected : String} {a : α} : v.mismatch expected ≠ .ok a := by
  unfold mismatch
  split <;> exact fun h => by cases h

theorem string?_eq_ok_iff {s : String} : v.string? = .ok s ↔ ∃ span, v = .string span s := by
  cases v with
  | string span t => simp [string?]
  | _ => simp [string?, mismatch_ne_ok]

theorem boolean?_eq_ok_iff {b : Bool} : v.boolean? = .ok b ↔ ∃ span, v = .boolean span b := by
  cases v with
  | boolean span c => simp [boolean?]
  | _ => simp [boolean?, mismatch_ne_ok]

end Value

end MigrationClient.Toml
