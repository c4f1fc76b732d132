/-!
# Readers

A reader takes something off the front of a list of symbols and leaves the rest. It never
succeeds without taking at least one symbol, so that whatever repeats it comes to an end: the
length of what is left is the measure.
-/

namespace MigrationClient

/-- Results can be compared if what they hold can. -/
instance decidableEqExcept [DecidableEq ε] [DecidableEq α] : DecidableEq (Except ε α)
  | .ok a, .ok b => decidable_of_iff (a = b) (by simp)
  | .error e, .error f => decidable_of_iff (e = f) (by simp)
  | .ok _, .error _ => isFalse nofun
  | .error _, .ok _ => isFalse nofun

/-- Reads one thing off the front of a list of symbols. -/
structure Reader (σ ε α : Type) where
  run : List σ → Except ε (α × List σ)
  shorter : ∀ {s a r}, run s = .ok (a, r) → r.length < s.length

namespace Reader

theorem map_eq_ok {f : α → β} {x : Except ε α} {b : β} (h : x.map f = .ok b) :
    ∃ a, x = .ok a ∧ f a = b := by
  cases x with
  | error e => cases h
  | ok a => exact ⟨a, rfl, by simpa [Except.map] using h⟩

theorem bind_eq_ok_iff {x : Except ε α} {f : α → Except ε β} {b : β} :
    x >>= f = .ok b ↔ ∃ a, x = .ok a ∧ f a = .ok b := by
  cases x <;> simp [bind, Except.bind]

theorem map_eq_error_iff {f : α → β} {x : Except ε α} {e : ε} :
    x.map f = .error e ↔ x = .error e := by
  cases x <;> simp [Except.map]

theorem bind_eq_error_iff {x : Except ε α} {f : α → Except ε β} {e : ε} :
    x >>= f = .error e ↔ x = .error e ∨ ∃ a, x = .ok a ∧ f a = .error e := by
  cases x <;> simp [bind, Except.bind]

/-- A result turned into another, with the same rest. -/
def mapStep (f : α → β) (x : Except ε (α × List σ)) : Except ε (β × List σ) :=
  x.map fun (a, r) => (f a, r)

theorem mapStep_eq_ok {f : α → β} {x : Except ε (α × List σ)} {b : β} {r : List σ}
    (h : mapStep f x = .ok (b, r)) : ∃ a, x = .ok (a, r) ∧ f a = b := by
  obtain ⟨⟨a, r'⟩, hx, hr⟩ := map_eq_ok h
  cases hr
  exact ⟨a, hx, rfl⟩

/-- The reader whose result is turned into another. -/
def map (f : α → β) (r : Reader σ ε α) : Reader σ ε β where
  run s := mapStep f (r.run s)
  shorter h := by
    obtain ⟨a, ha, -⟩ := mapStep_eq_ok h
    exact r.shorter ha

theorem length_dropWhile_le (p : σ → Bool) (s : List σ) : (s.dropWhile p).length ≤ s.length :=
  (List.dropWhile_sublist p).length_le

end Reader

end MigrationClient
