import MigrationClient.Reading

/-!
# Steps one after the other

A run takes its steps from first to last and ends at the first that fails, whether or not that one
tells why. In either case what every step keeps the whole run keeps (`foldlM_keeps`).
-/

namespace MigrationClient

open MonadAttach

/-- A result comes of a computation that did not fail. -/
instance monadAttachExcept : MonadAttach (Except ε) where
  CanReturn x a := x = .ok a
  attach x :=
    match x with
    | .ok a => .ok ⟨a, rfl⟩
    | .error e => .error e

instance lawfulMonadAttachExcept : LawfulMonadAttach (Except ε) where
  map_attach {_ x} := by cases x <;> rfl
  canReturn_map_imp {_ _ x _} h := by
    obtain ⟨a, rfl, rfl⟩ := Reader.map_eq_ok h
    exact a.2

/-- **What every step keeps, a run keeps.** -/
theorem foldlM_keeps {m : Type → Type} [Monad m] [LawfulMonad m] [MonadAttach m]
    [LawfulMonadAttach m] {σ ε : Type} {f : σ → ε → m σ} {P : σ → Prop} {as : List ε}
    (hf : ∀ s t, ∀ a ∈ as, CanReturn (f s a) t → P s → P t) {s t : σ}
    (h : CanReturn (as.foldlM f s) t) (hs : P s) : P t := by
  induction as generalizing s with
  | nil =>
    obtain rfl := LawfulMonadAttach.eq_of_canReturn_pure h
    exact hs
  | cons a as ih =>
    rw [List.foldlM_cons] at h
    obtain ⟨u, hu, ht⟩ := LawfulMonadAttach.canReturn_bind_imp' h
    exact ih (fun s t b hb => hf s t b (List.mem_cons_of_mem a hb)) ht
      (hf s u a List.mem_cons_self hu hs)

end MigrationClient
