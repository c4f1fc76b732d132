import MigrationClient.Proofs.Client.Completion

/-!
# Exit codes

A command is announced to exit with 0 on a response of status 2xx, with 1 on any other response
and with 2 on none (`announcedExit`). Its exit code is taken from the outcome alone, and an outcome
has an error only for the statuses from 400 to 599. So **the exit code is the announced one
exactly when the response, if there is one, has a status of 2xx, 4xx or 5xx**
(`exitCode_command`): a redirect that is not followed, say, exits with 0
(`exitCode_notModified`).
-/

namespace MigrationClient.Client

open Http

/-- The exit code that is announced for what was observed. -/
def announcedExit : Option Response → Nat
  | none => 2
  | some r => if r.isSuccess then 0 else 1

/-- The exit code for a result, in the terms of what was observed. -/
theorem exitCode_ofResult (peer : Peer) (endpoint : String) (op : Operation) :
    (Outcome.ofResult (perform peer endpoint op).result).exitCode =
      match observed? peer endpoint op with
      | none => 2
      | some r => if r.status.isError then 1 else 0 := by
  rcases result_cases peer endpoint op with ⟨r, hr, ho, hs⟩ | ⟨refusal, r, hr, ho, hs⟩ |
    ⟨fault, hr, ho, -⟩
  · rw [hr, ho]
    simp [hs, Outcome.ofResult, Outcome.exitCode]
  · rw [hr, ho]
    simp [hs, Outcome.ofResult, Outcome.exitCode, Error.response?]
  · rw [hr, ho]
    rfl

/-- **The exit code of a command**, and when it is the announced one. -/
theorem exitCode_command (peer : Peer) (endpoint : String) (op : Operation) :
    ∃ o, command peer endpoint op = .ok o ∧
      (o.exitCode = 0 ↔ ∃ r, observed? peer endpoint op = some r ∧
        ¬ (400 ≤ r.status.code ∧ r.status.code ≤ 599)) ∧
      (o.exitCode = 1 ↔ ∃ r, observed? peer endpoint op = some r ∧
        400 ≤ r.status.code ∧ r.status.code ≤ 599) ∧
      (o.exitCode = 2 ↔ observed? peer endpoint op = none) ∧
      (o.exitCode = announcedExit (observed? peer endpoint op) ↔
        ∀ r, observed? peer endpoint op = some r →
          200 ≤ r.status.code ∧ r.status.code ≤ 299 ∨ 400 ≤ r.status.code ∧ r.status.code ≤ 599) := by
  refine ⟨_, command_eq peer endpoint op, ?_⟩
  rw [exitCode_ofResult]
  cases observed? peer endpoint op with
  | none => simp [announcedExit]
  | some r =>
    have hs : r.isSuccess = true ↔ 200 ≤ r.status.code ∧ r.status.code ≤ 299 :=
      Status.isSuccess_iff
    simp only [← Status.isError_iff, ← hs, announcedExit, Option.some.injEq, exists_eq_left',
      forall_eq', reduceCtorEq]
    cases he : r.status.isError with
    | true =>
      have : r.isSuccess = false := by
        rw [Bool.eq_false_iff, ne_eq, hs]
        have := Status.isError_iff.1 he
        omega
      simp [this]
    | false => cases r.isSuccess <;> simp

/-- A peer that says of everything that it has not been modified. -/
def unmodifiedPeer : Peer := .terse ⟨304, by decide, by decide⟩

theorem exitCode_notModified :
    ∃ o r, command unmodifiedPeer "http://[::1]:5000" .resources = .ok o ∧
      observed? unmodifiedPeer "http://[::1]:5000" .resources = some r ∧ r.status.code = 304 ∧
      o.exitCode = 0 ∧ announcedExit (some r) = 1 := by
  have ho : observed? unmodifiedPeer "http://[::1]:5000" .resources =
      some ⟨⟨304, by decide, by decide⟩, [], []⟩ := by decide +kernel
  refine ⟨_, _, command_eq .., ho, rfl, ?_, rfl⟩
  rw [exitCode_ofResult, ho]
  rfl

end MigrationClient.Client
