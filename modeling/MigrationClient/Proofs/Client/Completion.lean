import MigrationClient.Proofs.Client.Call
import MigrationClient.Proofs.Http.Exchange

/-!
# What a finished operation hands on

The error and the response that a receiver is told are of one of three kinds: a response alone, a
refusal together with the response that refused, or a fault alone. Which of them it is depends on
the response that was observed in the end (`observed?`) and on nothing else, and there is a fault
exactly when there was no such response (`result_eq_http_iff`). The main result,
`end_delivers_completion`, says so of **whatever is delivered, in whatever order the tasks run.**
-/

namespace MigrationClient.Client

open Http

section

variable (peer : Peer) (endpoint : String) (op : Operation)

/-- The response that was observed in the end and read completely, if there was one. -/
def observed? : Option Response :=
  match prepare (urlFor endpoint op.path) with
  | .error _ => none
  | .ok p => (exchange peer op.method p.url p.login).response?

/-- The reasons for which there is no complete response: the URL cannot be requested, the way to
a final response failed, or the body of that response broke off. -/
inductive Unanswered : Fault → Prop
  | unrequestable {fault : Fault} : prepare (urlFor endpoint op.path) = .error fault →
      Unanswered fault
  | failed {p : Prepared} {fault : Fault} : prepare (urlFor endpoint op.path) = .ok p →
      (exchange peer op.method p.url p.login).ending = .failed fault → Unanswered fault
  | truncated {p : Prepared} {status : Status} : prepare (urlFor endpoint op.path) = .ok p →
      (exchange peer op.method p.url p.login).ending = .truncated status →
      Unanswered .incompleteBody

/-- The three kinds of outcomes, and when each of them arises. -/
structure Completion (o : Outcome) : Prop where
  cases : (∃ r, o = ⟨none, some r⟩) ∨ (∃ refusal r, o = ⟨some (.refused refusal r), some r⟩) ∨
    ∃ fault, o = ⟨some (.http fault), none⟩
  accepted : ∀ r, o = ⟨none, some r⟩ ↔
    observed? peer endpoint op = some r ∧ ¬ (400 ≤ r.status.code ∧ r.status.code ≤ 599)
  refused : ∀ r, (∃ refusal, o = ⟨some (.refused refusal r), some r⟩) ↔
    observed? peer endpoint op = some r ∧ 400 ≤ r.status.code ∧ r.status.code ≤ 599
  unanswered : ∀ fault, o = ⟨some (.http fault), none⟩ ↔ Unanswered peer endpoint op fault
  carried : ∀ e, o.error = some e →
    e.response? = o.response ∧ e.status? = o.response.map (·.status)
  genuine : ∀ r, o.response = some r →
    ∃ a, peer.reply (perform peer endpoint op).requests = .answer a ∧ a.response? = some r

end

variable {peer : Peer} {endpoint : String} {op : Operation}

/-! ## The result of a request -/

theorem perform_of_error {fault : Fault} (h : prepare (urlFor endpoint op.path) = .error fault) :
    perform peer endpoint op = ⟨[], none, .error (.http fault)⟩ := by
  rw [perform, h]

theorem perform_of_ok {p : Prepared} (h : prepare (urlFor endpoint op.path) = .ok p) :
    perform peer endpoint op = .ofExchange (exchange peer op.method p.url p.login) := by
  rw [perform, h]

theorem requests_ofExchange (x : Exchange) : (Performance.ofExchange x).requests = x.requests := by
  unfold Performance.ofExchange
  split <;> rfl

/-- The first request is the one that was prepared, and there is a connection for it. -/
theorem exists_prepared_of_head? {first : Request}
    (h : (perform peer endpoint op).requests.head? = some first) :
    ∃ p, prepare (urlFor endpoint op.path) = .ok p ∧ peer.connects p.url = true ∧
      first = Request.make op.method p.url p.login none := by
  cases hp : prepare (urlFor endpoint op.path) with
  | error fault => simp [perform_of_error hp] at h
  | ok p =>
    rw [perform_of_ok hp, requests_ofExchange, head?_requests_exchange] at h
    split at h
    · next hc =>
      cases h
      exact ⟨p, rfl, hc, rfl⟩
    · cases h

/-- The result is a response that does not refuse, one that does, or a fault. -/
theorem result_cases (peer : Peer) (endpoint : String) (op : Operation) :
    (∃ r, (perform peer endpoint op).result = .ok r ∧ observed? peer endpoint op = some r ∧
      r.status.isError = false) ∨
    (∃ refusal r, (perform peer endpoint op).result = .error (.refused refusal r) ∧
      observed? peer endpoint op = some r ∧ r.status.isError = true) ∨
    (∃ fault, (perform peer endpoint op).result = .error (.http fault) ∧
      observed? peer endpoint op = none ∧ Unanswered peer endpoint op fault) := by
  cases hp : prepare (urlFor endpoint op.path) with
  | error fault =>
    exact .inr (.inr ⟨fault, by rw [perform_of_error hp], by rw [observed?, hp],
      .unrequestable hp⟩)
  | ok p =>
    have ho : observed? peer endpoint op =
        (exchange peer op.method p.url p.login).response? := by rw [observed?, hp]
    rw [perform_of_ok hp, ho, Exchange.response?]
    cases hx : (exchange peer op.method p.url p.login).ending with
    | failed fault =>
      exact .inr (.inr ⟨fault, by simp [Performance.ofExchange, hx], rfl, .failed hp hx⟩)
    | truncated status =>
      exact .inr (.inr ⟨_, by simp [Performance.ofExchange, hx], rfl, .truncated hp hx⟩)
    | complete url r reason =>
      by_cases he : r.status.isError = true
      · exact .inr (.inl ⟨⟨r.status, reason, url⟩, r,
          by simp [Performance.ofExchange, hx, he], rfl, he⟩)
      · exact .inl ⟨r, by simp [Performance.ofExchange, hx, he], rfl, by simpa using he⟩

theorem result_eq_ok_iff {r : Response} : (perform peer endpoint op).result = .ok r ↔
    observed? peer endpoint op = some r ∧ r.status.isError = false := by
  rcases result_cases peer endpoint op with ⟨b, hr, ho, hs⟩ | ⟨refusal, b, hr, ho, hs⟩ |
    ⟨fault, hr, ho, -⟩
  · rw [hr, ho]
    constructor
    · intro h
      cases h
      exact ⟨rfl, hs⟩
    · rintro ⟨h, -⟩
      cases h
      rfl
  · rw [hr, ho]
    refine ⟨fun h => (nomatch h), ?_⟩
    rintro ⟨h, hs'⟩
    cases h
    simp [hs] at hs'
  · rw [hr, ho]
    exact ⟨fun h => (nomatch h), fun h => nomatch h.1⟩

theorem result_eq_refused_iff {r : Response} :
    (∃ refusal, (perform peer endpoint op).result = .error (.refused refusal r)) ↔
      observed? peer endpoint op = some r ∧ r.status.isError = true := by
  rcases result_cases peer endpoint op with ⟨b, hr, ho, hs⟩ | ⟨refusal, b, hr, ho, hs⟩ |
    ⟨fault, hr, ho, -⟩
  · rw [hr, ho]
    refine ⟨fun ⟨_, h⟩ => (nomatch h), ?_⟩
    rintro ⟨h, hs'⟩
    cases h
    simp [hs] at hs'
  · rw [hr, ho]
    constructor
    · rintro ⟨f, h⟩
      cases h
      exact ⟨rfl, hs⟩
    · rintro ⟨h, -⟩
      cases h
      exact ⟨refusal, rfl⟩
  · rw [hr, ho]
    exact ⟨fun ⟨_, h⟩ => (nomatch h), fun h => nomatch h.1⟩

/-- **There is a fault exactly when there was no complete response.** -/
theorem result_eq_http_iff {fault : Fault} :
    (perform peer endpoint op).result = .error (.http fault) ↔
      Unanswered peer endpoint op fault := by
  constructor
  · intro h
    rcases result_cases peer endpoint op with ⟨r, hr, -, -⟩ | ⟨refusal, r, hr, -, -⟩ |
      ⟨f, hr, -, hf⟩
    all_goals
      rw [hr] at h
      cases h
    exact hf
  · rintro (hp | ⟨hp, hx⟩ | ⟨hp, hx⟩)
    · rw [perform_of_error hp]
    · simp [perform_of_ok hp, Performance.ofExchange, hx]
    · simp [perform_of_ok hp, Performance.ofExchange, hx]

theorem reply_of_observed? {r : Response} (h : observed? peer endpoint op = some r) :
    ∃ a, peer.reply (perform peer endpoint op).requests = .answer a ∧ a.response? = some r := by
  unfold observed? at h
  split at h
  · cases h
  · next p hp =>
    obtain ⟨a, ha, -, hr⟩ := reply_of_response? h
    exact ⟨a, by rw [perform_of_ok hp, requests_ofExchange, ha], hr⟩

/-! ## The outcome -/

/-- **An outcome is of exactly one of the three kinds.** -/
theorem completion_ofResult (peer : Peer) (endpoint : String) (op : Operation) :
    Completion peer endpoint op (.ofResult (perform peer endpoint op).result) where
  cases := by
    rcases result_cases peer endpoint op with ⟨r, hr, -, -⟩ | ⟨refusal, r, hr, -, -⟩ |
      ⟨fault, hr, -, -⟩
    · exact .inl ⟨r, by rw [hr]; rfl⟩
    · exact .inr (.inl ⟨refusal, r, by rw [hr]; rfl⟩)
    · exact .inr (.inr ⟨fault, by rw [hr]; rfl⟩)
  accepted r := by
    rw [← Status.isError_iff, Bool.not_eq_true, ← result_eq_ok_iff]
    exact Outcome.ofResult_inj (y := .ok r)
  refused r := by
    rw [← Status.isError_iff, ← result_eq_refused_iff]
    exact exists_congr fun f => Outcome.ofResult_inj (y := .error (.refused f r))
  unanswered f := by
    rw [← result_eq_http_iff]
    exact Outcome.ofResult_inj (y := .error (.http f))
  carried e he := by
    have hr := Outcome.response?_of_error he
    exact ⟨hr, by rw [Error.status?, hr]⟩
  genuine r h := by
    refine reply_of_observed? ?_
    rcases result_cases peer endpoint op with ⟨b, hr, ho, -⟩ | ⟨refusal, b, hr, ho, -⟩ |
      ⟨fault, hr, -, -⟩
    all_goals
      rw [hr] at h
      cases h
    · exact ho
    · exact ho

/-- **What `end` delivers is of exactly one of the three kinds**, and does not depend on the order
in which the tasks run: a call that is ended with a callback delivers one outcome. -/
theorem end_delivers_completion (peer : Peer) (endpoint : String) (op : Operation)
    (panics : Bool) :
    ∃ o, Completion peer endpoint op o ∧
      (∃ c, complete peer endpoint op (.callback panics) = some c ∧ c.delivered = [o]) ∧
      ∀ as c, (∀ a ∈ as, a.isAbort = false) →
        (Call.start endpoint op).run? (perform peer endpoint op) as = some c →
        ∀ told ∈ c.delivered, told = o := by
  refine ⟨_, completion_ofResult peer endpoint op, ⟨_, rfl, rfl⟩, fun as c has hc told ht => ?_⟩
  have hs := Call.sound_run hc has (Call.sound_start _ endpoint op)
  exact ((Call.orderly_of_sound hs).own told ht).2

end MigrationClient.Client
