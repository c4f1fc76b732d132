import MigrationClient.Proofs.Client.Agreement
import MigrationClient.Proofs.Client.Completion
import MigrationClient.Proofs.Http.Chain

/-!
# Operations that are redirected

A peer may answer every request with a redirect, to any place, and it may mix redirects that keep
the verb with others that turn it into `GET`. Whatever it does, an operation sends eleven requests
at most, never writes once it has begun to read, does not tell over an open connection where it was
on a secured one, and ends in a fault without a response if the last of the eleven leads on
(`Redirected`). So **redirects come to an end, and nothing that reads is led to write**
(`redirects_end`).
-/

namespace MigrationClient.Client

open Http

/-- What redirects can make of an operation: a chain of requests that ends, and an outcome that
tells whether it was cut off. -/
structure Redirected (peer : Peer) (endpoint : String) (op : Operation) (o : Outcome) : Prop where
  chain : Chain peer (perform peer endpoint op).requests
  bounded : (perform peer endpoint op).requests.length ≤ 11
  verbs : (perform peer endpoint op).requests.Pairwise
    fun q r => q.method = .get → r.method = .get
  reading : op = .resources → ∀ q ∈ (perform peer endpoint op).requests, q.method = .get
  requestable : ∀ q ∈ (perform peer endpoint op).requests, q.target.isRequestable = true
  discreet : (perform peer endpoint op).requests.IsChain fun q r =>
    q.target.scheme = "https" → r.target.scheme = "http" →
      Header.find? r.headers "referer" = none
  cutOff : ((perform peer endpoint op).requests.length = 11 ∧
      (peer.leadsOn? (perform peer endpoint op).requests).isSome = true) ↔
    ∃ url, o = ⟨some (.http (.tooManyRedirects url)), none⟩
  restless : peer.Restless → ∀ p, prepare (urlFor endpoint op.path) = .ok p →
    peer.connects p.url = true → ∃ url, o = ⟨some (.http (.tooManyRedirects url)), none⟩

variable {peer : Peer} {endpoint : String} {op : Operation} {p : Prepared}

/-! ## The requests of an operation -/

theorem chain_perform (peer : Peer) (endpoint : String) (op : Operation) :
    Chain peer (perform peer endpoint op).requests := by
  cases hp : prepare (urlFor endpoint op.path) with
  | error fault =>
    rw [perform_of_error hp]
    exact .nil
  | ok p =>
    rw [perform_of_ok hp, requests_ofExchange]
    exact chain_follow _ _ _ [] _ _ _ _ (.first _)

theorem length_requests_perform_le (peer : Peer) (endpoint : String) (op : Operation) :
    (perform peer endpoint op).requests.length ≤ 11 := by
  cases hp : prepare (urlFor endpoint op.path) with
  | error fault => simp [perform_of_error hp]
  | ok p =>
    rw [perform_of_ok hp, requests_ofExchange]
    exact length_requests_follow_le peer p.url maxRedirects [] op.method p.url p.login none

/-! ## The limit -/

/-- A text that cannot be requested is no URL, or none that is supported. -/
theorem prepare_eq_error {text : String} {fault : Fault} (h : prepare text = .error fault) :
    fault = .malformedUrl ∨ ∃ url, fault = .unsupportedUrl url := by
  unfold prepare at h
  split at h
  · cases h
    exact .inl rfl
  · next u hu =>
    simp only at h
    generalize (if u.clearCredentials?.isSome then u.withoutCredentials else u) = url at h
    by_cases hr : url.isRequestable = true
    · rw [if_pos hr] at h
      cases h
    · rw [if_neg hr] at h
      cases h
      exact .inr ⟨url, rfl⟩

theorem result_ofExchange_tooMany {x : Exchange} {url : Url} :
    (Performance.ofExchange x).result = .error (.http (.tooManyRedirects url)) ↔
      x.ending = .failed (.tooManyRedirects url) := by
  unfold Performance.ofExchange
  split
  · next hx => simp [hx]
  · next hx => simp [hx]
  · next hx =>
    rw [hx]
    dsimp only
    split <;> simp

/-- **The fault of too many redirects tells that eleven requests were sent and the last one leads
on.** -/
theorem tooManyRedirects_iff :
    (∃ url, (perform peer endpoint op).result = .error (.http (.tooManyRedirects url))) ↔
      (perform peer endpoint op).requests.length = 11 ∧
        (peer.leadsOn? (perform peer endpoint op).requests).isSome = true := by
  cases hp : prepare (urlFor endpoint op.path) with
  | error fault =>
    rw [perform_of_error hp]
    refine iff_of_false ?_ (by simp)
    rintro ⟨url, h⟩
    cases h
    rcases prepare_eq_error hp with h | ⟨_, h⟩ <;> cases h
  | ok p =>
    simp only [perform_of_ok hp, result_ofExchange_tooMany, requests_ofExchange]
    rw [exchange, tooManyRedirects_follow_iff]
    rfl

/-- What redirects make of an operation is told by what its request came to. -/
theorem redirected_ofResult (peer : Peer) (endpoint : String) (op : Operation) :
    Redirected peer endpoint op (.ofResult (perform peer endpoint op).result) where
  chain := chain_perform peer endpoint op
  bounded := length_requests_perform_le peer endpoint op
  verbs := (chain_perform peer endpoint op).verbs
  reading := by
    rintro rfl
    refine (chain_perform peer endpoint .resources).verb_of_head? fun q hq => ?_
    obtain ⟨p, -, -, rfl⟩ := exists_prepared_of_head? hq
    rfl
  requestable := by
    refine (chain_perform peer endpoint op).requestable fun q hq => ?_
    obtain ⟨p, hp, -, rfl⟩ := exists_prepared_of_head? hq
    obtain ⟨-, -, -, -, hrequestable⟩ := prepare_eq_ok hp
    exact Url.isRequestable_withoutFragment hrequestable
  discreet := (chain_perform peer endpoint op).discreet
  cutOff := by
    rw [← tooManyRedirects_iff]
    exact exists_congr fun url => (Outcome.ofResult_inj (y := .error (.http _))).symm
  restless h p hp hc := by
    obtain ⟨last, hlast⟩ : ∃ last, (exchange peer op.method p.url p.login).ending =
        .failed (.tooManyRedirects last) := tooManyRedirects_of_restless h hc ..
    exact ⟨last, by rw [perform_of_ok hp, result_ofExchange_tooMany.2 hlast]; rfl⟩

/-- A call has sent what its request sent, or nothing yet. -/
theorem Call.requests_of_sound {p : Performance} {c : Call} (hc : c.Sound p) :
    c.requests = [] ∨ c.requests = p.requests := by
  unfold requests
  rcases hc.request with hr | hr
  · exact .inl (by rw [hr])
  · exact .inr (by rw [hr])

/-- **Redirects come to an end, and nothing that reads is led to write.** A command always comes to
an outcome, which tells what redirects made of its operation; in whatever order the tasks of a call
for the same operation run, nobody learns of another outcome, and a callback is always told in the
end. -/
theorem redirects_end (peer : Peer) (endpoint : String) (op : Operation) :
    ∃ o, command peer endpoint op = .ok o ∧ Redirected peer endpoint op o ∧
      ∀ c, Call.Reached peer endpoint op c →
        c.requests.length ≤ 11 ∧ c.delivered.length ≤ 1 ∧ (∀ told ∈ c.delivered, told = o) ∧
        (∀ x, c.awaited? = some x → .ofResult x = o) ∧
        ∃ as d, (∀ a ∈ as, a.isTask = true) ∧ c.run? (perform peer endpoint op) as = some d ∧
          d.awaited?.isSome = true ∧
          ∀ panics, c.receiver? = some (.callback panics) → d.delivered = [o] := by
  refine ⟨_, command_eq peer endpoint op, redirected_ofResult peer endpoint op, fun c hc => ?_⟩
  have hsound := Call.sound_of_reached hc
  have horderly := Call.orderly_of_sound hsound
  obtain ⟨as, d, has, hd, hawaited, htold, -⟩ := Call.exists_told hc
  refine ⟨?_, horderly.once, fun told h => (horderly.own told h).2, fun x hx => ?_,
    as, d, has, hd, by rw [hawaited]; rfl, htold⟩
  · rcases Call.requests_of_sound hsound with h | h
    · simp [h]
    · rw [h]
      exact length_requests_perform_le peer endpoint op
  · rw [Call.awaited?_of_sound hsound] at hx
    obtain ⟨-, -, rfl⟩ := Option.map_eq_some_iff.1 hx
    rfl

/-- A service that sends everything on to one place is asked eleven times; only the first of them
goes over a secured connection, so the second one tells nothing of it. -/
example : (perform Peer.circling "https://[::1]:5000" .reset).requests.map (·.target.scheme) =
    "https" :: List.replicate 10 "http" := by decide +kernel

end MigrationClient.Client
