import MigrationClient.Proofs.Client.Completion

/-!
# How many requests an operation makes

An operation asks for one thing at one URL, and the first request that is sent asks for just that
(`Asks`). Whether it stays the only one lies with the peer: a redirect that can be read is followed
to wherever there is a connection, with another target and maybe another verb. So **an operation is
one request, and a response the reply to it, exactly if the first reply leads to no connection**
(`single_request_iff`).
-/

namespace MigrationClient.Client

open Http

/-- What an operation asks for: its verb, at the URL that was spelled. Credentials are sent apart
from the URL, and a fragment is not sent. -/
structure Asks (op : Operation) (u : Url) (q : Request) : Prop where
  verb : q.method = op.method
  target : q.target.withoutCredentials = u.withoutFragment.withoutCredentials

/-- Where the reply to the first request of an operation leads, if it is a redirect. -/
def led? (peer : Peer) (endpoint : String) (op : Operation) : Option Url :=
  match prepare (urlFor endpoint op.path) with
  | .error _ => none
  | .ok p => peer.redirect? [Request.make op.method p.url p.login none] p.url

variable {peer : Peer} {endpoint : String} {op : Operation} {u : Url} {p : Prepared}

/-- What is prepared differs from what was spelled in its credentials only. -/
theorem asks_make (hu : Url.parse (urlFor endpoint op.path) = .ok u)
    (hp : prepare (urlFor endpoint op.path) = .ok p) :
    Asks op u (Request.make op.method p.url p.login none) := by
  obtain ⟨v, hv, -, hurl, -⟩ := prepare_eq_ok hp
  obtain rfl : v = u := Except.ok.inj (hv.symm.trans hu)
  rw [hurl]
  split
  · refine ⟨rfl, ?_⟩
    simp [Request.make, Url.withoutFragment, Url.withoutCredentials, Function.comp_def]
  · exact ⟨rfl, rfl⟩

theorem requests_of_prepared (hp : prepare (urlFor endpoint op.path) = .ok p) :
    (perform peer endpoint op).requests = (exchange peer op.method p.url p.login).requests := by
  rw [perform_of_ok hp, requests_ofExchange]

theorem led?_of_prepared (hp : prepare (urlFor endpoint op.path) = .ok p) :
    led? peer endpoint op =
      peer.redirect? [Request.make op.method p.url p.login none] p.url := by
  rw [led?, hp]

/-- Where the first reply leads, the second request goes. -/
theorem second_request (hu : Url.parse (urlFor endpoint op.path) = .ok u)
    (hp : prepare (urlFor endpoint op.path) = .ok p) (hc : peer.connects p.url = true)
    {next : Url} (hled : led? peer endpoint op = some next) (hnext : peer.connects next = true) :
    ∃ q q' rest, (perform peer endpoint op).requests = q :: q' :: rest ∧ Asks op u q ∧
      q'.target = next.withoutFragment := by
  rw [led?_of_prepared hp] at hled
  obtain ⟨m, l, referer, rest, hrest⟩ := requests_exchange_of_led hc hled hnext
  exact ⟨_, _, rest, (requests_of_prepared hp).trans hrest.symm, asks_make hu hp, rfl⟩

/-- A request is the only one if there is no connection for what the reply to it leads to. -/
theorem only_request (hp : prepare (urlFor endpoint op.path) = .ok p)
    (hc : peer.connects p.url = true)
    (hled : ∀ next, led? peer endpoint op = some next → peer.connects next = false) :
    (perform peer endpoint op).requests = [Request.make op.method p.url p.login none] := by
  rw [led?_of_prepared hp] at hled
  rw [requests_of_prepared hp]
  exact requests_exchange_of_not_led hc hled

/-- **An operation is one request exactly if there is a connection for its URL and none for what
the first reply leads to**; if there is one, the second request goes there. -/
theorem single_request_iff (hu : Url.parse (urlFor endpoint op.path) = .ok u) :
    ((∃ q, (perform peer endpoint op).requests = [q] ∧ Asks op u q ∧
        ∀ r, observed? peer endpoint op = some r →
          ∃ a, peer.reply [q] = .answer a ∧ a.response? = some r) ↔
      ∃ p, prepare (urlFor endpoint op.path) = .ok p ∧ peer.connects p.url = true ∧
        ∀ next, led? peer endpoint op = some next → peer.connects next = false) ∧
    ∀ p next, prepare (urlFor endpoint op.path) = .ok p → peer.connects p.url = true →
      led? peer endpoint op = some next → peer.connects next = true →
      ∃ q q' rest, (perform peer endpoint op).requests = q :: q' :: rest ∧ Asks op u q ∧
        q'.target = next.withoutFragment := by
  refine ⟨⟨?_, ?_⟩, fun _ _ hp hc => second_request hu hp hc⟩
  · rintro ⟨q, hq, -, -⟩
    obtain ⟨p, hp, hc, -⟩ := exists_prepared_of_head? (congrArg List.head? hq)
    refine ⟨p, hp, hc, fun next hn => ?_⟩
    rw [← Bool.not_eq_true]
    intro hnext
    obtain ⟨_, _, _, htwo, -⟩ := second_request hu hp hc hn hnext
    cases hq.symm.trans htwo
  · rintro ⟨p, hp, hc, hled⟩
    have hone := only_request hp hc hled
    refine ⟨_, hone, asks_make hu hp, fun r ho => ?_⟩
    rw [← hone]
    exact reply_of_observed? ho

/-! ## Peers that move things -/

/-- A peer that replies to the first request that what it asks for was moved, and to any other with
a success. The headers say where to. -/
def movedPeer (headers : List Header) : Peer where
  accepts _ := true
  reply sent := .answer
    ⟨if sent.length = 1 then ⟨302, by decide, by decide⟩ else ⟨204, by decide, by decide⟩, none,
      headers, some []⟩

/-- The headers that say that what is asked for was moved to some place. -/
def movedTo (place : String) : List Header := [.ofText "location" place.toList]

/-- If it was moved to where no request can go, the redirect is the response. -/
theorem single_request_unmoved :
    ∃ q, (perform (movedPeer (movedTo "x:/")) "https://[::1]:5000" .reset).requests = [q] ∧
      q.method = .post ∧ observed? (movedPeer (movedTo "x:/")) "https://[::1]:5000" .reset =
        some ⟨⟨302, by decide, by decide⟩, movedTo "x:/", []⟩ := by
  have hu : Url.parse (urlFor "https://[::1]:5000" Operation.reset.path) = .ok ⟨"https",
      some ⟨none, some (.ipv6 [0, 0, 0, 0, 0, 0, 0, 1]), some 5000⟩, .segments ["reset"], none,
      none⟩ := by decide +kernel
  have hp : prepare (urlFor "https://[::1]:5000" Operation.reset.path) = .ok ⟨⟨"https",
      some ⟨none, some (.ipv6 [0, 0, 0, 0, 0, 0, 0, 1]), some 5000⟩, .segments ["reset"], none,
      none⟩, none⟩ := by decide +kernel
  have hled : led? (movedPeer (movedTo "x:/")) "https://[::1]:5000" .reset = none := by
    decide +kernel
  obtain ⟨q, hq, hasks, -⟩ := (single_request_iff hu).1.2
    ⟨_, hp, rfl, fun next hn => by rw [hled] at hn; cases hn⟩
  exact ⟨q, hq, hasks.verb, by decide +kernel⟩

/-- If a request can go there, what is asked for is done elsewhere, and with another verb. -/
theorem moved_request :
    (perform (movedPeer (movedTo "/resources")) "http://[::1]:5000"
        .reset).requests.map (fun q => (q.method, q.target.path)) =
      [(.post, .segments ["reset"]), (.get, .segments ["resources"])] ∧
    (observed? (movedPeer (movedTo "/resources")) "http://[::1]:5000"
      .reset).map (·.status.code) = some 204 := by
  constructor
  · decide +kernel
  · decide +kernel

end MigrationClient.Client
