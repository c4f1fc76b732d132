import MigrationClient.Http.Exchange

/-!
# How exchanges end

An exchange is a chain of requests, and only the last reply decides what it comes to. `Ends` lists
the ways there are, each with what the peer did last; **every exchange ends in one of them**
(`ends_exchange`). So a response that an exchange came to is the peer's own reply to all that was
sent (`reply_of_response?`), and the first request that was sent, if any was, is the one for the
URL that the exchange began with (`head?_requests_exchange`). It stays the only one unless the
reply to it leads to where there is a connection (`requests_exchange_of_not_led`). The status that
an exchange ends with is that of the reply to the last request, if it leads nowhere
(`status?_follow`).
-/

namespace MigrationClient.Http

/-- The response that an exchange came to, if it came to one. -/
def Exchange.response? (x : Exchange) : Option Response :=
  match x.ending with
  | .complete _ r _ => some r
  | _ => none

theorem Exchange.response?_eq_some_iff {x : Exchange} {r : Response} :
    x.response? = some r ↔ ∃ url reason, x.ending = .complete url r reason := by
  unfold Exchange.response?
  split <;> simp_all

/-- The ways in which an exchange ends, given the requests that were sent. -/
inductive Ends (peer : Peer) (requests : List Request) : Ending → Prop
  | unconnected {url first : Url} : peer.connects url = false →
      Ends peer requests (.failed (.notSent first))
  | broken {first : Url} : peer.reply requests = .broken →
      Ends peer requests (.failed (.notSent first))
  | unreadable {a : Answer} {first : Url} : peer.reply requests = .answer a →
      a.isReadable = false → Ends peer requests (.failed (.notSent first))
  | tooMany {a : Answer} {url next : Url} : peer.reply requests = .answer a →
      a.isReadable = true → a.location? url = some next →
      Ends peer requests (.failed (.tooManyRedirects url.withoutFragment))
  | foreign {a : Answer} {url next : Url} : peer.reply requests = .answer a →
      a.isReadable = true → a.location? url = some next → next.isHttp = false →
      Ends peer requests (.failed (.unsupportedUrl next))
  | truncated {a : Answer} {url : Url} : peer.reply requests = .answer a →
      a.isReadable = true → a.location? url = none → a.response? = none →
      Ends peer requests (.truncated a.status)
  | answered {a : Answer} {url : Url} {r : Response} : peer.reply requests = .answer a →
      a.isReadable = true → a.location? url = none → a.response? = some r →
      Ends peer requests (.complete url.withoutFragment r a.unusualReason)

section

variable (peer : Peer) (first : Url) (remaining : Nat) (sent : List Request) (method : Method)
  (url : Url) (login : Option Login) (referer : Option Url)

theorem ends_follow :
    Ends peer (follow peer first remaining sent method url login referer).requests
      (follow peer first remaining sent method url login referer).ending := by
  -- One case for each way out of `follow`; a redirect that is followed is the only recursive one.
  fun_induction follow peer first remaining sent method url login referer
  case case1 hc => exact .unconnected (by simpa using hc)
  case case2 hr => exact .broken hr
  case case3 hr ha => exact .unreadable hr (by simpa using ha)
  case case4 hr ha hl hb => exact .truncated hr (by simpa using ha) hl hb
  case case5 hr ha hl _ hb => exact .answered hr (by simpa using ha) hl hb
  case case6 hr ha _ hl => exact .tooMany hr (by simpa using ha) hl
  case case7 ih => exact ih
  case case8 hr ha _ hl _ hn => exact .foreign hr (by simpa using ha) hl (by simpa using hn)

/-- What was sent stays sent. -/
theorem prefix_requests_follow :
    sent <+: (follow peer first remaining sent method url login referer).requests := by
  fun_induction follow peer first remaining sent method url login referer
  case case1 => exact List.prefix_rfl
  case case7 ih => exact (List.prefix_append ..).trans ih
  all_goals exact List.prefix_append ..

theorem prefix_requests_follow_of_connects (h : peer.connects url = true) :
    sent ++ [Request.make method url login referer] <+:
      (follow peer first remaining sent method url login referer).requests := by
  fun_cases follow peer first remaining sent method url login referer
  case case1 hc => simp [h] at hc
  case case7 => exact prefix_requests_follow ..
  all_goals exact List.prefix_rfl

end

/-- **Every exchange ends in one of these ways.** -/
theorem ends_exchange (peer : Peer) (method : Method) (url : Url) (login : Option Login) :
    Ends peer (exchange peer method url login).requests (exchange peer method url login).ending :=
  ends_follow ..

/-- **A response is the reply to everything that was sent.** -/
theorem reply_of_response? {peer : Peer} {method : Method} {url : Url} {login : Option Login}
    {r : Response} (h : (exchange peer method url login).response? = some r) :
    ∃ a, peer.reply (exchange peer method url login).requests = .answer a ∧
      a.isReadable = true ∧ a.response? = some r := by
  obtain ⟨last, reason, hx⟩ := Exchange.response?_eq_some_iff.1 h
  have he := ends_exchange peer method url login
  rw [hx] at he
  cases he with
  | answered hr ha hl hb => exact ⟨_, hr, ha, hb⟩

/-- The first request of an exchange is the one for its URL; without a connection there is none. -/
theorem head?_requests_exchange (peer : Peer) (method : Method) (url : Url)
    (login : Option Login) :
    (exchange peer method url login).requests.head? =
      if peer.connects url then some (Request.make method url login none) else none := by
  unfold exchange
  split
  · next hc =>
    obtain ⟨rest, hrest⟩ := prefix_requests_follow_of_connects peer url maxRedirects [] method url
      login none hc
    simp [← hrest]
  · next hc =>
    unfold follow
    simp [hc]

/-! ## Redirects -/

/-- Where the reply to all that was sent leads, if it is a redirect that can be read. -/
def Peer.redirect? (peer : Peer) (sent : List Request) (url : Url) : Option Url :=
  match peer.reply sent with
  | .answer a => if a.isReadable then a.location? url else none
  | _ => none

/-- Where there is a connection, the URL can be requested. -/
theorem Peer.isHttp_of_connects {peer : Peer} {url : Url} (h : peer.connects url = true) :
    url.isHttp = true := by
  rw [connects, Bool.and_eq_true] at h
  exact h.2

theorem requests_follow_of_not_connects {peer : Peer} {url : Url}
    (h : peer.connects url = false) (first : Url) (remaining : Nat) (sent : List Request)
    (method : Method) (login : Option Login) (referer : Option Url) :
    (follow peer first remaining sent method url login referer).requests = sent := by
  unfold follow
  simp [h]

theorem Peer.redirect?_eq_some_iff {peer : Peer} {sent : List Request} {url next : Url} :
    peer.redirect? sent url = some next ↔
      ∃ a, peer.reply sent = .answer a ∧ a.isReadable = true ∧ a.location? url = some next := by
  unfold redirect?
  cases peer.reply sent <;> simp

/-- An answer leads to what its location names, read where the answer was given. -/
theorem Answer.location?_eq_some_iff {a : Answer} {base next : Url} :
    a.location? base = some next ↔ a.status.code ∈ [301, 302, 303, 307, 308] ∧
      ∃ value text url, Header.find? (a.headers.map Header.lower) "location" = some value ∧
        Text.Utf8.toString? value = some text ∧ (Url.join base text).toOption = some url ∧
        url.named? = some next := by
  unfold location?
  split
  · next hs => simp [List.contains_iff_mem.1 hs, Option.bind_eq_some_iff]
  · next hs => simp [mt List.contains_iff_mem.2 hs]

/-- What an answer leads to on the web can be requested. -/
theorem Answer.isRequestable_of_location? {a : Answer} {base next : Url}
    (h : a.location? base = some next) (hnext : next.isHttp = true) :
    next.isRequestable = true := by
  obtain ⟨-, _, _, _, -, -, -, hnamed⟩ := location?_eq_some_iff.1 h
  exact Url.isRequestable_of_named? hnamed hnext

@[simp] theorem Request.target_make (method : Method) (url : Url) (login : Option Login)
    (referer : Option Url) : (Request.make method url login referer).target = url.withoutFragment :=
  rfl

@[simp] theorem Request.method_make (method : Method) (url : Url) (login : Option Login)
    (referer : Option Url) : (Request.make method url login referer).method = method := rfl

/-- No fragment is told to where a URL leads. -/
theorem Request.make_referer_withoutFragment (method : Method) (login : Option Login)
    (old new : Url) : Request.make method new login (refererFor old.withoutFragment new) =
      Request.make method new login (refererFor old new) := by
  unfold refererFor
  by_cases h : old.scheme = "https" ∧ new.scheme = "http"
  · rw [if_pos h, if_pos (show old.withoutFragment.scheme = "https" ∧ new.scheme = "http" from h)]
  · rw [if_neg h, if_neg (show ¬ (old.withoutFragment.scheme = "https" ∧ _) from h)]
    rfl

/-- A request without a URL that led to it does not name one. -/
theorem Request.find?_referer_make (method : Method) (url : Url) (login : Option Login) :
    Header.find? (Request.make method url login none).headers "referer" = none := by
  have hname : ∀ name ∈ ["accept", "host", "authorization"],
      Text.Utf8.ofString name ≠ Text.Utf8.ofString "referer" := by decide
  refine Header.find?_eq_none_iff.2 fun h hh => ?_
  rw [Request.make, Header.mem_sort] at hh
  simp only [List.mem_append, List.mem_cons, List.not_mem_nil, Option.map_none, Option.toList_none,
    or_false, Option.mem_toList, Option.map_eq_some_iff] at hh
  rcases hh with (rfl | rfl) | ⟨l, -, rfl⟩
  all_goals exact hname _ (by decide)

/-- Reading stays reading. -/
@[simp] theorem Method.redirected_get (status : Status) : Method.get.redirected status = .get := by
  simp [redirected]

/-- Where the reply to all that was sent leads from the last request. -/
def Peer.leadsOn? (peer : Peer) (sent : List Request) : Option Url :=
  sent.getLast?.bind fun q => peer.redirect? sent q.target

theorem Peer.leadsOn?_concat (peer : Peer) (sent : List Request) (method : Method) (url : Url)
    (login : Option Login) (referer : Option Url) :
    peer.leadsOn? (sent ++ [Request.make method url login referer]) =
      peer.redirect? (sent ++ [Request.make method url login referer]) url := by
  rw [leadsOn?, List.getLast?_concat]
  rfl

section

variable {peer : Peer} {method : Method} {url : Url} {login : Option Login}

/-- **A request stays the only one if the reply to it leads to no connection.** -/
theorem requests_exchange_of_not_led (hc : peer.connects url = true)
    (h : ∀ next, peer.redirect? [Request.make method url login none] url = some next →
      peer.connects next = false) :
    (exchange peer method url login).requests = [Request.make method url login none] := by
  unfold exchange
  fun_cases follow peer url maxRedirects [] method url login none
  case case1 hno => simp [hc] at hno
  case case7 _ _ a ha hread next hl _ _ =>
    refine requests_follow_of_not_connects (h next ?_) ..
    exact Peer.redirect?_eq_some_iff.2 ⟨a, ha, by simpa using hread, hl⟩
  all_goals rfl

/-- **What a redirect leads to is requested next**, if there is a connection. -/
theorem requests_exchange_of_led {next : Url} (hc : peer.connects url = true)
    (hnext : peer.redirect? [Request.make method url login none] url = some next)
    (hled : peer.connects next = true) :
    ∃ method' login' referer, [Request.make method url login none,
      Request.make method' next login' referer] <+: (exchange peer method url login).requests := by
  obtain ⟨a, ha, hread, hl⟩ := Peer.redirect?_eq_some_iff.1 hnext
  have hstep : exchange peer method url login = follow peer url (maxRedirects - 1)
      [Request.make method url login none] (method.redirected a.status) next
      (if sameServer url next then login else none) (refererFor url next) := by
    rw [exchange, follow]
    simp [hc, ha, hread, hl, Peer.isHttp_of_connects hled, maxRedirects]
  rw [hstep]
  exact ⟨_, _, _, prefix_requests_follow_of_connects peer url _ [_] _ next _ _ hled⟩

end

/-! ## Final heads -/

/-- The status of the head of the reply to all that was sent, if there is one that can be read and
does not lead on. -/
def Peer.finalHead? (peer : Peer) (sent : List Request) : Option Status :=
  sent.getLast?.bind fun q =>
    match peer.reply sent with
    | .broken => none
    | .answer a => if a.isReadable && (a.location? q.target).isNone then some a.status else none

theorem Peer.finalHead?_concat (peer : Peer) (sent : List Request) (method : Method) (url : Url)
    (login : Option Login) (referer : Option Url) :
    peer.finalHead? (sent ++ [Request.make method url login referer]) =
      match peer.reply (sent ++ [Request.make method url login referer]) with
      | .broken => none
      | .answer a => if a.isReadable && (a.location? url).isNone then some a.status else none := by
  rw [finalHead?, List.getLast?_concat]
  rfl

/-- What leads on is not final. -/
theorem Peer.finalHead?_of_leadsOn? {peer : Peer} {sent : List Request}
    (h : (peer.leadsOn? sent).isSome = true) : peer.finalHead? sent = none := by
  obtain ⟨next, hnext⟩ := Option.isSome_iff_exists.1 h
  obtain ⟨q, hq, hled⟩ := Option.bind_eq_some_iff.1 hnext
  obtain ⟨a, ha, hread, hl⟩ := redirect?_eq_some_iff.1 hled
  simp [finalHead?, hq, ha, hread, hl]

/-- The status that an exchange ended with. -/
def Ending.status? : Ending → Option Status
  | .failed _ => none
  | .truncated status => some status
  | .complete _ r _ => some r.status

/-- **An exchange ends with the final head**, if one was received. -/
theorem status?_follow (peer : Peer) (first : Url) (remaining : Nat) (sent : List Request)
    (method : Method) (url : Url) (login : Option Login) (referer : Option Url)
    (h : sent = [] ∨ (peer.leadsOn? sent).isSome = true) :
    (follow peer first remaining sent method url login referer).ending.status? =
      peer.finalHead? (follow peer first remaining sent method url login referer).requests := by
  fun_induction follow peer first remaining sent method url login referer
  case case1 =>
    rcases h with rfl | h
    · rfl
    · exact (Peer.finalHead?_of_leadsOn? h).symm
  case case7 hreply hread next hnext _ _ ih =>
    refine ih (.inr ?_)
    simp_all +zetaDelta [Peer.leadsOn?_concat, Peer.redirect?]
  case case5 hb =>
    simp_all +zetaDelta [Peer.finalHead?_concat, Ending.status?, Answer.status_of_response? hb]
  -- The reply to the last request tells whether there is a final head.
  all_goals simp_all +zetaDelta [Peer.finalHead?_concat, Ending.status?]

/-! ## Steady peers -/

/-- The peer that accepts every connection and always gives the same answer. -/
def Peer.always (a : Answer) : Peer := ⟨fun _ => true, fun _ => .answer a⟩

/-- The peer that has no more to say than a status. -/
def Peer.terse (status : Status) : Peer := .always ⟨status, none, [], some []⟩

end MigrationClient.Http
