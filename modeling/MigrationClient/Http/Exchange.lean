import MigrationClient.Http.Peer

/-!
# Exchanges

What one request comes to: it is sent, redirects are followed, and in the end there is a response,
the head of one whose body broke off, or a fault. The body of a redirect that is followed is not
waited for. Every redirect that is followed is counted, so an exchange ends after at most
`maxRedirects` of them (`length_requests_follow_le`).
-/

namespace MigrationClient.Http

/-- How an exchange ended. -/
inductive Ending where
  | failed (fault : Fault)
  /-- A head was received, but not all of the body. -/
  | truncated (status : Status)
  /-- A response was received from a URL; the reason is told if it is not the standard one. -/
  | complete (url : Url) (response : Response) (reason : Option String)
  deriving DecidableEq, Repr

/-- The requests that were sent, from first to last, and the ending. -/
structure Exchange where
  requests : List Request
  ending : Ending
  deriving DecidableEq, Repr

/-- How many redirects are followed. -/
def maxRedirects : Nat := 10

/-- The method of the request that a redirect leads to. -/
def Method.redirected (m : Method) (status : Status) : Method :=
  if [301, 302, 303].contains status.code then .get else m

/-- Whether two URLs are served by the same host at the same port. -/
def sameServer (a b : Url) : Bool := a.host? = b.host? && a.port? = b.port?

/-- Whether a connection for a URL comes about. -/
def Peer.connects (peer : Peer) (url : Url) : Bool := peer.accepts url && url.isHttp

/-- The URL that is named when one is left for another. -/
def refererFor (old new : Url) : Option Url :=
  if old.scheme = "https" ∧ new.scheme = "http" then none else some old

/-- Sends a request and follows at most `remaining` redirects from there. `first` is the URL
that the exchange began with, and `sent` the requests before this one. -/
def follow (peer : Peer) (first : Url) (remaining : Nat) (sent : List Request) (method : Method)
    (url : Url) (login : Option Login) (referer : Option Url) : Exchange :=
  if !peer.connects url then ⟨sent, .failed (.notSent first)⟩
  else
    let sent := sent ++ [Request.make method url login referer]
    match peer.reply sent with
    | .broken => ⟨sent, .failed (.notSent first)⟩
    | .answer a =>
      if !a.isReadable then ⟨sent, .failed (.notSent first)⟩
      else
        match a.location? url with
        | none =>
          match a.response? with
          | none => ⟨sent, .truncated a.status⟩
          | some r => ⟨sent, .complete url.withoutFragment r a.unusualReason⟩
        | some next =>
          match remaining with
          | 0 => ⟨sent, .failed (.tooManyRedirects url.withoutFragment)⟩
          | remaining + 1 =>
            if next.isHttp then
              follow peer first remaining sent (method.redirected a.status) next
                (if sameServer url next then login else none) (refererFor url next)
            else ⟨sent, .failed (.unsupportedUrl next)⟩

/-- The whole exchange for a URL. -/
def exchange (peer : Peer) (method : Method) (url : Url) (login : Option Login) : Exchange :=
  follow peer url maxRedirects [] method url login none

/-- **An exchange is bounded**: at most one request more than redirects that may be followed. -/
theorem length_requests_follow_le (peer : Peer) (first : Url) (remaining : Nat)
    (sent : List Request) (method : Method) (url : Url) (login : Option Login)
    (referer : Option Url) :
    (follow peer first remaining sent method url login referer).requests.length ≤
      sent.length + remaining + 1 := by
  fun_induction follow peer first remaining sent method url login referer
  case case1 => simp only; omega
  case case7 ih =>
    refine Nat.le_trans ih ?_
    simp +zetaDelta only [List.length_append, List.length_singleton]
    omega
  -- Nothing is sent after a request whose reply is not followed.
  all_goals simp +zetaDelta only [List.length_append, List.length_singleton]; omega

end MigrationClient.Http
