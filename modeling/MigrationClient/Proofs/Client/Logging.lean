import MigrationClient.Proofs.Client.Completion

/-!
# What is logged of an operation

Three events can be logged of an operation: that it begins, the status of the final head, and an
error that nobody was told of (`traceOf`). They come from the caller and from two tasks, and each
has a condition of its own. Still they always stand in this order, because the second task waits
for the first: a call has logged its beginning, then what its request logged, and then what the
second task logged (`Traced`), and every step keeps this. So **the log of a call is told by what was
received and by who was to be told, in whatever order the tasks run** (`log_of_call`).
-/

namespace MigrationClient.Client

open Http

/-- The events of an operation with a verb at a URL: its beginning, the final head if one was
received, and the error that nobody was told of if there is one. -/
def traceOf (verb url : String) (head : Option Status) (untold : Option Error) :
    List Log.Event :=
  ⟨.debug, requestTarget, s!"Dispatching {verb} {url}"⟩ ::
    ((head.map fun status =>
        ⟨.debug, requestTarget, s!"Response status: {String.ofList status.line}"⟩).toList ++
      (untold.map fun e => ⟨.warn, requestTarget,
        s!"{verb} {url} failed with no callback attached: {e.message}"⟩).toList)

theorem traceOf_eq (endpoint : String) (op : Operation) (head : Option Status)
    (untold : Option Error) : traceOf op.method.name (endpoint ++ op.path) head untold =
      dispatched endpoint op ::
        ((head.map answered).toList ++ (untold.map (unobserved endpoint op)).toList) := by
  cases head <;> cases untold <;>
    simp [traceOf, dispatched, answered, unobserved, label, urlFor, toString, String.append_assoc]

/-- Without an error that nobody was told of there is no warning. -/
theorem level_of_mem_traceOf {verb url : String} {head : Option Status} {e : Log.Event}
    (h : e ∈ traceOf verb url head none) : e.level ≠ .warn := by
  cases head with
  | none =>
    obtain rfl : e = _ := by simpa [traceOf] using h
    simp
  | some status =>
    simp only [traceOf, Option.map_none, Option.map_some, Option.toList_none, Option.toList_some,
      List.append_nil, List.mem_cons, List.not_mem_nil, or_false] at h
    rcases h with rfl | rfl <;> simp

variable {peer : Peer} {endpoint : String} {op : Operation}

/-- **The status of a performance is that of the final head.** -/
theorem status_perform (peer : Peer) (endpoint : String) (op : Operation) :
    (perform peer endpoint op).status = peer.finalHead? (perform peer endpoint op).requests := by
  cases hp : prepare (urlFor endpoint op.path) with
  | error fault =>
    rw [perform_of_error hp]
    rfl
  | ok p =>
    rw [perform_of_ok hp, requests_ofExchange, exchange, ← status?_follow _ _ _ _ _ _ _ _ (.inl rfl)]
    unfold Performance.ofExchange
    split <;> next hx => rw [hx]; rfl

/-- The events of a request that has ended. A cancelled one has none. -/
def sentEvents : Option (Joined Performance) → List Log.Event
  | some (.ok p) => p.events
  | _ => []

/-- The events of telling the receiver of a call, once that is done. A cancelled task tells
nobody. -/
def toldEvents (endpoint : String) (op : Operation) :
    Stage → Option (Joined Performance) → List Log.Event
  | .ended _ (.error .cancelled), _ => []
  | .ended who _, some j => endEvents endpoint op who.isCallback (.ofResult (awaited j))
  | _, _ => []

theorem toldEvents_ended (endpoint : String) (op : Operation) (who : Receiver)
    (j : Joined Performance) : toldEvents endpoint op (.ended who who.verdict) (some j) =
      endEvents endpoint op who.isCallback (.ofResult (awaited j)) := by
  unfold Receiver.verdict
  split <;> rfl

namespace Call

/-- What a call has logged: its beginning, what its request logged, and what was logged when the
receiver was told, for which the request had to end first. -/
structure Traced (p : Performance) (c : Call) : Prop where
  log : c.log = dispatched c.endpoint c.operation ::
    (sentEvents c.request ++ toldEvents c.endpoint c.operation c.stage c.request)
  request : ∀ j, c.request = some j → j = .ok p ∨ j = .error .cancelled
  told : ∀ who how, c.stage = .ended who how → how = .error .cancelled ∨
    how = who.verdict ∧ c.request.isSome = true

variable {p : Performance} {c d : Call} {a : Action}

theorem traced_start (p : Performance) (endpoint : String) (op : Operation) :
    Traced p (start endpoint op) where
  log := rfl
  request _ h := nomatch h
  told _ _ h := nomatch h

/-- Nobody has been told before the request ended, and its end alone tells nobody. -/
theorem Traced.untold (hc : Traced p c) (hr : c.request = none)
    (request : Option (Joined Performance)) :
    toldEvents c.endpoint c.operation c.stage request = [] := by
  cases hs : c.stage with
  | ended who how =>
    obtain rfl : how = .error .cancelled := (hc.told who how hs).resolve_right (by simp [hr])
    rfl
  | held | released | ending who => rfl

/-- The end of the request adds its events. -/
theorem Traced.settle (hc : Traced p c) (hr : c.request = none) {j : Joined Performance}
    (hj : j = .ok p ∨ j = .error .cancelled) {log : List Log.Event}
    (hl : log = c.log ++ sentEvents (some j)) : Traced p { c with request := some j, log } where
  log := by
    have hlog := hc.log
    rw [hc.untold hr, hr] at hlog
    simp only [hc.untold hr, hl, hlog]
    simp [sentEvents]
  request i hi := by
    obtain rfl : j = i := Option.some.inj hi
    exact hj
  told who how hs := (hc.told who how hs).imp_right fun ht => ⟨ht.1, rfl⟩

/-- **Every step keeps a call traced**, also the cancellation of a task. -/
theorem traced_step (h : c.step? p a = some d) (hc : Traced p c) : Traced p d := by
  have hlog := hc.log
  cases step?_eq_some_iff.1 h with
  | finish hr => exact hc.settle hr (.inl rfl) rfl
  | cancel hr => exact hc.settle hr (.inr rfl) (List.append_nil _).symm
  | release hs | hand hs =>
    rw [hs] at hlog
    exact ⟨hlog, hc.request, fun _ _ he => by cases he⟩
  | @deliver who j hs hr =>
    rw [hs] at hlog
    refine ⟨?_, hc.request, fun _ _ he => ?_⟩
    · have hbefore : toldEvents c.endpoint c.operation (.ending who) (some j) = [] := rfl
      have htold := toldEvents_ended c.endpoint c.operation who j
      rw [Receiver.verdict] at htold
      simp [tell, hlog, hr, hbefore, htold]
    · cases he
      exact .inr ⟨rfl, by simp [tell, hr]⟩
  | abandon hs =>
    rw [hs] at hlog
    refine ⟨hlog, hc.request, fun _ _ he => ?_⟩
    cases he
    exact .inl rfl
  | drop | join => exact ⟨hlog, hc.request, hc.told⟩

/-- **Every run keeps a call traced.** -/
theorem traced_run {as : List Action} (h : c.run? p as = some d) (hc : Traced p c) : Traced p d :=
  foldlM_keeps (m := Option) (fun _ _ _ _ hs ht => traced_step hs ht) h hc

/-- **Where tasks cannot be run, an operation ends with the event of its beginning**: the start
panics after it, and there is no call. -/
theorem startWhere_false (endpoint : String) (op : Operation) : startWhere false endpoint op =
    (traceOf op.method.name (endpoint ++ op.path) none none, .error .panicked) := by
  rw [traceOf_eq]
  rfl

/-- What was logged at the start of a call stays in front of all that it logs. -/
theorem log_startWhere_prefix {canRun : Bool} {endpoint : String} {op : Operation}
    {as : List Action} (hs : (startWhere canRun endpoint op).2 = .ok c)
    (hd : c.run? p as = some d) : (startWhere canRun endpoint op).1 <+: d.log := by
  cases canRun with
  | false => cases hs
  | true =>
    cases hs
    obtain ⟨he, ho⟩ := about_run hd
    rw [(traced_run hd (traced_start p endpoint op)).log, he, ho]
    exact ⟨_, rfl⟩

/-- What the request of a call has logged is told by what it has sent. -/
theorem Traced.sentEvents_eq {peer : Peer} {endpoint : String} {op : Operation}
    (hc : Traced (perform peer endpoint op) c) :
    sentEvents c.request = ((peer.finalHead? c.requests).map answered).toList := by
  cases hr : c.request with
  | none => simp [sentEvents, requests, hr, Peer.finalHead?]
  | some j =>
    rcases hc.request j hr with rfl | rfl
    · simp [sentEvents, requests, hr, Performance.events, ← status_perform]
    · simp [sentEvents, requests, hr, Peer.finalHead?]

/-- Nothing is logged of telling a callback, nor before anybody is told. -/
theorem toldEvents_eq_nil (h : c.receiver? ≠ some .nobody) :
    toldEvents endpoint op c.stage c.request = [] := by
  unfold toldEvents
  split
  · rfl
  · next who how j _ hs _ =>
    cases who with
    | nobody => exact absurd (by rw [receiver?, hs]) h
    | callback panics => rfl
  · rfl

section

variable {as : List Action} (h : (start endpoint op).run? (perform peer endpoint op) as = some c)
include h

/-- The log of a call is the trace of its operation, if what was logged last is that part of it. -/
theorem log_eq_of_toldEvents {untold : Option Error}
    (ht : toldEvents endpoint op c.stage c.request = (untold.map (unobserved endpoint op)).toList) :
    c.log = traceOf op.method.name (endpoint ++ op.path) (peer.finalHead? c.requests) untold := by
  have hc : Traced (perform peer endpoint op) c := traced_run h (traced_start _ endpoint op)
  obtain ⟨he, ho⟩ : c.endpoint = endpoint ∧ c.operation = op := about_run h
  rw [hc.log, hc.sentEvents_eq, he, ho, ht, traceOf_eq]

/-- **Unless nobody is to be told, there is no warning**, at any moment. -/
theorem log_eq_of_receiver? (hr : c.receiver? ≠ some .nobody) :
    c.log = traceOf op.method.name (endpoint ++ op.path) (peer.finalHead? c.requests) none :=
  log_eq_of_toldEvents h (toldEvents_eq_nil hr)

/-- **Once the receiver has been told, the trace is complete.** -/
theorem log_eq_of_ended {who : Receiver} {how : Joined Unit} (hs : c.stage = .ended who how)
    (hhow : how ≠ .error .cancelled) : ∃ x, c.awaited? = some x ∧
      c.log = traceOf op.method.name (endpoint ++ op.path) (peer.finalHead? c.requests)
        (if who = .nobody then (Outcome.ofResult x).error else none) := by
  have hc : Traced (perform peer endpoint op) c := traced_run h (traced_start _ endpoint op)
  obtain ⟨rfl, hr⟩ := (hc.told who how hs).resolve_left hhow
  obtain ⟨j, hj⟩ := Option.isSome_iff_exists.1 hr
  refine ⟨awaited j, by rw [awaited?, hj, Option.map_some], log_eq_of_toldEvents h ?_⟩
  rw [hs, hj, toldEvents_ended]
  cases who <;> rfl

end

end Call

theorem Receiver.verdict_ne_cancelled (who : Receiver) : who.verdict ≠ .error .cancelled := by
  unfold verdict
  split <;> exact nofun

/-- **The log of a call is told by what was received and by who was to be told**, in whatever order
the tasks run, and also if one is cancelled. Once the receiver has been told, it is the whole trace
of the operation, with a warning exactly if there was an error and nobody to tell it to; a request
that is awaited has the same trace without a warning; and a callback never leads to one. In the
usual course every call comes to its end. -/
theorem log_of_call (peer : Peer) (endpoint : String) (op : Operation) :
    (∀ who, ∃ c, complete peer endpoint op who = some c ∧
      c.log = traceOf op.method.name (endpoint ++ op.path)
        (peer.finalHead? (perform peer endpoint op).requests)
        (if who = .nobody then (Outcome.ofResult (perform peer endpoint op).result).error
          else none)) ∧
    ∀ as c, (Call.start endpoint op).run? (perform peer endpoint op) as = some c →
      (∀ who how, c.stage = .ended who how → how ≠ .error .cancelled →
        ∃ x, c.awaited? = some x ∧
          c.log = traceOf op.method.name (endpoint ++ op.path) (peer.finalHead? c.requests)
            (if who = .nobody then (Outcome.ofResult x).error else none)) ∧
      (c.receiver? = none → c.awaited?.isSome = true →
        c.log = traceOf op.method.name (endpoint ++ op.path) (peer.finalHead? c.requests) none) ∧
      ∀ panics, c.receiver? = some (.callback panics) → ∀ e ∈ c.log, e.level ≠ .warn := by
  refine ⟨fun who => ?_, fun as c hc => ⟨fun who how => Call.log_eq_of_ended hc,
    fun hr _ => ?_, fun panics hr e he => ?_⟩⟩
  · have hrun : complete peer endpoint op who = some _ := rfl
    obtain ⟨x, hx, hlog⟩ := Call.log_eq_of_ended hrun rfl who.verdict_ne_cancelled
    obtain rfl : (perform peer endpoint op).result = x := Option.some.inj hx
    exact ⟨_, hrun, hlog⟩
  · exact Call.log_eq_of_receiver? hc (by simp [hr])
  · rw [Call.log_eq_of_receiver? hc (by simp [hr])] at he
    exact level_of_mem_traceOf he

end MigrationClient.Client
