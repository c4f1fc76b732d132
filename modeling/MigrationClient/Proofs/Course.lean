import MigrationClient.Proofs.CommandLine.Help
import MigrationClient.Proofs.CommandLine.Operands
import MigrationClient.Proofs.Config.Precedence
import MigrationClient.Run

/-!
# The course of a run

A run ends before its operation begins if its arguments are not accepted, if the file they name
cannot be read as settings, or if the settings are not valid (`Barred`). Then nothing is sent, and
nothing is shown but the help that was asked for. In every other case the run makes one call, of
the operation that its subcommand names, and what it sends, shows and returns is what comes of that
call. **There is nothing else that a run can do** (`run_fails_closed`); in particular it never ends
without an outcome once its operation has begun.
-/

namespace MigrationClient

open Text

/-! ## What a run shows -/

namespace Line

/-- The texts among some lines. -/
def texts (ls : List Line) : List String :=
  ls.filterMap fun
    | text s => some s
    | event _ => none

/-- The events of requests among some lines. -/
def requestEvents (ls : List Line) : List Log.Event :=
  ls.filterMap fun
    | event e => if e.target = Client.requestTarget then some e else none
    | text _ => none

variable {filter : Log.Filter} {es : List Log.Event} {l r : List Line}

@[simp] theorem texts_append : texts (l ++ r) = texts l ++ texts r := List.filterMap_append

@[simp] theorem requestEvents_append :
    requestEvents (l ++ r) = requestEvents l ++ requestEvents r := List.filterMap_append

@[simp] theorem texts_logged : texts (Run.logged filter es) = [] := by
  simp [texts, Run.logged]

@[simp] theorem requestEvents_logged : requestEvents (Run.logged filter es) =
    (es.filter (·.target = Client.requestTarget)).filter filter.admits := by
  induction es with
  | nil => rfl
  | cons e es ih =>
    simp only [requestEvents, Run.logged] at ih ⊢
    by_cases ha : filter.admits e <;> by_cases ht : e.target = Client.requestTarget <;>
      simp [ha, ht, ih]

end Line

namespace Run

variable {w : World} {peer : Http.Peer} {s t : Settings} {args : List (List UInt8)}

/-! ## Runs that do not begin -/

/-- The arguments of a run behind the name of the program. -/
def arguments (args : List (List UInt8)) : List (List UInt8) :=
  Utf8.ofString CommandLine.defaultProgram :: args

/-- The ways in which a run ends before its operation begins, with the exit code and what is
shown. -/
inductive Barred (w : World) (args : List (List UInt8)) : Nat → List String → Prop
  | help {page : CommandLine.Page} :
      CommandLine.parse w.env (arguments args) = .error (.help page) →
      Barred w args 0 [page.text]
  | stopped {stop : CommandLine.Stop} : CommandLine.parse w.env (arguments args) = .error stop →
      (∀ page, stop ≠ .help page) → Barred w args 2 []
  | unloaded {s : Settings} {e : Error} : CommandLine.parse w.env (arguments args) = .ok s →
      s.merge w = .error e → Barred w args 2 []
  | invalid {t : Settings} {e : Error} : Settings.ofArguments? w (arguments args) = some t →
      t.validate = .error e → Barred w args 2 []

/-- The settings of a run whose operation begins. -/
def Admits (w : World) (args : List (List UInt8)) (t : Settings) : Prop :=
  Settings.ofArguments? w (arguments args) = some t ∧ t.validate = .ok ()

/-- Every run is barred or admitted. -/
theorem barred_or_admits (w : World) (args : List (List UInt8)) :
    (∃ code shown, Barred w args code shown) ∨ ∃ t, Admits w args t := by
  cases hp : CommandLine.parse w.env (arguments args) with
  | error stop =>
    cases stop with
    | help page => exact .inl ⟨_, _, .help hp⟩
    | nothingGiven page => exact .inl ⟨_, _, .stopped hp (by simp)⟩
    | fault f => exact .inl ⟨_, _, .stopped hp (by simp)⟩
  | ok s =>
    cases hm : s.merge w with
    | error e => exact .inl ⟨_, _, .unloaded hp hm⟩
    | ok t =>
      have ht := Settings.ofArguments?_eq_some_iff.2 ⟨s, hp, hm⟩
      cases hv : t.validate with
      | error e => exact .inl ⟨_, _, .invalid ht hv⟩
      | ok => exact .inr ⟨t, ht, hv⟩

theorem run_of_error {stop : CommandLine.Stop}
    (h : CommandLine.parse w.env (arguments args) = .error stop) :
    run w peer args = stopped stop := by
  rw [run, ← arguments, h]

theorem run_of_ok (h : CommandLine.parse w.env (arguments args) = .ok s) :
    run w peer args = proceed w peer s := by
  rw [run, ← arguments, h]

/-- What a run leaves behind that did not begin. -/
structure Untouched (r : Report) (code : Nat) (shown : List String) : Prop where
  exitCode : r.exitCode = code
  requests : r.requests = []
  requestEvents : Line.requestEvents r.output = []
  texts : Line.texts r.output = shown

theorem untouched_stopped {stop : CommandLine.Stop} (h : ∀ page, stop ≠ .help page) :
    Untouched (stopped stop) 2 [] := by
  cases stop with
  | help page => exact absurd rfl (h page)
  | _ => exact ⟨rfl, rfl, rfl, rfl⟩

/-- The events of the program itself are none of a request. -/
theorem target_ne : target ≠ Client.requestTarget := by decide

theorem untouched_rejected (filter : Log.Filter) (s : Settings) (what : String) (e : Error) :
    Untouched (rejected filter s what e) 2 [] :=
  ⟨rfl, rfl, by simp [rejected, event, target_ne], by simp [rejected]⟩

/-- What is logged first does not matter. -/
theorem Untouched.append {r : Report} {code : Nat} {shown : List String}
    (h : Untouched r code shown) (filter : Log.Filter) (level : Log.Level) (message : String) :
    Untouched { r with output := logged filter [event level message] ++ r.output } code shown :=
  ⟨h.exitCode, h.requests, by simp [event, target_ne, h.requestEvents], by simp [h.texts]⟩

theorem untouched_of_barred {code : Nat} {shown : List String} (h : Barred w args code shown) :
    Untouched (run w peer args) code shown := by
  cases h with
  | help hp =>
    rw [run_of_error hp]
    exact ⟨rfl, rfl, rfl, rfl⟩
  | stopped hp hh =>
    rw [run_of_error hp]
    exact untouched_stopped hh
  | unloaded hp hm =>
    rw [run_of_ok hp]
    simp only [proceed, hm]
    exact untouched_rejected ..
  | invalid ht hv =>
    obtain ⟨s, hp, hm⟩ := Settings.ofArguments?_eq_some_iff.1 ht
    rw [run_of_ok hp]
    simp only [proceed, hm, hv]
    exact (untouched_rejected ..).append ..

/-! ## Runs that begin -/

/-- Merging keeps the operation. -/
theorem operation_of_merge (h : s.merge w = .ok t) : t.operation = s.operation := by
  unfold Settings.merge at h
  split at h
  · cases h
    rfl
  · obtain ⟨f, -, rfl⟩ := Reader.map_eq_ok h
    rfl

/-- The operation is the one that the subcommand of the line names. -/
theorem exists_line_of_admits (h : Admits w args t) : ∃ l : CommandLine.Line,
    args = l.arguments ∧ t.operation.subcommand = l.subcommand ∧
      CommandLine.Spells (t.operation.identifier?.map Utf8.ofString) l.operands := by
  obtain ⟨s, hp, hm⟩ := Settings.ofArguments?_eq_some_iff.1 h.1
  obtain ⟨d, l, -, hl, d', op, -, hop, hf⟩ := CommandLine.exists_line (by simp) hp
  obtain ⟨-, -, -, -, hs⟩ := CommandLine.finish_some hf
  rw [operation_of_merge hm, hs]
  exact ⟨l, hl, CommandLine.operation_eq_ok_iff.1 hop⟩

/-- What a run leaves behind that made a call which came to an outcome. -/
structure Completed (r : Report) (filter : Log.Filter) (c : Client.Call) (o : Outcome) : Prop where
  exitCode : r.exitCode = o.exitCode
  requests : r.requests = c.requests
  requestEvents : Line.requestEvents r.output = c.log.filter filter.admits
  texts : Line.texts r.output = (o.render.map (· ++ "\n")).toList

/-- The events about an outcome are none of a request. -/
theorem requestEvents_verdict (o : Outcome) :
    (verdict o).1.filter (·.target = Client.requestTarget) = [] := by
  unfold verdict
  split <;> simp [event, target_ne]

/-- The events of a request are events of requests. -/
theorem target_events (p : Client.Performance) :
    ∀ e ∈ p.events, e.target = Client.requestTarget := by
  unfold Client.Performance.events
  cases p.status with
  | none => simp
  | some status => simp [Client.answered]

@[simp] theorem texts_shown (o : Option String) :
    Line.texts (o.map fun s => Line.text (s ++ "\n")).toList = (o.map (· ++ "\n")).toList := by
  cases o <;> rfl

@[simp] theorem requestEvents_shown (o : Option String) :
    Line.requestEvents (o.map fun s => Line.text (s ++ "\n")).toList = [] := by
  cases o <;> rfl

/-- What comes of the one call of a command. -/
theorem complete_callback (peer : Http.Peer) (endpoint : String) (op : Operation) : ∃ c,
    Client.complete peer endpoint op (.callback false) = some c ∧
      c.collected? = some (.ok (.ofResult (Client.perform peer endpoint op).result)) ∧
      c.requests = (Client.perform peer endpoint op).requests ∧
      c.log = Client.dispatched endpoint op :: (Client.perform peer endpoint op).events :=
  ⟨_, rfl, rfl, rfl, List.append_nil _⟩

/-- **Performing an operation is one call**, and it always comes to an outcome. -/
theorem completed_perform (peer : Http.Peer) (filter : Log.Filter) (t : Settings) : ∃ c o,
    Client.complete peer t.effectiveEndpoint t.operation (.callback false) = some c ∧
      c.collected? = some (.ok o) ∧ Completed (perform peer filter t) filter c o := by
  obtain ⟨c, hc, ho, hrequests, hlog⟩ :=
    complete_callback peer t.effectiveEndpoint t.operation
  have hevents := List.filter_eq_self.2 fun e he => decide_eq_true <|
    target_events (Client.perform peer t.effectiveEndpoint t.operation) e he
  refine ⟨c, _, hc, ho, ?_⟩
  rw [perform, Client.command_eq]
  refine ⟨rfl, hrequests.symm, ?_, by simp⟩
  rw [hlog]
  simp [requestEvents_verdict, event, target_ne, Client.dispatched, hevents]

/-- What is logged first does not matter. -/
theorem Completed.append {r : Report} {filter : Log.Filter} {c : Client.Call} {o : Outcome}
    (h : Completed r filter c o) (level : Log.Level) (message : String) :
    Completed { r with output := logged filter [event level message] ++ r.output } filter c o :=
  ⟨h.exitCode, h.requests, by simp [event, target_ne, h.requestEvents], by simp [h.texts]⟩

theorem completed_of_admits (peer : Http.Peer) (h : Admits w args t) : ∃ c o,
    Client.complete peer t.effectiveEndpoint t.operation (.callback false) = some c ∧
      c.collected? = some (.ok o) ∧
      Completed (run w peer args) (.choose (w.env.text? "RUST_LOG") t.verbose) c o := by
  obtain ⟨ht, hv⟩ := h
  obtain ⟨s, hp, hm⟩ := Settings.ofArguments?_eq_some_iff.1 ht
  have hfilter : filter w s = .choose (w.env.text? "RUST_LOG") t.verbose := by
    rw [filter, Settings.afterMerge, hm]
  obtain ⟨c, o, hc, ho, hcompleted⟩ := completed_perform peer (filter w s) t
  refine ⟨c, o, hc, ho, ?_⟩
  rw [run_of_ok hp, ← hfilter]
  simp only [proceed, hm, hv]
  exact hcompleted.append ..

end Run

/-- The exit code of a run without an outcome is also that of an error beside a response. -/
theorem Outcome.exitCode_le (o : Outcome) : o.exitCode ≤ 2 ∧
    (o.exitCode = Run.noOutcome → o.error.isSome ∧ o.response.isSome) := by
  unfold exitCode
  split <;> simp [Run.noOutcome, *]

/-- **A run fails closed.** If its arguments are not accepted, the file they name cannot be read as
settings, or the settings are not valid, then nothing is sent, no request is begun, and nothing is
shown; the exit code is 2, or 0 with a help page if an argument asks for help. In every other case
the arguments are those of one line, and there is one call, of the operation that the subcommand and
the operands of this line spell, at the endpoint of the settings. It comes to an outcome, of which
come the exit code and what is shown; what is sent and logged of requests is what this call sends
and logs. The exit code of a run without an outcome is met only where there is an error beside a
response. -/
theorem run_fails_closed (w : World) (peer : Http.Peer) (args : List (List UInt8)) :
    (∀ code shown, Run.Barred w args code shown →
      Run.Untouched (run w peer args) code shown ∧
        (code = 0 → ∃ a ∈ args, CommandLine.AsksForHelp a)) ∧
    ((∀ code shown, ¬ Run.Barred w args code shown) → ∃ t : Settings, Run.Admits w args t ∧
      (∃ l : CommandLine.Line, args = l.arguments ∧
        (∀ l' : CommandLine.Line, args = l'.arguments → l' = l) ∧
        t.operation.subcommand = l.subcommand ∧
        CommandLine.Spells (t.operation.identifier?.map Utf8.ofString) l.operands) ∧
      ∃ c o, Client.complete peer t.effectiveEndpoint t.operation (.callback false) = some c ∧
        c.collected? = some (.ok o) ∧
        Run.Completed (run w peer args) (.choose (w.env.text? "RUST_LOG") t.verbose) c o ∧
        (run w peer args).exitCode ≤ 2 ∧
        ((run w peer args).exitCode = Run.noOutcome → o.error.isSome ∧ o.response.isSome)) := by
  refine ⟨fun code shown hb => ⟨Run.untouched_of_barred hb, fun hcode => ?_⟩, fun hb => ?_⟩
  · cases hb with
    | help hp => exact CommandLine.asksForHelp_of_parse hp
    | _ => cases hcode
  · rcases Run.barred_or_admits w args with ⟨code, shown, h⟩ | ⟨t, ht⟩
    · exact absurd h (hb code shown)
    · obtain ⟨l, hl, hop⟩ := Run.exists_line_of_admits ht
      obtain ⟨c, o, hc, ho, hcompleted⟩ := Run.completed_of_admits peer ht
      refine ⟨t, ht, ⟨l, hl, fun l' hl' => ?_, hop⟩, c, o, hc, ho, hcompleted, ?_⟩
      · exact CommandLine.Line.arguments_inj (hl'.symm.trans hl)
      · rw [hcompleted.exitCode]
        exact o.exitCode_le

end MigrationClient
