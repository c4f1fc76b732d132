import MigrationClient.Text.Numeral
import MigrationClient.Text.Split
import MigrationClient.Text.Utf8

/-!
# Status codes

The code of a response, three digits, and its standard reason. The status line determines the
code (`code_eq_of_line`), also for codes without a reason, and it is one line
(`newline_notMem_line`).
-/

namespace MigrationClient.Http

open Text

/-- A status code. -/
structure Status where
  code : Nat
  lo : 100 ≤ code := by decide
  hi : code ≤ 999 := by decide
  deriving DecidableEq, Repr

namespace Status

def ofCode? (code : Nat) : Option Status :=
  if h : 100 ≤ code ∧ code ≤ 999 then some ⟨code, h.1, h.2⟩ else none

/-- The head of a reply that says no more than that another head follows it. -/
def isInterim (s : Status) : Bool := 100 ≤ s.code && s.code ≤ 199 && s.code ≠ 101

/-- The request was accepted. -/
def isSuccess (s : Status) : Bool := 200 ≤ s.code && s.code ≤ 299

def isClientError (s : Status) : Bool := 400 ≤ s.code && s.code ≤ 499

def isServerError (s : Status) : Bool := 500 ≤ s.code && s.code ≤ 599

/-- The request was refused, by the client's or the server's fault. -/
def isError (s : Status) : Bool := s.isClientError || s.isServerError

theorem isSuccess_iff {s : Status} : s.isSuccess = true ↔ 200 ≤ s.code ∧ s.code ≤ 299 := by
  simp [isSuccess]

/-- The statuses from 400 to 599 refuse a request. -/
theorem isError_iff {s : Status} : s.isError = true ↔ 400 ≤ s.code ∧ s.code ≤ 599 := by
  simp only [isError, isClientError, isServerError, Bool.or_eq_true, Bool.and_eq_true,
    decide_eq_true_eq]
  omega

/-- The standard reason. -/
def reason? (s : Status) : Option String :=
  match s.code with
  | 100 => some "Continue"
  | 101 => some "Switching Protocols"
  | 102 => some "Processing"
  | 103 => some "Early Hints"
  | 200 => some "OK"
  | 201 => some "Created"
  | 202 => some "Accepted"
  | 203 => some "Non Authoritative Information"
  | 204 => some "No Content"
  | 205 => some "Reset Content"
  | 206 => some "Partial Content"
  | 207 => some "Multi-Status"
  | 208 => some "Already Reported"
  | 226 => some "IM Used"
  | 300 => some "Multiple Choices"
  | 301 => some "Moved Permanently"
  | 302 => some "Found"
  | 303 => some "See Other"
  | 304 => some "Not Modified"
  | 305 => some "Use Proxy"
  | 307 => some "Temporary Redirect"
  | 308 => some "Permanent Redirect"
  | 400 => some "Bad Request"
  | 401 => some "Unauthorized"
  | 402 => some "Payment Required"
  | 403 => some "Forbidden"
  | 404 => some "Not Found"
  | 405 => some "Method Not Allowed"
  | 406 => some "Not Acceptable"
  | 407 => some "Proxy Authentication Required"
  | 408 => some "Request Timeout"
  | 409 => some "Conflict"
  | 410 => some "Gone"
  | 411 => some "Length Required"
  | 412 => some "Precondition Failed"
  | 413 => some "Payload Too Large"
  | 414 => some "URI Too Long"
  | 415 => some "Unsupported Media Type"
  | 416 => some "Range Not Satisfiable"
  | 417 => some "Expectation Failed"
  | 418 => some "I'm a teapot"
  | 421 => some "Misdirected Request"
  | 422 => some "Unprocessable Entity"
  | 423 => some "Locked"
  | 424 => some "Failed Dependency"
  | 425 => some "Too Early"
  | 426 => some "Upgrade Required"
  | 428 => some "Precondition Required"
  | 429 => some "Too Many Requests"
  | 431 => some "Request Header Fields Too Large"
  | 451 => some "Unavailable For Legal Reasons"
  | 500 => some "Internal Server Error"
  | 501 => some "Not Implemented"
  | 502 => some "Bad Gateway"
  | 503 => some "Service Unavailable"
  | 504 => some "Gateway Timeout"
  | 505 => some "HTTP Version Not Supported"
  | 506 => some "Variant Also Negotiates"
  | 507 => some "Insufficient Storage"
  | 508 => some "Loop Detected"
  | 510 => some "Not Extended"
  | 511 => some "Network Authentication Required"
  | _ => none

/-- The code and the reason, or a note that there is none. -/
def line (s : Status) : List Char :=
  decimal s.code ++ ' ' :: (s.reason?.getD "<unknown status code>").toList

/-- The digits of a line stand before its first space. -/
theorem decimal_eq_of_line {s t : Status} (h : s.line = t.line) :
    decimal s.code = decimal t.code := by
  have hdigits : ∀ u : Status, u.line.takeWhile (· != ' ') = decimal u.code := by
    intro u
    refine takeWhile_append_cons (fun c hc => ?_) rfl _
    rw [bne_iff_ne]
    rintro rfl
    exact notMem_digits (by decide) (by decide) hc
  rw [← hdigits s, h, hdigits t]

/-- **The status line determines the code.** -/
theorem code_eq_of_line {s t : Status} (h : s.line = t.line) : s.code = t.code := by
  have := congrArg (value? 10) (decimal_eq_of_line h)
  simpa [decimal, value?_digits] using this

theorem line_inj {s t : Status} : s.line = t.line ↔ s = t := by
  constructor
  · intro h
    obtain ⟨code, lo, hi⟩ := s
    obtain rfl : code = t.code := code_eq_of_line h
    rfl
  · rintro rfl
    rfl

theorem newline_notMem_reason (s : Status) :
    '\n' ∉ (s.reason?.getD "<unknown status code>").toList := by
  unfold reason?
  split
  all_goals exact Utf8.notMem_toList_ofList (by decide)

/-- **No status line is broken**, whatever the code. -/
theorem newline_notMem_line (s : Status) : '\n' ∉ s.line := by
  rw [line, List.mem_append, List.mem_cons, not_or, not_or]
  exact ⟨notMem_digits (by decide) (by decide), by decide, newline_notMem_reason s⟩

end Status

end MigrationClient.Http
