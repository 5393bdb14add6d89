import ModuleRegistry.DocumentFormat
import ModuleRegistry.Http.Message

/-!
# Exchanges with a hub

A call sends requests and reads replies, and it leaves traces: the requests sent, entries in the log
and updates of the metrics.  `Traffic` holds all of them, and a `Call` is a function from the traffic
before it to its outcome and the traffic after it.

One exchange, `roundTrip`, is put together from independent parts, each a function of the request and
the reply alone:

* `outcome`: the reply's body, or the error that the reply amounts to;
* `openingEntry` and `closingEntry`: what is logged before and after the reply;
* `updates`: what is counted.

A transport error counts before a status, whatever status and body come with it.

An entry that the log cannot take breaks the exchange off where it stands (`Traffic.write`).  If that
is the opening entry, nothing has been sent or counted; if it is the closing one, the reply has been
read and counted, and its outcome is lost.  The theorems about single channels (`sent_roundTrip` and
so on) are therefore about requests that the log lets through (`Traffic.Opens`).
-/

namespace ModuleRegistry

open Text (ascii)

/-! ## Traffic -/

/-- What has passed between a client and the world, and what is still to come. -/
structure Traffic where
  /-- The replies still to come, the next one first. -/
  pending : List Http.Reply := []
  sent : List Http.Request := []
  log : List Log.Entry := []
  logger : Option Log.Logger := none
  metrics : Option Metrics := none

/-- The reply of a transport that has none left. -/
def Http.Reply.absent : Http.Reply where
  error := ascii "no scripted reply"

namespace Traffic

/-- The reply that the next request gets. -/
def nextReply (t : Traffic) : Http.Reply := t.pending.head?.getD .absent

/-- Why the log cannot take an entry, if it is to take it and cannot. -/
def fault? (t : Traffic) (format : DocumentFormat) (e : Log.Entry) : Option Text :=
  t.logger.bind (·.fault? format e)

/-- The log takes an entry, if its logger lets it pass. -/
def note (t : Traffic) (e : Log.Entry) : Traffic :=
  { t with log := t.log ++ (t.logger.map (·.keep [e])).getD [] }

/-- Offers an entry to the log, or fails with the reason why the log cannot take it. -/
def write (t : Traffic) (format : DocumentFormat) (e : Log.Entry) : Except Text Traffic :=
  match t.fault? format e with
  | some reason => .error reason
  | none => .ok (t.note e)

/-- Makes updates of the metrics, if there are any metrics. -/
def count (t : Traffic) (updates : List Metrics.Update) : Traffic :=
  { t with metrics := t.metrics.map (·.applyAll updates) }

/-- Sends a request, which uses up a reply. -/
def send (t : Traffic) (q : Http.Request) : Traffic :=
  { t with pending := t.pending.tail, sent := t.sent ++ [q] }

theorem write_of_fault? {t : Traffic} {format : DocumentFormat} {e : Log.Entry} {reason : Text}
    (h : t.fault? format e = some reason) : t.write format e = .error reason := by
  rw [write, h]

theorem write_of_fault?_eq_none {t : Traffic} {format : DocumentFormat} {e : Log.Entry}
    (h : t.fault? format e = none) : t.write format e = .ok (t.note e) := by
  rw [write, h]

/-- What the log can take depends on the logger only. -/
theorem fault?_congr {t t' : Traffic} (h : t'.logger = t.logger) (format : DocumentFormat)
    (e : Log.Entry) : t'.fault? format e = t.fault? format e := by
  rw [fault?, fault?, h]

@[simp] theorem sent_note (t : Traffic) (e : Log.Entry) : (t.note e).sent = t.sent := rfl

@[simp] theorem pending_note (t : Traffic) (e : Log.Entry) : (t.note e).pending = t.pending := rfl

@[simp] theorem metrics_note (t : Traffic) (e : Log.Entry) : (t.note e).metrics = t.metrics := rfl

@[simp] theorem logger_note (t : Traffic) (e : Log.Entry) : (t.note e).logger = t.logger := rfl

@[simp] theorem nextReply_note (t : Traffic) (e : Log.Entry) :
    (t.note e).nextReply = t.nextReply := rfl

@[simp] theorem sent_count (t : Traffic) (us : List Metrics.Update) :
    (t.count us).sent = t.sent := rfl

@[simp] theorem pending_count (t : Traffic) (us : List Metrics.Update) :
    (t.count us).pending = t.pending := rfl

@[simp] theorem log_count (t : Traffic) (us : List Metrics.Update) : (t.count us).log = t.log := rfl

@[simp] theorem logger_count (t : Traffic) (us : List Metrics.Update) :
    (t.count us).logger = t.logger := rfl

@[simp] theorem sent_send (t : Traffic) (q : Http.Request) : (t.send q).sent = t.sent ++ [q] := rfl

@[simp] theorem pending_send (t : Traffic) (q : Http.Request) :
    (t.send q).pending = t.pending.tail := rfl

@[simp] theorem log_send (t : Traffic) (q : Http.Request) : (t.send q).log = t.log := rfl

@[simp] theorem metrics_send (t : Traffic) (q : Http.Request) : (t.send q).metrics = t.metrics := rfl

@[simp] theorem logger_send (t : Traffic) (q : Http.Request) : (t.send q).logger = t.logger := rfl

end Traffic

/-! ## Calls -/

/-- Why a call fails. -/
inductive Call.Failure where
  /-- With an error of the library. -/
  | hub (error : HubError)
  /-- A structured log could not take an entry.  The library has no error for this; what the writing
  of the entry failed with goes on to the caller as it is. -/
  | unlogged (reason : Text)
deriving DecidableEq

/-- A failure with another error in the place of the library's. -/
def Call.Failure.map (f : HubError → HubError) : Call.Failure → Call.Failure
  | hub e => hub (f e)
  | unlogged reason => unlogged reason

/-- A result of the library as the result of a call. -/
@[simp] theorem Call.Failure.mapError_ok {α : Type} (a : α) :
    (Except.ok a : Except HubError α).mapError hub = .ok a := rfl

@[simp] theorem Call.Failure.mapError_error {α : Type} (e : HubError) :
    (Except.error e : Except HubError α).mapError hub = .error (.hub e) := rfl

/-- Something that exchanges with a hub and has an outcome. -/
def Call (α : Type) : Type := Traffic → Except Call.Failure α × Traffic

/-- The call that does nothing and has the given outcome. -/
def Call.done {α : Type} (outcome : Except Call.Failure α) : Call α := fun t => (outcome, t)

@[simp] theorem Call.done_apply {α : Type} (outcome : Except Call.Failure α) (t : Traffic) :
    Call.done outcome t = (outcome, t) := rfl

namespace Exchange

/-! ## What a reply amounts to -/

/-- The error of a reply that is a refusal, with the explanation in its body, if there is one. -/
def refusal (format : DocumentFormat) (r : Http.Reply) : HubError :=
  .refused r.status (if Text.isBlank r.body then none else format.readRemoteError r.body)

/-- The body of a reply, or the error that the reply amounts to. -/
def outcome (format : DocumentFormat) (r : Http.Reply) : Except HubError Text :=
  if !r.error.isEmpty then .error (.transport r.error)
  else if !Http.isSuccess r.status then .error (refusal format r)
  else .ok r.body

theorem outcome_of_error (format : DocumentFormat) {r : Http.Reply} (h : r.error ≠ []) :
    outcome format r = .error (.transport r.error) := by
  simp [outcome, h]

theorem outcome_of_refusal (format : DocumentFormat) {r : Http.Reply} (h : r.error = [])
    (hs : ¬(200 ≤ r.status ∧ r.status ≤ 299)) :
    outcome format r = .error (refusal format r) := by
  rw [← Http.isSuccess_iff] at hs
  simp [outcome, h, hs]

theorem outcome_of_success (format : DocumentFormat) {r : Http.Reply} (h : r.error = [])
    (hs : 200 ≤ r.status ∧ r.status ≤ 299) : outcome format r = .ok r.body := by
  rw [← Http.isSuccess_iff] at hs
  simp [outcome, h, hs]

theorem refusal_of_blank (format : DocumentFormat) {r : Http.Reply}
    (h : Text.isBlank r.body = true) : refusal format r = .refused r.status none := by
  simp [refusal, h]

/-! ## What is logged -/

/-- The part of the library that an exchange logs for. -/
def subsystem : Text := ascii "HubClient"

/-- The key of the header that makes a request conditional. -/
def ifMatch : Text := ascii "If-Match"

/-- The field that names the method of a request. -/
def methodField (q : Http.Request) : Text × Text := (ascii "method", q.method.name)

/-- The field that names the address of a request. -/
def urlField (q : Http.Request) : Text × Text := (ascii "url", q.url)

/-- The field that gives the status of a reply. -/
def statusField (r : Http.Reply) : Text × Text := (ascii "status", Text.ofInt r.status)

/-- The field that says whether a request is conditional. -/
def conditionField (q : Http.Request) : Text × Text :=
  (ascii "ifMatch", if q.headers.contains ifMatch then ascii "*" else ascii "none")

/-- What is logged before a request is sent. -/
def openingEntry (q : Http.Request) : Log.Entry where
  level := .debug
  subsystem := subsystem
  message := ascii "Sending request"
  fields := .ofList [methodField q, urlField q, conditionField q]

/-- What is logged when the reply has been read: a warning about a failure, or that all is well. -/
def closingEntry (format : DocumentFormat) (q : Http.Request) (r : Http.Reply) : Log.Entry :=
  if !r.error.isEmpty then
    { level := .warn
      subsystem := subsystem
      message := ascii "Transport error: " ++ r.error
      fields := .ofList [methodField q, urlField q] }
  else if !Http.isSuccess r.status then
    { level := .warn
      subsystem := subsystem
      message := (refusal format r).shown
      fields := .ofList [methodField q, urlField q, statusField r] }
  else
    { level := .debug
      subsystem := subsystem
      message := ascii "Request completed"
      fields := .ofList [methodField q, urlField q, statusField r] }

/-- The entries that one exchange offers to a log. -/
def entries (format : DocumentFormat) (x : Http.Request × Http.Reply) : List Log.Entry :=
  [openingEntry x.1, closingEntry format x.1 x.2]

/-! ## What is counted -/

/-- The counter of requests sent. -/
def requests : Text := ascii "hub.requests"

/-- The counter of requests that failed or were refused. -/
def failures : Text := ascii "hub.request.failures"

/-- The histogram of how long the replies took. -/
def latency : Text := ascii "hub.request.latency_ms"

/-- What an exchange counts, in order. -/
def updates (r : Http.Reply) : List Metrics.Update :=
  [.increment requests 1, .observe latency r.latencyMs] ++
    if r.failed then [.increment failures 1] else []

/-! ## The exchange -/

/-- Logs what became of a request whose reply has been read, and yields the body of the reply if it is
a success. -/
def close (format : DocumentFormat) (q : Http.Request) (r : Http.Reply) : Call Text := fun t =>
  match t.write format (closingEntry format q r) with
  | .error reason => (.error (.unlogged reason), t)
  | .ok t => ((outcome format r).mapError .hub, t)

/-- Sends a request and yields the body of a successful reply. -/
def roundTrip (format : DocumentFormat) (q : Http.Request) : Call Text := fun t =>
  match t.write format (openingEntry q) with
  | .error reason => (.error (.unlogged reason), t)
  | .ok t =>
    let r := t.nextReply
    close format q r ((t.send q).count (updates r))

/-- An exchange whose successful body is understood by a decoder. -/
def fetch {ρ : Type} (format : DocumentFormat) (decode : Decoder ρ) (q : Http.Request) :
    Call (Option ρ) := fun t =>
  let r := roundTrip format q t
  (r.1.bind fun body => (decode body).mapError .hub, r.2)

end Exchange

/-! ## Exchanges that the log lets through -/

namespace Traffic

/-- The log can take the entry that opens the exchange of a request, or is not to take it. -/
def Opens (t : Traffic) (format : DocumentFormat) (q : Http.Request) : Prop :=
  t.fault? format (Exchange.openingEntry q) = none

instance (t : Traffic) (format : DocumentFormat) (q : Http.Request) :
    Decidable (t.Opens format q) :=
  inferInstanceAs (Decidable (_ = _))

/-- The log can take the entry that closes the exchange of a request, or is not to take it. -/
def Closes (t : Traffic) (format : DocumentFormat) (q : Http.Request) : Prop :=
  t.fault? format (Exchange.closingEntry format q t.nextReply) = none

instance (t : Traffic) (format : DocumentFormat) (q : Http.Request) :
    Decidable (t.Closes format q) :=
  inferInstanceAs (Decidable (_ = _))

/-- Of the entries that a log is to keep, those that it can take. -/
def written (t : Traffic) (format : DocumentFormat) (entries : List Log.Entry) : List Log.Entry :=
  ((t.logger.map (·.keep entries)).getD []).filter fun e => (t.fault? format e).isNone

@[simp] theorem written_nil (t : Traffic) (format : DocumentFormat) : t.written format [] = [] := by
  cases h : t.logger <;> simp [written, h]

theorem written_append (t : Traffic) (format : DocumentFormat) (a b : List Log.Entry) :
    t.written format (a ++ b) = t.written format a ++ t.written format b := by
  cases h : t.logger <;> simp [written, h]

theorem written_congr {t t' : Traffic} (h : t'.logger = t.logger) (format : DocumentFormat)
    (entries : List Log.Entry) : t'.written format entries = t.written format entries := by
  simp only [written, h, fault?_congr h]

/-- A log that can take all entries takes those that its logger keeps. -/
theorem written_of_forall {t : Traffic} {format : DocumentFormat} {entries : List Log.Entry}
    (h : ∀ e ∈ entries, t.fault? format e = none) :
    t.written format entries = (t.logger.map (·.keep entries)).getD [] := by
  refine List.filter_eq_self.2 fun e he => ?_
  have hmem : e ∈ entries := by
    cases hl : t.logger with
    | none => simp [hl] at he
    | some l =>
      rw [hl] at he
      exact (List.mem_filter.1 he).1
  rw [h e hmem, Option.isNone_none]

/-- A log without documents takes every entry. -/
theorem fault?_of_plain {t : Traffic} (h : ∀ l ∈ t.logger, l.structured = false)
    (format : DocumentFormat) (e : Log.Entry) : t.fault? format e = none := by
  cases hl : t.logger with
  | none => simp [fault?, hl]
  | some l => simpa [fault?, hl] using Log.Logger.fault?_of_plain (h l hl)

end Traffic

namespace Exchange

variable {format : DocumentFormat} {q : Http.Request} {t : Traffic}

/-- **An exchange whose opening entry cannot be written does nothing.** -/
theorem roundTrip_of_fault? {reason : Text}
    (h : t.fault? format (openingEntry q) = some reason) :
    roundTrip format q t = (.error (.unlogged reason), t) := by
  rw [roundTrip, Traffic.write_of_fault? h]

/-- The traffic when a reply has been read and counted. -/
def answered (q : Http.Request) (t : Traffic) : Traffic :=
  ((t.note (openingEntry q)).send q).count (updates t.nextReply)

/-- An exchange that the log lets begin is sent, answered and counted, and then closed. -/
theorem roundTrip_of_opens (h : t.Opens format q) :
    roundTrip format q t = close format q t.nextReply (answered q t) := by
  rw [roundTrip, Traffic.write_of_fault?_eq_none h]
  rfl

/-! ### The end of an exchange -/

section Close

variable {r : Http.Reply}

theorem close_of_fault? {reason : Text}
    (h : t.fault? format (closingEntry format q r) = some reason) :
    close format q r t = (.error (.unlogged reason), t) := by
  rw [close, Traffic.write_of_fault? h]

theorem close_of_fault?_eq_none (h : t.fault? format (closingEntry format q r) = none) :
    close format q r t =
      ((outcome format r).mapError .hub, t.note (closingEntry format q r)) := by
  rw [close, Traffic.write_of_fault?_eq_none h]

/-- Whether the closing entry can be written or not, nothing but the log changes. -/
theorem traffic_close : (close format q r t).2 =
    { t with log := t.log ++ t.written format [closingEntry format q r] } := by
  cases h : t.fault? format (closingEntry format q r) with
  | some reason =>
    have hwritten : t.written format [closingEntry format q r] = [] := by
      refine List.filter_eq_nil_iff.2 fun e he => ?_
      cases hl : t.logger with
      | none => simp [hl] at he
      | some l =>
        rw [hl] at he
        obtain rfl := List.mem_singleton.1 (List.mem_filter.1 he).1
        simp [h]
    rw [close_of_fault? h, hwritten, List.append_nil]
  | none =>
    rw [close_of_fault?_eq_none h, Traffic.written_of_forall (List.forall_mem_singleton.2 h)]
    rfl

end Close

/-! ### One channel at a time -/

section Channels

theorem sent_roundTrip (h : t.Opens format q) :
    (roundTrip format q t).2.sent = t.sent ++ [q] := by
  rw [roundTrip_of_opens h, traffic_close]
  rfl

theorem pending_roundTrip (h : t.Opens format q) :
    (roundTrip format q t).2.pending = t.pending.tail := by
  rw [roundTrip_of_opens h, traffic_close]
  rfl

theorem metrics_roundTrip (h : t.Opens format q) :
    (roundTrip format q t).2.metrics = t.metrics.map (·.applyAll (updates t.nextReply)) := by
  rw [roundTrip_of_opens h, traffic_close]
  rfl

/-- What an exchange logs, if the log lets it begin: its two entries, as far as the log takes them. -/
theorem log_roundTrip (h : t.Opens format q) :
    (roundTrip format q t).2.log = t.log ++ t.written format (entries format (q, t.nextReply)) := by
  have hopening : t.written format [openingEntry q] =
      (t.logger.map (·.keep [openingEntry q])).getD [] :=
    Traffic.written_of_forall (List.forall_mem_singleton.2 h)
  have hanswered : (answered q t).log = t.log ++ t.written format [openingEntry q] := by
    rw [hopening]
    rfl
  have hsame (es : List Log.Entry) : (answered q t).written format es = t.written format es :=
    Traffic.written_congr rfl format es
  have hentries : entries format (q, t.nextReply) =
      [openingEntry q] ++ [closingEntry format q t.nextReply] := rfl
  rw [roundTrip_of_opens h, traffic_close, hanswered, hsame, hentries, Traffic.written_append,
    List.append_assoc]

/-- The outcome of an exchange that the log takes whole is what the reply amounts to. -/
theorem outcome_roundTrip (h : t.Opens format q) (hc : t.Closes format q) :
    (roundTrip format q t).1 = (outcome format t.nextReply).mapError .hub := by
  rw [roundTrip_of_opens h, close_of_fault?_eq_none]
  exact hc

/-- **An exchange ends as its reply decides, unless an entry cannot be written.** -/
theorem roundTrip_cases (format : DocumentFormat) (q : Http.Request) (t : Traffic) :
    (∃ reason, (roundTrip format q t).1 = .error (.unlogged reason)) ∨
      (t.Opens format q ∧ t.Closes format q ∧
        (roundTrip format q t).1 = (outcome format t.nextReply).mapError .hub) := by
  cases hopening : t.fault? format (openingEntry q) with
  | some reason => exact .inl ⟨reason, by rw [roundTrip_of_fault? hopening]⟩
  | none =>
    have hopens : t.Opens format q := hopening
    cases hclosing : t.fault? format (closingEntry format q t.nextReply) with
    | some reason =>
      refine .inl ⟨reason, ?_⟩
      rw [roundTrip_of_opens hopens, close_of_fault?]
      exact hclosing
    | none => exact .inr ⟨hopens, hclosing, outcome_roundTrip hopens hclosing⟩

/-- The logger stays, whatever becomes of the exchange. -/
@[simp] theorem logger_roundTrip (format : DocumentFormat) (q : Http.Request) (t : Traffic) :
    (roundTrip format q t).2.logger = t.logger := by
  cases h : t.fault? format (openingEntry q) with
  | some reason => rw [roundTrip_of_fault? h]
  | none => rw [roundTrip_of_opens h, traffic_close]; rfl

@[simp] theorem outcome_fetch {ρ : Type} (format : DocumentFormat) (decode : Decoder ρ)
    (q : Http.Request) (t : Traffic) :
    (fetch format decode q t).1 =
      (roundTrip format q t).1.bind fun body => (decode body).mapError .hub := rfl

/-- Decoding leaves no traces. -/
@[simp] theorem traffic_fetch {ρ : Type} (format : DocumentFormat) (decode : Decoder ρ)
    (q : Http.Request) (t : Traffic) :
    (fetch format decode q t).2 = (roundTrip format q t).2 := rfl

end Channels

end Exchange

end ModuleRegistry
