import ModuleRegistry.Device
import ModuleRegistry.Session.Reaction

/-!
# Sessions

A session works with any number of clients and devices on one transport, one logger and one store of
metrics, each of which may be missing.  It goes step by step.  A step makes, changes, describes or
uses one client or device, which it names by its position in the order of making; before each step
the transport gets fresh replies.

`Session.step` gives the session after a step and a `Report` of it: the answer, the requests sent and
the log entries written meanwhile.  Clients and devices are values, so a step changes at most the one
that it names, and a construction that fails changes none.
-/

namespace ModuleRegistry

/-- The clients and devices of a session, with the telemetry that they share. -/
structure Session where
  clients : List Client := []
  devices : List Device := []
  logger : Option Log.Logger := none
  metrics : Option Metrics := none

namespace Session

/-! ## Steps and their answers -/

/-- Which document a request expects. -/
inductive Expected where
  | nothing
  | identity
  | identities
deriving DecidableEq

/-- The type of the document that is expected. -/
def Expected.Document : Expected → Type
  | nothing => NoContent
  | identity => Identity
  | identities => List Identity

/-- How the body of a successful reply is understood. -/
def Expected.decoder (format : DocumentFormat) : (e : Expected) → Decoder e.Document
  | nothing => .ignore
  | identity => .document format.readIdentity
  | identities => .document format.readIdentities

/-- One thing to do. -/
inductive Step where
  | connect (transport : Bool) (apiVersion baseUrl : Text)
  | copy (client : Nat)
  | setTimeout (client : Nat) (ms : Int)
  | describe (client : Nat)
  | url (client : Nat) (path : Text) (parameters : Table Text)
  | compose (client : Nat) (method : Http.Method) (path : Text) (parameters : Table Text)
      (body : Text) (conditional : Bool)
  /-- Exchanges a request as it stands. -/
  | exchange (q : Http.Request)
  /-- Exchanges a request of a client, with a handler if a reaction is given. -/
  | request (client : Nat) (method : Http.Method) (path : Text) (parameters : Table Text)
      (conditional : Bool) (expected : Expected) (reaction : Option Reaction)
  /-- Exchanges a request of a client as any handler decides. -/
  | handle (client : Nat) (method : Http.Method) (path : Text) (parameters : Table Text)
      (conditional : Bool) (expected : Expected) (handler : Handler expected.Document Text)
  | device (client : Nat) (id : Text)
  | create (device : Nat) (moduleId : Text) (authentication : Option AuthMechanism)
  | update (device : Nat) (moduleId : Text) (authentication : Option AuthMechanism)
  | get (device : Nat) (moduleId : Text)
  | list (device : Nat)
  | delete (device : Nat) (moduleId : Text)
  /-- Reads the metrics of the exchanges so far. -/
  | readMetrics

/-- What a step that succeeds answers. -/
inductive Answer where
  | index (i : Nat)
  | number (n : Int)
  | client (c : Client)
  | text (t : Text)
  | request (q : Http.Request)
  | absent
  | identity (i : Identity)
  | identities (is : List Identity)
  /-- The counts of exchanges, of failed ones and of latencies. -/
  | counts (requests failures : Int) (latencies : Nat)
deriving DecidableEq

/-- Why a step fails. -/
inductive Failure where
  | hub (error : HubError)
  /-- A structured log could not take an entry. -/
  | unlogged (reason : Text)
  | noTransport
  | noSuchIndex
deriving DecidableEq

/-- The failure of a step whose call fails. -/
def Failure.ofCall : Call.Failure → Failure
  | .hub e => .hub e
  | .unlogged reason => .unlogged reason

/-- How a step ends. -/
abbrev Outcome := Except Failure Answer

/-! ## Effects of a step -/

/-- What a step does: its outcome, the session and the traffic after it. -/
structure Effect where
  outcome : Outcome
  session : Session
  traffic : Traffic

namespace Effect

/-- Answers and leaves the session and the traffic as given. -/
def answer (s : Session) (t : Traffic) (a : Answer) : Effect := ⟨.ok a, s, t⟩

/-- Fails and leaves the session and the traffic as given. -/
def fail (s : Session) (t : Traffic) (f : Failure) : Effect := ⟨.error f, s, t⟩

/-- Makes a call and answers with its result. -/
def call {α : Type} (s : Session) (t : Traffic) (c : Call α) (f : α → Answer) : Effect :=
  let r := c t
  ⟨(r.1.map f).mapError .ofCall, s, r.2⟩

end Effect

/-- Goes on with the client at a position, or fails if there is none. -/
def withClient (s : Session) (t : Traffic) (i : Nat) (go : Client → Effect) : Effect :=
  match s.clients[i]? with
  | some c => go c
  | none => .fail s t .noSuchIndex

/-- Goes on with the device at a position, or fails if there is none. -/
def withDevice (s : Session) (t : Traffic) (i : Nat) (go : Device → Effect) : Effect :=
  match s.devices[i]? with
  | some d => go d
  | none => .fail s t .noSuchIndex

/-- Adds a client and answers with its position. -/
def addClient (s : Session) (t : Traffic) (c : Client) : Effect :=
  .answer { s with clients := s.clients ++ [c] } t (.index s.clients.length)

/-- A document as an answer. -/
def Answer.ofDocument : {e : Expected} → e.Document → Answer
  | .nothing => nofun
  | .identity => .identity
  | .identities => .identities

/-- A document that may be absent as an answer. -/
def Answer.ofOption {e : Expected} : Option e.Document → Answer
  | some value => .ofDocument value
  | none => .absent

/-- Exchanges a request of a client; a handler decides the answer if there is one. -/
def exchange (s : Session) (t : Traffic) (format : DocumentFormat) (c : Client)
    (method : Http.Method) (path : Text) (parameters : Table Text) (conditional : Bool)
    (expected : Expected) : Option (Handler expected.Document Text) → Effect
  | some handler =>
    .call s t (c.askWith format (expected.decoder format) method path conditional handler
      parameters) .text
  | none =>
    .call s t (c.ask format (expected.decoder format) method path conditional parameters)
      .ofOption

/-- What a step does in a session, with the given traffic before it. -/
def perform (s : Session) (format : DocumentFormat) (t : Traffic) : Step → Effect
  | .connect transport apiVersion baseUrl =>
    match Client.connect transport apiVersion baseUrl with
    | .ok c => s.addClient t c
    | .error (.invalid e) => .fail s t (.hub e)
    | .error .noTransport => .fail s t .noTransport
  | .copy i => s.withClient t i fun c => s.addClient t c
  | .setTimeout i ms => s.withClient t i fun c =>
    .answer { s with clients := s.clients.set i (c.withTimeout ms) } t (.number ms)
  | .describe i => s.withClient t i fun c => .answer s t (.client c)
  | .url i path parameters => s.withClient t i fun c => .answer s t (.text (c.url path parameters))
  | .compose i method path parameters body conditional => s.withClient t i fun c =>
    .answer s t (.request (c.compose method path parameters body conditional))
  | .exchange q => .call s t (Exchange.roundTrip format q) .text
  | .request i method path parameters conditional expected reaction => s.withClient t i fun c =>
    s.exchange t format c method path parameters conditional expected
      (reaction.map Reaction.handler)
  | .handle i method path parameters conditional expected handler => s.withClient t i fun c =>
    s.exchange t format c method path parameters conditional expected (some handler)
  | .device i id => s.withClient t i fun c =>
    match Device.make c id with
    | .ok d => .answer { s with devices := s.devices ++ [d] } t (.text d.id)
    | .error e => .fail s t (.hub e)
  | .create i moduleId authentication => s.withDevice t i fun d =>
    .call s t (d.create format moduleId authentication) .identity
  | .update i moduleId authentication => s.withDevice t i fun d =>
    .call s t (d.update format moduleId authentication) .identity
  | .get i moduleId => s.withDevice t i fun d => .call s t (d.get format moduleId) .identity
  | .list i => s.withDevice t i fun d => .call s t (d.list format) .identities
  | .delete i moduleId => s.withDevice t i fun d =>
    .call s t (d.delete format moduleId) fun _ => .absent
  | .readMetrics =>
    let m := s.metrics.getD {}
    .answer s t (.counts (m.counter Exchange.requests) (m.counter Exchange.failures)
      (m.sampleCount Exchange.latency))

/-! ## Runs -/

/-- A step with the replies that the transport gets before it. -/
structure Turn where
  step : Step
  replies : List Http.Reply := []

/-- What a step did: its outcome, the requests that it sent and the entries that it logged. -/
structure Report where
  outcome : Outcome
  sent : List Http.Request
  log : List Log.Entry

/-- The traffic at the start of a step that the transport has these replies for. -/
def traffic (s : Session) (replies : List Http.Reply) : Traffic where
  pending := replies
  logger := s.logger
  metrics := s.metrics

/-- The report of a turn and the session after it. -/
def step (s : Session) (format : DocumentFormat) (turn : Turn) : Report × Session :=
  let e := s.perform format (s.traffic turn.replies) turn.step
  (⟨e.outcome, e.traffic.sent, e.traffic.log⟩, { e.session with metrics := e.traffic.metrics })

/-- The reports of turns in order. -/
def run (s : Session) (format : DocumentFormat) : List Turn → List Report
  | [] => []
  | turn :: r =>
    let (report, s') := s.step format turn
    report :: run s' format r

/-- The session that turns in order leave behind. -/
def after (s : Session) (format : DocumentFormat) (turns : List Turn) : Session :=
  turns.foldl (fun s turn => (s.step format turn).2) s

@[simp] theorem run_nil (s : Session) (format : DocumentFormat) : s.run format [] = [] := rfl

@[simp] theorem run_cons (s : Session) (format : DocumentFormat) (turn : Turn) (r : List Turn) :
    s.run format (turn :: r) =
      (s.step format turn).1 :: (s.step format turn).2.run format r := rfl

@[simp] theorem after_nil (s : Session) (format : DocumentFormat) : s.after format [] = s := rfl

@[simp] theorem after_cons (s : Session) (format : DocumentFormat) (turn : Turn)
    (r : List Turn) : s.after format (turn :: r) = (s.step format turn).2.after format r := rfl

end Session

end ModuleRegistry
