import ModuleRegistry.Proofs.Grammar
import ModuleRegistry.Proofs.Operations

/-!
# What a command amounts to

The operands of a run ask for a command (`Asks`), unless the arguments are misused (`Misused`).  This
module says what a command amounts to, without the layers that it passes through:

* the `settings` that it works under, in which each override has its rank;
* its `faults`, which are the bad inputs in the order in which they are checked;
* the `request` that it sends, part by part, if it sends no document;
* the `answer` that it gives to a reply: a line that reports a failure, or what it prints.

Each is proved of what the layers do: `attempt_of_faults`, `request_eq`, `answer_eq`.
-/

namespace ModuleRegistry.CommandLine

open Text (ascii)
open Text.Percent (encode)

/-! ## Commands -/

/-- Operands that ask for a command.  Those beyond the ones that it needs are ignored. -/
inductive Asks : List Text → Command → Prop
  | list (rest : List Text) : Asks (Action.list.name :: rest) ⟨.list, []⟩
  | onModule {action : Action} (h : action ≠ .list) (moduleId : Text) (rest : List Text) :
      Asks (action.name :: moduleId :: rest) ⟨action, moduleId⟩

lemma asks_iff {ts : List Text} {command : Command} :
    Asks ts command ↔ Command.ofOperands ts = .ok command := by
  constructor
  · intro h
    cases h with
    | list rest => simp [Command.ofOperands]
    | @onModule action h moduleId rest =>
      cases action with
      | list => contradiction
      | _ => simp [Command.ofOperands]
  · intro h
    rcases ts with _ | ⟨name, rest⟩
    · contradiction
    cases hname : Action.ofName? name with
    | none => simp [Command.ofOperands, hname] at h
    | some action =>
      obtain rfl : action.name = name := Action.name_of_ofName? hname
      by_cases haction : action = .list
      · subst haction
        obtain rfl : ⟨.list, []⟩ = command := by simpa [Command.ofOperands] using h
        exact .list rest
      · rcases rest with _ | ⟨moduleId, rest⟩
        · cases action with
          | list => contradiction
          | _ => simp [Command.ofOperands] at h
        · have hcommand : (⟨action, moduleId⟩ : Command) = command := by
            cases action with
            | list => contradiction
            | _ => simpa [Command.ofOperands] using h
          exact hcommand ▸ .onModule haction moduleId rest

/-- Arguments with an option that cannot be used, or without a command. -/
def Misused (args : List Text) : Prop :=
  (∃ gs token, Reads args gs (some (.unusable token))) ∨
    ∃ gs, Reads args gs none ∧ ∀ command, ¬Asks (operands gs) command

lemma asks_unique {ts : List Text} {command command' : Command} (h : Asks ts command)
    (h' : Asks ts command') : command = command' :=
  Except.ok.inj ((asks_iff.1 h).symm.trans (asks_iff.1 h'))

lemma not_reads_some {args : List Text} {gs : List Group} (h : Reads args gs none) (e : Terminal)
    (gs' : List Group) : ¬Reads args gs' (some e) := by
  intro h'
  have hend : none = some e := (reads_unique h h').2
  contradiction

lemma not_misused {args : List Text} {gs : List Group} {command : Command}
    (h : Reads args gs none) (hasks : Asks (operands gs) command) : ¬Misused args := by
  rintro (⟨gs', token, h'⟩ | ⟨gs', h', hnone⟩)
  · exact not_reads_some h _ gs' h'
  · obtain rfl := (reads_unique h h').1
    exact hnone command hasks

/-- Arguments that are not misused, and do not end at `--version` or `--help`, ask for a command. -/
lemma exists_asks {args : List Text} (h : ¬Misused args)
    (hversion : ∀ gs, ¬Reads args gs (some .version)) (hhelp : ∀ gs, ¬Reads args gs (some .help)) :
    ∃ gs command, Reads args gs none ∧ Asks (operands gs) command := by
  obtain ⟨gs, e, hreads⟩ : ∃ gs e, Reads args gs e := ⟨_, _, reads_read args⟩
  rcases e with _ | e
  · by_cases hasks : ∃ command, Asks (operands gs) command
    · obtain ⟨command, hcommand⟩ := hasks
      exact ⟨gs, command, hreads, hcommand⟩
    · exact absurd (.inr ⟨gs, hreads, not_exists.1 hasks⟩) h
  · cases e with
    | version => exact absurd hreads (hversion gs)
    | help => exact absurd hreads (hhelp gs)
    | unusable token => exact absurd (.inl ⟨gs, token, hreads⟩) h

/-! ## Settings -/

/-- The first text that is there and not empty. -/
def firstGiven (candidates : List (Option Text)) : Option Text :=
  candidates.findSome? (Option.filter (· ≠ []))

/-- The configuration under which a job works: the environment names the host before the
configuration does, and `--device` the device before either. -/
def settings (gs : List Group) (environment : Config.Environment) (c : Config) : Config :=
  { c with
    baseUrl := ((firstGiven [environment.hostname]).map (ascii "https://" ++ ·)).getD c.baseUrl
    deviceId := (firstGiven [lastValue .device gs, environment.deviceId]).getD c.deviceId }

lemma firstGiven_cons (candidate : Option Text) (rest : List (Option Text)) :
    firstGiven (candidate :: rest) = (Config.nonempty candidate).or (firstGiven rest) := by
  rcases candidate with _ | _ | ⟨b, r⟩ <;> simp [firstGiven, Config.nonempty]

lemma configure_under (gs : List Group) (environment : Config.Environment) (c : Config) :
    (Options.ofGroups gs).configure (c.under environment) = settings gs environment c := by
  have hnil : firstGiven [] = none := rfl
  rw [ofGroups_eq]
  simp only [Options.configure, settings, Config.under, firstGiven_cons, hnil, Option.or_none]
  rcases lastValue .device gs with _ | _ | ⟨b, r⟩ <;> simp [Config.nonempty]

/-! ## Bad inputs -/

/-- What is wrong with the inputs of a command, in the order in which they are checked. -/
def faults (c : Config) (command : Command) : List HubError :=
  (if Text.isBlank c.apiVersion then [.emptyArgument (ascii "api_version")] else []) ++
  (match BaseUrl.parse c.baseUrl with
    | .error flaw => [.invalidUrl flaw c.baseUrl]
    | .ok _ => []) ++
  (if Text.isBlank c.deviceId then [.emptyArgument (ascii "device_id")] else []) ++
  (if command.action ≠ .list ∧ Text.isBlank command.moduleId = true then
    [.emptyArgument (ascii "module_id")] else [])

lemma faults_eq_nil_iff {c : Config} {command : Command} :
    faults c command = [] ↔ Text.isBlank c.apiVersion = false ∧
      (∃ url, BaseUrl.parse c.baseUrl = .ok url) ∧ Text.isBlank c.deviceId = false ∧
      (command.action ≠ .list → Text.isBlank command.moduleId = false) := by
  cases hurl : BaseUrl.parse c.baseUrl with
  | error flaw => simp [faults, hurl]
  | ok url => simp [faults, hurl]

lemma device_of_good {c : Config} {url : BaseUrl} (hversion : Text.isBlank c.apiVersion = false)
    (hurl : BaseUrl.parse c.baseUrl = .ok url) (hdevice : Text.isBlank c.deviceId = false) :
    device c = .ok ⟨⟨c.apiVersion, url, c.http.timeoutMs⟩, c.deviceId⟩ := by
  simp [device, Client.make, Client.withTimeout, Device.make, hversion, hurl, hdevice]

/-- Every action on a single module looks at its identifier first. -/
lemma call_of_blank {job : Job} (haction : job.command.action ≠ .list)
    (hblank : Text.isBlank job.command.moduleId = true) (format : DocumentFormat) (d : Device)
    (t : Traffic) :
    job.call format d t = (.error (.hub (.emptyArgument (ascii "module_id"))), t) := by
  rw [Job.call]
  cases h : job.command.action with
  | list => contradiction
  | _ =>
    simp [printing, Device.get, Device.create, Device.update, Device.store, Device.delete,
      Device.onModule, hblank, logging, Except.map]

/-- **The first fault is reported**, and nothing is sent. -/
lemma attempt_of_faults (job : Job) {c : Config} {e : HubError} {more : List HubError}
    (h : faults c job.command = e :: more) (format : DocumentFormat) (t : Traffic) :
    job.attempt format c t = (.error (.hub e), t) := by
  rw [Job.attempt]
  cases hversion : Text.isBlank c.apiVersion with
  | true =>
    obtain rfl : .emptyArgument (ascii "api_version") = e := by simp_all [faults]
    simp [device, Client.make, hversion]
  | false =>
    cases hurl : BaseUrl.parse c.baseUrl with
    | error flaw =>
      obtain rfl : .invalidUrl flaw c.baseUrl = e := by simp_all [faults]
      simp [device, Client.make, hversion, hurl]
    | ok url =>
      cases hdevice : Text.isBlank c.deviceId with
      | true =>
        obtain rfl : .emptyArgument (ascii "device_id") = e := by simp_all [faults]
        simp [device, Client.make, Device.make, hversion, hurl, hdevice]
      | false =>
        have hmodule : job.command.action ≠ .list ∧ Text.isBlank job.command.moduleId = true := by
          by_contra hnot
          simp [faults, hversion, hurl, hdevice, hnot] at h
        obtain rfl : .emptyArgument (ascii "module_id") = e := by simp_all [faults]
        rw [device_of_good hversion hurl hdevice]
        exact call_of_blank hmodule.1 hmodule.2 format _ t

/-! ## Requests -/

/-- The operation that a command comes to, unless it sends a document. -/
def Command.operation? : Command → Option Device.Operation
  | ⟨.list, _⟩ => some .list
  | ⟨.get, moduleId⟩ => some (.get moduleId)
  | ⟨.delete, moduleId⟩ => some (.delete moduleId)
  | _ => none

lemma exists_operation? {command : Command} (hcreate : command.action ≠ .create)
    (hupdate : command.action ≠ .update) : ∃ op, command.operation? = some op := by
  obtain ⟨action, moduleId⟩ := command
  cases action with
  | create => contradiction
  | update => contradiction
  | _ => exact ⟨_, rfl⟩

/-- The request of a command that sends no document, to a base address that was accepted. -/
def Command.request (command : Command) (c : Config) (url : BaseUrl) : Http.Request where
  method := if command.action = .delete then .delete else .get
  url := url.text ++ ascii "/devices/" ++ encode c.deviceId ++ ascii "/modules" ++
    (if command.action = .list then [] else ascii "/" ++ encode command.moduleId) ++
    ascii "?api-version=" ++ encode c.apiVersion
  headers := .ofList <|
    [(ascii "Accept", ascii "application/json"), (ascii "User-Agent", Product.userAgent)] ++
    if command.action = .delete then [(ascii "If-Match", ascii "*")] else []
  body := []
  timeoutMs := c.http.timeoutMs

/-- The device that a command is for, with the client that a run makes. -/
def deviceOf (c : Config) (url : BaseUrl) : Device :=
  ⟨⟨c.apiVersion, url, c.http.timeoutMs⟩, c.deviceId⟩

/-- What the client of a run composes for a path that begins with a slash. -/
lemma compose_deviceOf (c : Config) (url : BaseUrl) (method : Http.Method) (conditional : Bool)
    {path : Text} (hpath : path.head? = some '/'.toUInt8) :
    (deviceOf c url).client.compose method path ∅ [] conditional =
      { method := method
        url := url.text ++ path ++ ascii "?api-version=" ++ encode c.apiVersion
        headers := Client.headers [] conditional
        body := []
        timeoutMs := c.http.timeoutMs } := by
  rw [Client.compose, Client.url_of_slash _ hpath]
  rfl

section Operations

variable {command : Command} {op : Device.Operation} (hop : command.operation? = some op)
include hop

lemma named_of_operation? (hid : command.action ≠ .list → Text.isBlank command.moduleId = false) :
    op.Named := by
  obtain ⟨action, moduleId⟩ := command
  cases action with
  | list => obtain rfl := Option.some.inj hop; nofun
  | get =>
    obtain rfl := Option.some.inj hop
    exact Device.Operation.named_of_moduleId? rfl (hid nofun)
  | delete =>
    obtain rfl := Option.some.inj hop
    exact Device.Operation.named_of_moduleId? rfl (hid nofun)
  | create => contradiction
  | update => contradiction

/-- **The request that a client composes for a device is the one that the command spells out.** -/
lemma request_eq (c : Config) (url : BaseUrl) :
    op.request (deviceOf c url) = command.request c url := by
  obtain ⟨action, moduleId⟩ := command
  cases action with
  | list =>
    obtain rfl := Option.some.inj hop
    rw [Device.Operation.request, compose_deviceOf c url _ _ rfl]
    simp [Command.request, Device.Operation.method, Device.Operation.path, deviceOf,
      Device.collectionPath, Device.Operation.isConditional, Client.headers]
  | get =>
    obtain rfl := Option.some.inj hop
    rw [Device.Operation.request, compose_deviceOf c url _ _ rfl]
    simp [Command.request, Device.Operation.method, Device.Operation.path, deviceOf,
      Device.memberPath, Device.collectionPath, Device.Operation.isConditional, Client.headers]
  | delete =>
    obtain rfl := Option.some.inj hop
    rw [Device.Operation.request, compose_deviceOf c url _ _ rfl]
    simp [Command.request, Device.Operation.method, Device.Operation.path, deviceOf,
      Device.memberPath, Device.collectionPath, Device.Operation.isConditional, Client.headers,
      Exchange.ifMatch]
  | create => contradiction
  | update => contradiction

end Operations

/-! ## Answers -/

/-- The line that reports an error of some kind. -/
def report (kind message : Text) : Text :=
  ascii "Error [" ++ kind ++ ascii "]: " ++ Text.untilNul message ++ ascii "\n"

/-- What a command does with the body of a success that it understands with `read`. -/
def understood {α : Type} (read : Text → Except Text α) (render : α → Text) (body : Text) :
    Except Text Text :=
  if Text.isBlank body then
    .error (report (ascii "EmptyResponse") (ascii "Hub returned an empty response body"))
  else
    match read body with
    | .ok a => .ok (render a ++ ascii "\n")
    | .error reason =>
      .error (report (ascii "Serialization")
        (ascii "Failed to deserialize response body: " ++ reason))

/-- There is no document, or there is one that can be read or cannot. -/
lemma understood_cases {α : Type} (read : Text → Except Text α) (render : α → Text)
    (body : Text) :
    (understood read render body = .error (errorLine .emptyResponse) ∧
        Decoder.document read body = .ok none) ∨
      (∃ a, understood read render body = .ok (render a ++ ascii "\n") ∧
        Decoder.document read body = .ok (some a)) ∨
      ∃ reason, understood read render body = .error (errorLine (.unreadable reason)) ∧
        Decoder.document read body = .error (.unreadable reason) := by
  cases hbody : Text.isBlank body with
  | true => exact .inl ⟨if_pos hbody, Decoder.document_blank read hbody⟩
  | false =>
    cases hread : read body with
    | ok a => exact .inr (.inl ⟨a, by simp [understood, hbody, hread], by
        simp [Decoder.document, hbody, hread]⟩)
    | error reason =>
      refine .inr (.inr ⟨reason, ?_, by simp [Decoder.document, hbody, hread]⟩)
      simp only [understood, hbody, hread]
      rfl

/-- What the hub says in the body of a refusal, behind the status. -/
def explanation (format : DocumentFormat) (body : Text) : Text :=
  match (if Text.isBlank body then none else format.readRemoteError body).bind (·.message) with
  | some message => ascii ": " ++ message
  | none => []

/-- How a command that sends no document ends on a reply: with the line that reports a failure, or
with what it prints. -/
def Command.answer (command : Command) (format : DocumentFormat) (r : Http.Reply) :
    Except Text Text :=
  if r.error ≠ [] then .error (report (ascii "Transport") r.error)
  else if 200 ≤ r.status ∧ r.status ≤ 299 then
    match command.action with
    | .delete => .ok []
    | .list => understood format.readIdentities format.showIdentities r.body
    | _ => understood format.readIdentity format.showIdentity r.body
  else if command.action = .get ∧ r.status = 404 then
    .error (report (ascii "ModuleNotFound")
      (ascii "Module " ++ command.moduleId ++ ascii " not found"))
  else
    .error (report (ascii "HubService")
      (ascii "Hub returned status " ++ Text.ofInt r.status ++ explanation format r.body))

/-- What goes to standard output for an answer. -/
def printed (format : DocumentFormat) : Session.Answer → Text
  | .identity i => format.showIdentity i ++ ascii "\n"
  | .identities is => format.showIdentities is ++ ascii "\n"
  | _ => []

section Operations

variable {command : Command} {op : Device.Operation} (hop : command.operation? = some op)
  (format : DocumentFormat)
include hop

/-- What a command answers to a success is what its operation settles. -/
lemma answer_of_success {r : Http.Reply} (herror : r.error = [])
    (hstatus : 200 ≤ r.status ∧ r.status ≤ 299) :
    command.answer format r =
      ((op.settle format (.ok r.body)).map (printed format)).mapError failureLine := by
  rw [Command.answer, if_neg (not_not.2 herror), if_pos hstatus]
  obtain ⟨action, moduleId⟩ := command
  cases action with
  | list =>
    obtain rfl := Option.some.inj hop
    rcases understood_cases format.readIdentities format.showIdentities r.body with
        ⟨h, hdocument⟩ | ⟨is, h, hdocument⟩ | ⟨reason, h, hdocument⟩ <;>
      · simp only [h, Device.Operation.settle, Except.bind, hdocument]
        rfl
  | get =>
    obtain rfl := Option.some.inj hop
    rcases understood_cases format.readIdentity format.showIdentity r.body with
        ⟨h, hdocument⟩ | ⟨i, h, hdocument⟩ | ⟨reason, h, hdocument⟩ <;>
      · simp only [h, Device.Operation.settle, Except.bind, hdocument]
        rfl
  | delete =>
    obtain rfl := Option.some.inj hop
    rfl
  | create => contradiction
  | update => contradiction

/-- What a command answers to a refusal is what its operation makes of it. -/
lemma answer_of_refusal {r : Http.Reply} (herror : r.error = [])
    (hstatus : ¬(200 ≤ r.status ∧ r.status ≤ 299)) :
    command.answer format r = .error (errorLine (op.judge (Exchange.refusal format r))) := by
  rw [Command.answer, if_neg (not_not.2 herror), if_neg hstatus]
  obtain ⟨action, moduleId⟩ := command
  cases action with
  | list =>
    obtain rfl := Option.some.inj hop
    rfl
  | get =>
    obtain rfl := Option.some.inj hop
    rw [Device.Operation.judge, Exchange.refusal, Device.missing_refused]
    by_cases h404 : r.status = 404
    · rw [if_pos ⟨rfl, h404⟩, if_pos h404]
      rfl
    · rw [if_neg fun h => h404 h.2, if_neg h404]
      rfl
  | delete =>
    obtain rfl := Option.some.inj hop
    rfl
  | create => contradiction
  | update => contradiction

/-- **What a command answers is what its operation settles.** -/
lemma answer_eq (r : Http.Reply) :
    command.answer format r =
      ((op.settle format ((Exchange.outcome format r).mapError .hub)).map
        (printed format)).mapError failureLine := by
  by_cases herror : r.error = []
  · by_cases hstatus : 200 ≤ r.status ∧ r.status ≤ 299
    · rw [Exchange.outcome_of_success format herror hstatus]
      exact answer_of_success hop format herror hstatus
    · rw [Exchange.outcome_of_refusal format herror hstatus, Call.Failure.mapError_error,
        Device.Operation.settle_hub]
      exact answer_of_refusal hop format herror hstatus
  · rw [Exchange.outcome_of_error format herror, Call.Failure.mapError_error,
      Device.Operation.settle_hub, Device.Operation.judge_transport, Command.answer, if_pos herror]
    rfl

end Operations

end ModuleRegistry.CommandLine
