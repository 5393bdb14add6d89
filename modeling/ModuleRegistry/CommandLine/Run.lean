import ModuleRegistry.CommandLine.Arguments
import ModuleRegistry.Config
import ModuleRegistry.Device

/-!
# Running the command line

A run is decided in two stages.  `plan` looks at the arguments alone and yields either a job or an
early end: the version, the usage or a usage error.  `Job.run` then loads the configuration, applies
the environment and the options to it, and does the job with a client and a device made from it.

What is written to standard error is kept in `Chunk`s, so that log entries stay apart from the
program's own messages.

Exit codes: 0 for success, 1 for a failure of the job, 2 for a usage error.  A failure is reported by
its line (`failureLine`): an error of the library with its kind, and anything else, which is a
configuration that cannot be read or a log entry that cannot be written, as fatal.  The first log
entry comes before the transport is set up, so a run that fails there has none.
-/

namespace ModuleRegistry.CommandLine

open Text (ascii)

/-! ## Outcomes -/

/-- A piece of what is written to standard error. -/
inductive Chunk where
  | plain (text : Text)
  | entry (structured : Bool) (e : Log.Entry)
deriving DecidableEq

/-- What a run comes to. -/
structure Outcome where
  exit : Nat := 0
  stdout : Text := []
  stderr : List Chunk := []
  sent : List Http.Request := []
  /-- How the transport was set up, if the run came that far. -/
  http : Option Config.Http := none
deriving DecidableEq

/-! ## Messages -/

/-- The commands and options, line by line. -/
def synopsis : List String :=
  ["Commands:",
    "  list                 List module identities of the device",
    "  get <module>         Show one module identity",
    "  create <module>      Create a module identity",
    "  update <module>      Overwrite an existing module identity",
    "  delete <module>      Delete a module identity",
    "Options:",
    "  --config PATH        Configuration file path (default: config/hub.json)",
    "  --device ID          Device id (overrides config and IOTEDGE_DEVICEID)",
    "  --primary-key KEY    Symmetric primary key for create/update",
    "  --secondary-key KEY  Symmetric secondary key for create/update",
    "  --verbose            Debug logging and a metrics summary on exit",
    "  --version            Print version",
    "  --help               Show this help message"]

/-- How to use the program, which was called by the given name. -/
def usage (program : Text) : Text :=
  ascii "Usage: " ++ program ++ ascii " [options] <command> [module]\n" ++
    synopsis.flatMap fun line => ascii line ++ ascii "\n"

/-- The answer to `--version`. -/
def versionLine : Text := Product.name ++ ascii " " ++ Product.version ++ ascii "\n"

/-- What is said about operands that are no command. -/
def UsageError.message (program : Text) : UsageError → Text
  | noCommand => usage program
  | unknownCommand name => ascii "Unknown command: " ++ name ++ ascii "\n" ++ usage program
  | noModule action => ascii "Command '" ++ action.name ++ ascii "' requires a module id\n"

/-- The line that reports an error of the library. -/
def errorLine (e : HubError) : Text :=
  ascii "Error [" ++ e.kind.name ++ ascii "]: " ++ e.shown ++ ascii "\n"

/-- The line that reports a failure for which the library has no error. -/
def fatalLine (reason : Text) : Text :=
  ascii "Fatal error: " ++ Text.untilNul reason ++ ascii "\n"

/-- The line that reports a failure. -/
def failureLine : Call.Failure → Text
  | .hub e => errorLine e
  | .unlogged reason => fatalLine reason

/-! ## Early ends -/

/-- The end of a run at a token that decides it alone. -/
def Terminal.outcome (program : Text) : Terminal → Outcome
  | version => { stdout := versionLine }
  | help => { stdout := usage program }
  | unusable token =>
    { exit := 2
      stderr :=
        [.plain
          (ascii "Unknown or incomplete option: " ++ token ++ ascii "\n" ++ usage program)] }

/-- The end of a run whose operands are no command. -/
def UsageError.outcome (program : Text) (e : UsageError) : Outcome :=
  { exit := 2, stderr := [.plain (e.message program)] }

/-- What a run is to do, once the arguments have been read. -/
structure Job where
  options : Options
  command : Command
deriving DecidableEq

/-- The job that arguments ask for, or the early end of the run. -/
def plan (program : Text) (args : List Text) : Except Outcome Job :=
  let reading := read args
  match reading.terminal with
  | some t => .error (t.outcome program)
  | none =>
    let options := Options.ofGroups reading.groups
    match Command.ofOperands options.operands with
    | .error e => .error (e.outcome program)
    | .ok command => .ok { options, command }

/-! ## Jobs -/

namespace Options

/-- A configuration with the device that the options name, if they name one. -/
def configure (o : Options) (c : Config) : Config :=
  if o.device.isEmpty then c else { c with deviceId := o.device }

/-- The logger of a run: that of the configuration, but from `debug` on if the run is verbose. -/
def logger (o : Options) (c : Config) : Log.Logger :=
  .ofName (if o.verbose then ascii "debug" else c.logLevel) c.structuredLog

/-- The keys that the options give, an empty one counting as absent. -/
def authentication (o : Options) : Option AuthMechanism :=
  if o.primaryKey.isEmpty && o.secondaryKey.isEmpty then none
  else some
    { type := some .sas
      symmetricKey := some
        { primary := Config.nonempty (some o.primaryKey)
          secondary := Config.nonempty (some o.secondaryKey) } }

end Options

/-- The part of the program that a run logs for. -/
def subsystem : Text := ascii "Cli"

/-- What is logged at the start of a job: the hub and the device. -/
def startEntry (c : Config) (action : Action) : Log.Entry where
  level := .info
  subsystem := subsystem
  message := ascii "Using hub " ++ c.baseUrl
  fields := .ofList [(ascii "apiVersion", c.apiVersion), (ascii "command", action.name)]
  deviceId := c.deviceId

/-- What is logged about a deletion that has succeeded. -/
def deletedEntry (d : Device) (moduleId : Text) : Log.Entry where
  level := .info
  subsystem := subsystem
  message := ascii "Deleted module " ++ moduleId
  deviceId := d.id

/-- The device of a configuration, with the client of the configuration. -/
def device (c : Config) : Except HubError Device :=
  match Client.make c.apiVersion c.baseUrl with
  | .error e => .error e
  | .ok client => Device.make (client.withTimeout c.http.timeoutMs) c.deviceId

/-- A call whose result is printed as a line. -/
def printing {α : Type} (c : Call α) (render : α → Text) : Call Text := fun t =>
  let r := c t
  (r.1.map fun a => render a ++ ascii "\n", r.2)

/-- A call that logs an entry when it has succeeded, and then prints nothing. -/
def logging (c : Call Unit) (format : DocumentFormat) (e : Log.Entry) : Call Text := fun t =>
  let r := c t
  match r.1 with
  | .error f => (.error f, r.2)
  | .ok () =>
    match r.2.write format e with
    | .error reason => (.error (.unlogged reason), r.2)
    | .ok t => (.ok [], t)

namespace Job

/-- Does the job with a device; the result is what goes to standard output. -/
def call (job : Job) (format : DocumentFormat) (d : Device) : Call Text :=
  let moduleId := job.command.moduleId
  match job.command.action with
  | .list => printing (d.list format) format.showIdentities
  | .get => printing (d.get format moduleId) format.showIdentity
  | .create =>
    printing (d.create format moduleId job.options.authentication) format.showIdentity
  | .update =>
    printing (d.update format moduleId job.options.authentication) format.showIdentity
  | .delete => logging (d.delete format moduleId) format (deletedEntry d moduleId)

/-- Makes the device of the configuration and does the job with it. -/
def attempt (job : Job) (format : DocumentFormat) (config : Config) : Call Text := fun t =>
  match device config with
  | .error e => (.error (.hub e), t)
  | .ok d => job.call format d t

/-- The traffic before anything is logged: the replies to come and the run's telemetry. -/
def start (job : Job) (config : Config) (replies : List Http.Reply) : Traffic where
  pending := replies
  logger := some (job.options.logger config)
  metrics := some {}

/-- What the run prints about its metrics when it has succeeded. -/
def summary (job : Job) (format : DocumentFormat) (t : Traffic) : List Chunk :=
  if job.options.verbose then
    [.plain (format.showMetrics (t.metrics.getD {}) ++ ascii "\n")]
  else []

/-- The outcome of a job whose attempt came to a result with some traffic, behind what had been said
to standard error before. -/
def conclude (job : Job) (format : DocumentFormat) (config : Config) (notices : List Chunk)
    (result : Except Call.Failure Text) (t : Traffic) : Outcome :=
  let written := notices ++ t.log.map (.entry config.structuredLog)
  match result with
  | .ok stdout =>
    { stdout
      stderr := written ++ job.summary format t
      sent := t.sent
      http := some config.http }
  | .error f =>
    { exit := 1
      stderr := written ++ [.plain (failureLine f)]
      sent := t.sent
      http := some config.http }

/-- The outcome of a run that fails before its transport is set up. -/
def abort (notices : List Chunk) (reason : Text) : Outcome where
  exit := 1
  stderr := notices ++ [.plain (fatalLine reason)]

/-- Runs the job: `load` gives the configuration at a path and `replies` what the transport
answers. -/
def run (job : Job) (format : DocumentFormat) (load : Text → Config.Loaded)
    (environment : Config.Environment) (replies : List Http.Reply) : Outcome :=
  let loaded := load job.options.configPath
  let notices : List Chunk := if loaded.notice.isEmpty then [] else [.plain loaded.notice]
  match loaded.result with
  | .error reason => abort notices reason
  | .ok base =>
    let config := job.options.configure (base.under environment)
    match (job.start config replies).write format (startEntry config job.command.action) with
    | .error reason => abort notices reason
    | .ok t =>
      let (result, t) := job.attempt format config t
      job.conclude format config notices result t

end Job

/-- Runs the program that was called by a name with some arguments. -/
def run (program : Text) (format : DocumentFormat) (load : Text → Config.Loaded)
    (environment : Config.Environment) (replies : List Http.Reply) (args : List Text) : Outcome :=
  match plan program args with
  | .error outcome => outcome
  | .ok job => job.run format load environment replies

/-! ## Writing standard error -/

/-- The text of a chunk that is written at the time `stamp`.  An entry that a format cannot write is in
no chunk: the run that was to log it has failed (`Traffic.write`). -/
def Chunk.text (format : DocumentFormat) (stamp : Text) : Chunk → Text
  | plain text => text
  | entry true e =>
    match format.writeEntry e with
    | .ok line => line stamp
    | .error _ => []
  | entry false e => e.line stamp

end ModuleRegistry.CommandLine
