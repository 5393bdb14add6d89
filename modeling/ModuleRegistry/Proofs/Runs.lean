import ModuleRegistry.Proofs.Commands

/-!
# What a run of the command line comes to

A run passes through layers that know little of each other: the arguments are read, the configuration
is loaded, overridden by the environment and by `--device`, a client and a device are made of it, one
request is exchanged, and a failure ends in one line and an exit code.  `ModuleRegistry.Proofs.Commands`
says what a command amounts to; this module says what a run comes to that has one.

* Arguments that are misused end the run at once, the same way in every surrounding.
* A run without a configuration, or with a log that cannot take its first entry, ends before its
  transport is set up.
* A run with bad inputs reports the first of its faults, and sends nothing.
* With good inputs one request is sent, unless the log cannot take what is said before it, and the run
  ends as the command answers the reply.

A structured log may be unable to take an entry, and the run then ends with that at the place of the
entry.  A plain log takes every entry.  `Traffic.Keeps` follows what a log has kept up to each place.

Main statement: `run_keeps_contract`.
-/

namespace ModuleRegistry

open Text (ascii)

/-! ## What a log has kept -/

/-- The traffic when an exchange has been closed. -/
def Exchange.closed (format : DocumentFormat) (q : Http.Request) (t : Traffic) : Traffic :=
  (answered q t).note (closingEntry format q t.nextReply)

/-- The traffic of a run up to some place: its logger has kept what it was offered. -/
structure Traffic.Keeps (t : Traffic) (l : Log.Logger) (offered : List Log.Entry) : Prop where
  logger : t.logger = some l
  log : t.log = l.keep offered

namespace Traffic.Keeps

variable {t : Traffic} {l : Log.Logger} {offered : List Log.Entry}

lemma note (h : t.Keeps l offered) (e : Log.Entry) : (t.note e).Keeps l (offered ++ [e]) := by
  refine ⟨h.logger, ?_⟩
  rw [Log.Logger.keep_append, ← h.log, Traffic.note, h.logger]
  rfl

lemma answered (h : t.Keeps l offered) (q : Http.Request) :
    (Exchange.answered q t).Keeps l (offered ++ [Exchange.openingEntry q]) :=
  ⟨h.logger, (h.note (Exchange.openingEntry q)).log⟩

lemma closed (h : t.Keeps l offered) (format : DocumentFormat) (q : Http.Request) :
    (Exchange.closed format q t).Keeps l
      (offered ++ [Exchange.openingEntry q] ++ [Exchange.closingEntry format q t.nextReply]) :=
  (h.answered q).note _

lemma fault? (h : t.Keeps l offered) (format : DocumentFormat) (e : Log.Entry) :
    t.fault? format e = l.fault? format e := by
  rw [Traffic.fault?, h.logger, Option.bind_some]

end Traffic.Keeps

namespace CommandLine

/-! ## Runs without a job -/

/-- Misuse ends the run of a program in the same way whatever surrounds it. -/
lemma exists_run_of_misused {args : List Text} (h : Misused args) (program : Text) :
    ∃ message, ∀ format load environment replies,
      run program format load environment replies args =
        { exit := 2, stderr := [.plain message] } := by
  rcases h with ⟨gs, token, hreads⟩ | ⟨gs, hreads, hasks⟩
  · exact ⟨_, fun format load environment replies =>
      run_of_reads_some program format load environment replies hreads⟩
  · cases hcommand : Command.ofOperands (operands gs) with
    | ok command => exact absurd (asks_iff.2 hcommand) (hasks command)
    | error e =>
      refine ⟨e.message program, fun format load environment replies => ?_⟩
      rw [run_of_reads_none program format load environment replies hreads, hcommand]
      rfl

/-! ## Jobs -/

/-- The notice that came with a configuration, if there is any. -/
def notices (loaded : Config.Loaded) : List Chunk :=
  if loaded.notice.isEmpty then [] else [.plain loaded.notice]

/-- A run that has a command and a configuration: the `settings` that it works under, what was said
when they were loaded, and whether it is verbose. -/
structure Setting where
  command : Command
  config : Config
  notices : List Chunk
  verbose : Bool

namespace Setting

variable (s : Setting)

/-- The logger of a run: `--verbose` stands in the place of the level that is configured. -/
def logger : Log.Logger :=
  .ofName (if s.verbose then ascii "debug" else s.config.logLevel) s.config.structuredLog

/-- The entry that names the hub and the device. -/
def start : Log.Entry := startEntry s.config s.command.action

/-- The entry about a deletion that has succeeded. -/
def deleted : Log.Entry where
  level := .info
  subsystem := ascii "Cli"
  message := ascii "Deleted module " ++ s.command.moduleId
  deviceId := s.config.deviceId

/-- The outcome of a run without a transport, which cannot get one for the given reason. -/
def aborted (notices : List Chunk) (reason : Text) : Outcome where
  exit := 1
  stderr := notices ++ [.plain (ascii "Fatal error: " ++ Text.untilNul reason ++ ascii "\n")]

/-- The outcome of a run that fails with a line, when some requests have been sent and some entries
offered to the log. -/
def failed (sent : List Http.Request) (offered : List Log.Entry) (line : Text) : Outcome where
  exit := 1
  stderr := s.notices ++ (s.logger.keep offered).map (.entry s.config.structuredLog) ++ [.plain line]
  sent := sent
  http := some s.config.http

/-- The outcome of a run that fails because its log cannot take an entry. -/
def broken (sent : List Http.Request) (offered : List Log.Entry) (reason : Text) : Outcome :=
  s.failed sent offered (ascii "Fatal error: " ++ Text.untilNul reason ++ ascii "\n")

/-- The outcome of a run that accomplishes its job with one request. -/
def accomplished (format : DocumentFormat) (q : Http.Request) (r : Http.Reply)
    (offered : List Log.Entry) (output : Text) : Outcome where
  stdout := output
  stderr := s.notices ++ (s.logger.keep offered).map (.entry s.config.structuredLog) ++
    if s.verbose then
      [.plain (format.showMetrics (Metrics.applyAll {} (Exchange.updates r)) ++ ascii "\n")]
    else []
  sent := [q]
  http := some s.config.http

/-- How a run ends that has good inputs, sends `q` and is answered by `r`.  Each of the entries that it
offers to its log may be the last; if the log takes them all, the run ends as its command answers. -/
structure Exchanges (format : DocumentFormat) (q : Http.Request) (r : Http.Reply) (o : Outcome) :
    Prop where
  unopened : ∀ reason, s.logger.fault? format (Exchange.openingEntry q) = some reason →
    o = s.broken [] [s.start] reason
  unclosed : s.logger.fault? format (Exchange.openingEntry q) = none →
    ∀ reason, s.logger.fault? format (Exchange.closingEntry format q r) = some reason →
      o = s.broken [q] [s.start, Exchange.openingEntry q] reason
  answered : s.logger.fault? format (Exchange.openingEntry q) = none →
    s.logger.fault? format (Exchange.closingEntry format q r) = none →
      let offered := [s.start, Exchange.openingEntry q, Exchange.closingEntry format q r]
      (∀ line, s.command.answer format r = .error line → o = s.failed [q] offered line) ∧
      (∀ output, s.command.answer format r = .ok output → s.command.action ≠ .delete →
        o = s.accomplished format q r offered output) ∧
      (∀ output, s.command.answer format r = .ok output → s.command.action = .delete →
        (∀ reason, s.logger.fault? format s.deleted = some reason →
          o = s.broken [q] offered reason) ∧
        (s.logger.fault? format s.deleted = none →
          o = s.accomplished format q r (offered ++ [s.deleted]) []))

end Setting

namespace Job

variable {job : Job} {format : DocumentFormat} {load : Text → Config.Loaded}
  {environment : Config.Environment} {replies : List Http.Reply} {base c : Config} {t t' : Traffic}

/-- The traffic of a job when the entry has been noted that names the hub and the device. -/
def begun (job : Job) (c : Config) (replies : List Http.Reply) : Traffic :=
  (job.start c replies).note (startEntry c job.command.action)

lemma keeps_begun (job : Job) (c : Config) (replies : List Http.Reply) :
    (job.begun c replies).Keeps (job.options.logger c) [startEntry c job.command.action] := by
  have hstart : (job.start c replies).Keeps (job.options.logger c) [] := ⟨rfl, rfl⟩
  exact hstart.note _

lemma run_of_not_loaded (job : Job) {reason : Text}
    (h : (load job.options.configPath).result = .error reason) :
    job.run format load environment replies =
      abort (notices (load job.options.configPath)) reason := by
  simp only [run, h, notices]

section Loaded

variable (job) (hbase : (load job.options.configPath).result = .ok base)
  (hc : job.options.configure (base.under environment) = c)
include hbase hc

lemma run_of_start_fault? {reason : Text}
    (h : (job.options.logger c).fault? format (startEntry c job.command.action) = some reason) :
    job.run format load environment replies =
      abort (notices (load job.options.configPath)) reason := by
  have hwrite := Traffic.write_of_fault? (t := job.start c replies) h
  simp only [run, hbase, hc, hwrite, notices]

/-- A job whose first entry the log takes is attempted. -/
lemma run_of_attempt
    (hstart : (job.options.logger c).fault? format (startEntry c job.command.action) = none)
    {result : Except Call.Failure Text}
    (h : job.attempt format c (job.begun c replies) = (result, t)) :
    job.run format load environment replies =
      job.conclude format c (notices (load job.options.configPath)) result t := by
  have hwrite := Traffic.write_of_fault?_eq_none (t := job.start c replies) hstart
  rw [begun] at h
  simp only [run, hbase, hc, hwrite, h, notices]

end Loaded

/-- A job is its operation, of which it prints the answer; a deletion that has succeeded is logged. -/
lemma call_of_operation? {op : Device.Operation} (hop : job.command.operation? = some op)
    (format : DocumentFormat) (d : Device) (t : Traffic) :
    job.call format d t =
      match op.call d format t with
      | (.error f, t') => (.error f, t')
      | (.ok answer, t') =>
        if job.command.action = .delete then
          match t'.write format (deletedEntry d job.command.moduleId) with
          | .error reason => (.error (.unlogged reason), t')
          | .ok t'' => (.ok [], t'')
        else (.ok (printed format answer), t') := by
  obtain ⟨options, action, moduleId⟩ := job
  cases action with
  | list =>
    obtain rfl := Option.some.inj hop
    simp only [call, Device.Operation.call, printing]
    rcases (d.list format t).1 with f | is <;> rfl
  | get =>
    obtain rfl := Option.some.inj hop
    simp only [call, Device.Operation.call, printing]
    rcases (d.get format moduleId t).1 with f | i <;> rfl
  | delete =>
    obtain rfl := Option.some.inj hop
    simp only [call, Device.Operation.call, logging]
    rcases (d.delete format moduleId t).1 with f | ⟨⟨⟩⟩ <;> rfl
  | create => contradiction
  | update => contradiction

section Operations

variable {op : Device.Operation} {d : Device} (hop : job.command.operation? = some op)
  {answer : Session.Answer}
include hop

lemma call_of_error {f : Call.Failure} (h : op.call d format t = (.error f, t')) :
    job.call format d t = (.error f, t') := by
  rw [call_of_operation? hop, h]

lemma call_of_ok (haction : job.command.action ≠ .delete)
    (h : op.call d format t = (.ok answer, t')) :
    job.call format d t = (.ok (printed format answer), t') := by
  rw [call_of_operation? hop, h]
  exact if_neg haction

variable (haction : job.command.action = .delete) (h : op.call d format t = (.ok answer, t'))
include haction h

lemma call_of_deleted_fault? {reason : Text}
    (hfault : t'.fault? format (deletedEntry d job.command.moduleId) = some reason) :
    job.call format d t = (.error (.unlogged reason), t') := by
  rw [call_of_operation? hop, h]
  simp only [if_pos haction, Traffic.write_of_fault? hfault]

lemma call_of_deleted (hnone : t'.fault? format (deletedEntry d job.command.moduleId) = none) :
    job.call format d t = (.ok [], t'.note (deletedEntry d job.command.moduleId)) := by
  rw [call_of_operation? hop, h]
  simp only [if_pos haction, Traffic.write_of_fault?_eq_none hnone]

end Operations

/-! ### Conclusions -/

/-- What is known of a job under a configuration. -/
def setting (job : Job) (c : Config) (notices : List Chunk) : Setting :=
  ⟨job.command, c, notices, job.options.verbose⟩

section Conclusions

variable {offered : List Log.Entry} (said : List Chunk)
  (hkeeps : t.Keeps (job.options.logger c) offered)
include hkeeps

lemma conclude_error (f : Call.Failure) :
    job.conclude format c said (.error f) t =
      (job.setting c said).failed t.sent offered (failureLine f) := by
  rw [conclude, hkeeps.log]
  rfl

lemma conclude_ok {q : Http.Request} {r : Http.Reply} (hsent : t.sent = [q])
    (hmetrics : t.metrics = some (Metrics.applyAll {} (Exchange.updates r))) (output : Text) :
    job.conclude format c said (.ok output) t =
      (job.setting c said).accomplished format q r offered output := by
  rw [conclude, hkeeps.log, hsent, summary, hmetrics]
  rfl

end Conclusions

/-! ### Good inputs -/

section Exchanged

variable {op : Device.Operation} {d : Device} (hop : job.command.operation? = some op)
  (hnamed : op.Named) (hopens : t.Opens format (op.request d))
  (hcloses : t.Closes format (op.request d))
include hop hnamed hopens hcloses

lemma exists_call_of_answer_error {line : Text}
    (h : job.command.answer format t.nextReply = .error line) :
    ∃ f, failureLine f = line ∧
      op.call d format t = (.error f, Exchange.closed format (op.request d) t) := by
  rw [answer_eq hop] at h
  rw [Device.Operation.call_of_closes hnamed hopens hcloses]
  cases hsettled :
      op.settle format ((Exchange.outcome format t.nextReply).mapError .hub) with
  | error f =>
    rw [hsettled] at h
    exact ⟨f, Except.error.inj h, rfl⟩
  | ok answer =>
    rw [hsettled] at h
    contradiction

lemma exists_call_of_answer_ok {output : Text}
    (h : job.command.answer format t.nextReply = .ok output) :
    ∃ answer, printed format answer = output ∧
      op.call d format t = (.ok answer, Exchange.closed format (op.request d) t) := by
  rw [answer_eq hop] at h
  rw [Device.Operation.call_of_closes hnamed hopens hcloses]
  cases hsettled :
      op.settle format ((Exchange.outcome format t.nextReply).mapError .hub) with
  | error f =>
    rw [hsettled] at h
    contradiction
  | ok answer =>
    rw [hsettled] at h
    exact ⟨answer, Except.ok.inj h, rfl⟩

end Exchanged

/-- **A job with good inputs sends its request and ends as its command answers.** -/
lemma exchanges_run (replies : List Http.Reply) {op : Device.Operation}
    (hop : job.command.operation? = some op)
    (hbase : (load job.options.configPath).result = .ok base)
    (hc : job.options.configure (base.under environment) = c)
    (hstart : (job.options.logger c).fault? format (startEntry c job.command.action) = none)
    (hgood : faults c job.command = []) :
    ∃ url, BaseUrl.parse c.baseUrl = .ok url ∧
      (job.setting c (notices (load job.options.configPath))).Exchanges format
        (job.command.request c url) (replies.head?.getD .absent)
        (job.run format load environment replies) := by
  obtain ⟨hversion, ⟨url, hurl⟩, hdevice, hmodule⟩ := faults_eq_nil_iff.1 hgood
  have hnamed : op.Named := named_of_operation? hop hmodule
  let said := notices (load job.options.configPath)
  let d := deviceOf c url
  let t := job.begun c replies
  have hkeeps : t.Keeps (job.options.logger c) [startEntry c job.command.action] :=
    keeps_begun job c replies
  have hrun {result : Except Call.Failure Text} {t' : Traffic}
      (h : job.call format d t = (result, t')) :
      job.run format load environment replies = job.conclude format c said result t' := by
    refine job.run_of_attempt hbase hc hstart ?_
    rw [attempt, device_of_good hversion hurl hdevice]
    exact h
  refine ⟨url, hurl, ?_⟩
  rw [← request_eq hop c url]
  refine ⟨fun reason hfault => ?_, fun hopen reason hfault => ?_, fun hopen hclose => ?_⟩
  · have hfault' : t.fault? format (Exchange.openingEntry (op.request d)) = some reason :=
      (hkeeps.fault? format _).trans hfault
    have hcall := Device.Operation.call_of_opening_fault? hnamed hfault'
    rw [hrun (call_of_error hop hcall), conclude_error said hkeeps]
    rfl
  · have hopens : t.Opens format (op.request d) := (hkeeps.fault? format _).trans hopen
    have hfault' : t.fault? format (Exchange.closingEntry format (op.request d) t.nextReply) =
        some reason :=
      (hkeeps.fault? format _).trans hfault
    have hcall := Device.Operation.call_of_closing_fault? hnamed hopens hfault'
    rw [hrun (call_of_error hop hcall), conclude_error said (hkeeps.answered _)]
    rfl
  · have hopens : t.Opens format (op.request d) := (hkeeps.fault? format _).trans hopen
    have hcloses : t.Closes format (op.request d) := (hkeeps.fault? format _).trans hclose
    have hclosed := hkeeps.closed format (op.request d)
    refine ⟨fun line hline => ?_, fun output houtput haction => ?_,
      fun output houtput haction => ⟨fun reason hfault => ?_, fun hnone => ?_⟩⟩
    · obtain ⟨f, rfl, hcall⟩ := exists_call_of_answer_error hop hnamed hopens hcloses hline
      rw [hrun (call_of_error hop hcall), conclude_error said hclosed]
      rfl
    · obtain ⟨answer, rfl, hcall⟩ := exists_call_of_answer_ok hop hnamed hopens hcloses houtput
      rw [hrun (call_of_ok hop haction hcall), conclude_ok said hclosed rfl rfl]
      rfl
    · obtain ⟨answer, -, hcall⟩ := exists_call_of_answer_ok hop hnamed hopens hcloses houtput
      have hfault' := (hclosed.fault? format _).trans hfault
      rw [hrun (call_of_deleted_fault? hop haction hcall hfault'), conclude_error said hclosed]
      rfl
    · obtain ⟨answer, -, hcall⟩ := exists_call_of_answer_ok hop hnamed hopens hcloses houtput
      have hnone' := (hclosed.fault? format _).trans hnone
      rw [hrun (call_of_deleted hop haction hcall hnone'),
        conclude_ok said (hclosed.note _) rfl rfl]
      rfl

/-- The transport is set up before the inputs are checked, as the configuration says. -/
lemma http_conclude (job : Job) (c : Config) (said : List Chunk) (result : Except Call.Failure Text)
    (t : Traffic) : (job.conclude format c said result t).http = some c.http := by
  cases result <;> rfl

end Job

/-! ## The contract -/

variable (program : Text) (format : DocumentFormat) (load : Text → Config.Loaded)
  (environment : Config.Environment) (replies : List Http.Reply)

lemma run_of_asks {args : List Text} {gs : List Group} {command : Command}
    (h : Reads args gs none) (hasks : Asks (operands gs) command) :
    run program format load environment replies args =
      Job.run ⟨Options.ofGroups gs, command⟩ format load environment replies := by
  rw [run_of_reads_none program format load environment replies h, asks_iff.1 hasks]

end CommandLine

end ModuleRegistry
