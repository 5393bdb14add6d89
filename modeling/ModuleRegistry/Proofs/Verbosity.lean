import ModuleRegistry.Proofs.Runs

/-!
# Verbose runs

`--verbose` puts the threshold of the log at `debug`, whatever level the configuration names.  If that
level is `trace`, this raises the threshold.  No entry is lost even so, because no part of the library
writes an entry below `debug`.  With a plain log a verbose run therefore does what it would have done,
and logs more.

A verbose run also offers its log what the configured level would have dropped, and a structured log
may be unable to take that.  The run then breaks off where it would have gone on
(`verbose_interferes`).

The two runs of this module have arguments that differ by one `--verbose` (`InsertsVerbose`), so they
have the same options but for that one (`ofGroups_insert_verbose`) and work under the same
configuration.  `Log.Logger.Muffles` relates their traffics: the replies to come and the requests sent
are the same, and the one log is what its logger keeps of the other.  An exchange keeps this relation or
breaks off on the loud side (`Call.KeepsMuffled`), and so does every call that a job makes.  What the two
runs write to standard error then differs by whole entries (`Thins`).

A run that accomplishes its job also ends with a summary of the metrics if it is verbose, so nothing is
said here about the standard error of such a run.

Main statement: `verbose_only_adds_entries`.
-/

namespace ModuleRegistry

open Text (ascii)

/-! ## No entry is below `debug` -/

lemma Log.Level.debug_le_info : debug ≤ info := by decide

lemma Log.Logger.keep_singleton {l : Log.Logger} (hl : l.threshold = .debug) {e : Log.Entry}
    (he : Log.Level.debug ≤ e.level) : l.keep [e] = [e] := by
  simp [keep, accepts, hl, he]

lemma Exchange.debug_le_openingEntry (q : Http.Request) :
    Log.Level.debug ≤ (openingEntry q).level :=
  Nat.le_refl _

lemma Exchange.debug_le_closingEntry (format : DocumentFormat) (q : Http.Request)
    (r : Http.Reply) : Log.Level.debug ≤ (closingEntry format q r).level := by
  have hwarn : Log.Level.debug ≤ Log.Level.warn := by decide
  have hdebug : Log.Level.debug ≤ Log.Level.debug := by decide
  unfold closingEntry
  split
  · exact hwarn
  · split
    · exact hwarn
    · exact hdebug

/-! ## Traffic under two loggers -/

namespace Log.Logger

/-- Two traffics that differ in what is logged only: the loud one logs from `debug` on, and the quiet
one has what the logger keeps of that. -/
structure Muffles (l : Log.Logger) (loud quiet : Traffic) : Prop where
  pending : loud.pending = quiet.pending
  sent : loud.sent = quiet.sent
  verbose : loud.logger = some ⟨.debug, l.structured⟩
  logger : quiet.logger = some l
  log : quiet.log = l.keep loud.log

/-- A structured log is too quiet for an entry that it could not take: there is such an entry, from
`debug` on, and the logger drops it. -/
structure Spares (l : Log.Logger) (format : DocumentFormat) (reason : Text) : Prop where
  structured : l.structured = true
  entry : ∃ e : Log.Entry, Log.Level.debug ≤ e.level ∧ l.accepts e = false ∧
    format.writeEntry e = .error reason

namespace Muffles

variable {l : Log.Logger} {loud quiet : Traffic} {format : DocumentFormat} {e : Log.Entry}

lemma nextReply (h : l.Muffles loud quiet) : loud.nextReply = quiet.nextReply := by
  rw [Traffic.nextReply, Traffic.nextReply, h.pending]

/-- The two logs find the same fault with an entry, if any, unless the quiet one is spared it. -/
lemma fault?_cases (h : l.Muffles loud quiet) (format : DocumentFormat)
    (he : Log.Level.debug ≤ e.level) :
    loud.fault? format e = quiet.fault? format e ∨
      ∃ reason, l.Spares format reason ∧ loud.fault? format e = some reason := by
  have hloud : (⟨.debug, l.structured⟩ : Log.Logger).accepts e = true := decide_eq_true he
  rw [Traffic.fault?, h.verbose, Traffic.fault?, h.logger, Option.bind_some, Option.bind_some,
    Log.Logger.fault?, Log.Logger.fault?, hloud]
  cases haccepts : l.accepts e with
  | true => exact .inl rfl
  | false =>
    cases hstructured : l.structured with
    | false => exact .inl rfl
    | true =>
      cases hwrite : format.writeEntry e with
      | ok line => exact .inl (by simp)
      | error reason =>
        exact .inr ⟨reason, ⟨hstructured, e, he, haccepts, hwrite⟩, by simp⟩

lemma note (h : l.Muffles loud quiet) (he : Log.Level.debug ≤ e.level) :
    l.Muffles (loud.note e) (quiet.note e) := by
  refine ⟨h.pending, h.sent, h.verbose, h.logger, ?_⟩
  have hloud : (loud.note e).log = loud.log ++ [e] := by
    simp [Traffic.note, h.verbose, keep_singleton, he]
  have hquiet : (quiet.note e).log = quiet.log ++ l.keep [e] := by
    simp [Traffic.note, h.logger]
  rw [hloud, hquiet, keep_append, h.log]

lemma send (h : l.Muffles loud quiet) (q : Http.Request) :
    l.Muffles (loud.send q) (quiet.send q) := by
  refine ⟨?_, ?_, h.verbose, h.logger, h.log⟩
  · rw [Traffic.pending_send, Traffic.pending_send, h.pending]
  · rw [Traffic.sent_send, Traffic.sent_send, h.sent]

lemma count (h : l.Muffles loud quiet) (updates : List Metrics.Update) :
    l.Muffles (loud.count updates) (quiet.count updates) :=
  ⟨h.pending, h.sent, h.verbose, h.logger, h.log⟩

end Muffles

end Log.Logger

/-! ## Calls -/

/-- A call has the same outcome whether it is muffled or not, and is muffled to the end, unless the loud
log cannot take an entry that the quiet one is spared. -/
def Call.KeepsMuffled {α : Type} (format : DocumentFormat) (c : Call α) : Prop :=
  ∀ (l : Log.Logger) (loud quiet : Traffic), l.Muffles loud quiet →
    ((c loud).1 = (c quiet).1 ∧ l.Muffles (c loud).2 (c quiet).2) ∨
      ∃ reason, l.Spares format reason ∧ (c loud).1 = .error (.unlogged reason)

namespace Call

variable {α β : Type} {format : DocumentFormat} {c : Call α}

lemma keepsMuffled_done (outcome : Except Call.Failure α) :
    (Call.done outcome).KeepsMuffled format :=
  fun _ _ _ h => .inl ⟨rfl, h⟩

/-- A call that judges the outcome of another, and passes it on when a log could not take an entry. -/
lemma KeepsMuffled.judge (hc : c.KeepsMuffled format) {c' : Call β}
    (htraffic : ∀ t, (c' t).2 = (c t).2)
    (houtcome : ∀ t t', (c t).1 = (c t').1 → (c' t).1 = (c' t').1)
    (hunlogged : ∀ t reason, (c t).1 = .error (.unlogged reason) →
      (c' t).1 = .error (.unlogged reason)) : c'.KeepsMuffled format := by
  intro l loud quiet h
  rcases hc l loud quiet h with ⟨hsame, hafter⟩ | ⟨reason, hspares, hfailed⟩
  · refine .inl ⟨houtcome loud quiet hsame, ?_⟩
    rw [htraffic, htraffic]
    exact hafter
  · exact .inr ⟨reason, hspares, hunlogged loud reason hfailed⟩

/-- Something is written to the log before a call. -/
lemma KeepsMuffled.write (hc : c.KeepsMuffled format) {e : Log.Entry}
    (he : Log.Level.debug ≤ e.level) :
    Call.KeepsMuffled format fun t =>
      match t.write format e with
      | .error reason => (.error (.unlogged reason), t)
      | .ok t => c t := by
  intro l loud quiet h
  rcases h.fault?_cases format he with hsame | ⟨reason, hspares, hfault⟩
  · cases hquiet : quiet.fault? format e with
    | some reason =>
      have hloud : loud.fault? format e = some reason := hsame.trans hquiet
      simp only [Traffic.write_of_fault? hloud, Traffic.write_of_fault? hquiet]
      exact .inl ⟨trivial, h⟩
    | none =>
      have hloud : loud.fault? format e = none := hsame.trans hquiet
      simp only [Traffic.write_of_fault?_eq_none hloud, Traffic.write_of_fault?_eq_none hquiet]
      exact hc l _ _ (h.note he)
  · simp only [Traffic.write_of_fault? hfault]
    exact .inr ⟨reason, hspares, rfl⟩

end Call

section Calls

variable {α ρ : Type} {format : DocumentFormat}

/-- An exchange offers both logs the same two entries. -/
lemma Exchange.keepsMuffled_roundTrip (q : Http.Request) :
    (roundTrip format q).KeepsMuffled format := by
  have hclose (r : Http.Reply) : (close format q r).KeepsMuffled format :=
    (Call.keepsMuffled_done ((outcome format r).mapError .hub)).write
      (debug_le_closingEntry format q r)
  have hsend : Call.KeepsMuffled format fun t =>
      close format q t.nextReply ((t.send q).count (updates t.nextReply)) := by
    intro l loud quiet h
    simp only [h.nextReply]
    exact hclose quiet.nextReply l _ _ ((h.send q).count _)
  exact hsend.write (debug_le_openingEntry q)

/-- What a decoder says of a body is the same on both sides. -/
lemma Exchange.keepsMuffled_fetch (decode : Decoder ρ) (q : Http.Request) :
    (fetch format decode q).KeepsMuffled format := by
  refine (keepsMuffled_roundTrip q).judge (fun _ => rfl) (fun t t' h => ?_) fun t reason h => ?_
  · rw [outcome_fetch, outcome_fetch, h]
  · rw [outcome_fetch, h, Except.bind]

lemma Handler.keepsMuffled_required {fetch : Call (Option ρ)} (h : fetch.KeepsMuffled format) :
    (required.run fetch).KeepsMuffled format := by
  refine h.judge (fun t => by rw [run_required]) (fun t t' h => ?_) fun t reason h => ?_
  · simp only [run_required, h]
  · simp only [run_required, h]

end Calls

namespace Device

variable {format : DocumentFormat} (d : Device) (moduleId : Text)

lemma keepsMuffled_lookup {fetch : Call (Option Identity)} (h : fetch.KeepsMuffled format) :
    ((lookup moduleId).run fetch).KeepsMuffled format := by
  refine h.judge (fun t => by rw [run_lookup]) (fun t t' h => ?_) fun t reason h => ?_
  · simp only [run_lookup, h]
  · simp only [run_lookup, h, Call.Failure.map]

lemma keepsMuffled_discard {fetch : Call (Option NoContent)} (h : fetch.KeepsMuffled format) :
    (discard.run fetch).KeepsMuffled format := by
  refine h.judge (fun t => by rw [run_discard]) (fun t t' h => ?_) fun t reason h => ?_
  · simp only [run_discard, h]
  · simp only [run_discard, h]

lemma keepsMuffled_onModule {α : Type} {c : Call α} (hc : c.KeepsMuffled format) :
    (onModule moduleId c).KeepsMuffled format := by
  rw [onModule]
  split
  · exact Call.keepsMuffled_done _
  · exact hc

lemma keepsMuffled_list : (d.list format).KeepsMuffled format :=
  Handler.keepsMuffled_required (Exchange.keepsMuffled_fetch _ _)

lemma keepsMuffled_get : (d.get format moduleId).KeepsMuffled format :=
  keepsMuffled_onModule moduleId (keepsMuffled_lookup moduleId (Exchange.keepsMuffled_fetch _ _))

lemma keepsMuffled_delete : (d.delete format moduleId).KeepsMuffled format :=
  keepsMuffled_onModule moduleId (keepsMuffled_discard (Exchange.keepsMuffled_fetch _ _))

lemma keepsMuffled_store (authentication : Option AuthMechanism) (conditional : Bool) :
    (d.store format moduleId authentication conditional).KeepsMuffled format := by
  refine keepsMuffled_onModule moduleId ?_
  split
  · exact Call.keepsMuffled_done _
  · exact Handler.keepsMuffled_required (Exchange.keepsMuffled_fetch _ _)

end Device

namespace CommandLine

/-! ## Jobs -/

section Jobs

variable {format : DocumentFormat}

lemma keepsMuffled_printing {α : Type} {c : Call α} (hc : c.KeepsMuffled format)
    (render : α → Text) : (printing c render).KeepsMuffled format := by
  refine hc.judge (fun _ => rfl) (fun t t' h => ?_) fun t reason h => ?_
  · simp only [printing, h]
  · simp only [printing, h, Except.map]

/-- A deletion that has succeeded is the only action with an entry of its own. -/
lemma keepsMuffled_logging {c : Call Unit} (hc : c.KeepsMuffled format) {e : Log.Entry}
    (he : Log.Level.debug ≤ e.level) : (logging c format e).KeepsMuffled format := by
  intro l loud quiet h
  rcases hc l loud quiet h with ⟨houtcome, hafter⟩ | ⟨reason, hspares, houtcome⟩
  · simp only [logging, houtcome]
    cases (c quiet).1 with
    | error f => exact .inl ⟨rfl, hafter⟩
    | ok _ => exact (Call.keepsMuffled_done (.ok [])).write he l _ _ hafter
  · simp only [logging, houtcome]
    exact .inr ⟨reason, hspares, rfl⟩

/-- One case for each action. -/
lemma Job.keepsMuffled_call (job : Job) (d : Device) : (job.call format d).KeepsMuffled format := by
  obtain ⟨options, action, moduleId⟩ := job
  cases action with
  | list => exact keepsMuffled_printing d.keepsMuffled_list _
  | get => exact keepsMuffled_printing (d.keepsMuffled_get moduleId) _
  | create => exact keepsMuffled_printing (d.keepsMuffled_store moduleId _ false) _
  | update => exact keepsMuffled_printing (d.keepsMuffled_store moduleId _ true) _
  | delete => exact keepsMuffled_logging (d.keepsMuffled_delete moduleId) Log.Level.debug_le_info

lemma Job.keepsMuffled_attempt (job : Job) (c : Config) :
    (job.attempt format c).KeepsMuffled format := by
  intro l loud quiet h
  unfold attempt
  cases device c with
  | error e => exact .inl ⟨rfl, h⟩
  | ok d => exact job.keepsMuffled_call d l loud quiet h

end Jobs

/-! ## Standard error with fewer entries -/

/-- What is left of standard error when some entries of the log are taken out, each of them whole, and
nothing else is. -/
inductive Thins : List Chunk → List Chunk → Prop
  | nil : Thins [] []
  | keep (c : Chunk) {cs cs' : List Chunk} (h : Thins cs cs') : Thins (c :: cs) (c :: cs')
  | drop (structured : Bool) (e : Log.Entry) {cs cs' : List Chunk} (h : Thins cs cs') :
      Thins cs (.entry structured e :: cs')

namespace Thins

lemma refl (cs : List Chunk) : Thins cs cs := by
  induction cs with
  | nil => exact .nil
  | cons c cs ih => exact .keep c ih

lemma append {cs cs' ds ds' : List Chunk} (h : Thins cs cs') (h' : Thins ds ds') :
    Thins (cs ++ ds) (cs' ++ ds') := by
  induction h with
  | nil => exact h'
  | keep c _ ih => exact .keep c ih
  | drop structured e _ ih => exact .drop structured e ih

lemma of_sublist {entries entries' : List Log.Entry} (h : entries.Sublist entries')
    (structured : Bool) :
    Thins (entries.map (.entry structured)) (entries'.map (.entry structured)) := by
  induction h with
  | slnil => exact .nil
  | cons e _ ih => exact .drop structured e ih
  | cons_cons e _ ih => exact .keep (.entry structured e) ih

end Thins

/-! ## Two runs -/

namespace Outcome

/-- A run that set up its transport and ended without an error. -/
def Accomplished (o : Outcome) : Prop := o.http ≠ none ∧ o.exit = 0

/-- How the outcome of a run that is verbose compares with that of the same run without: it has more
entries of the log, and differs in nothing else. -/
structure AddsEntries (quiet loud : Outcome) : Prop where
  exit : loud.exit = quiet.exit
  stdout : loud.stdout = quiet.stdout
  sent : loud.sent = quiet.sent
  http : loud.http = quiet.http
  stderr : ¬quiet.Accomplished → Thins quiet.stderr loud.stderr

lemma addsEntries_refl (o : Outcome) : o.AddsEntries o :=
  ⟨rfl, rfl, rfl, rfl, fun _ => .refl o.stderr⟩

/-- A run that ends because its log cannot take an entry. -/
structure BreaksOff (o : Outcome) (reason : Text) : Prop where
  exit : o.exit = 1
  stdout : o.stdout = []
  stderr : ∃ said, o.stderr =
    said ++ [.plain (ascii "Fatal error: " ++ Text.untilNul reason ++ ascii "\n")]

end Outcome

namespace Options

lemma logger_configure (o : Options) (c : Config) (environment : Config.Environment) :
    o.logger (o.configure (c.under environment)) = o.logger c := by
  rw [configure]
  split <;> rfl

/-- From `debug` on, a run drops only what the level of its configuration drops. -/
lemma not_le_of_dropped {o : Options} {c : Config} {e : Log.Entry}
    (he : Log.Level.debug ≤ e.level) (h : (o.logger c).accepts e = false) :
    ¬Log.Level.ofName c.logLevel ≤ e.level := by
  have hdropped : ¬(o.logger c).threshold ≤ e.level := of_decide_eq_false h
  cases hverbose : o.verbose with
  | false => simpa [logger, hverbose, Log.Logger.ofName] using hdropped
  | true =>
    have hthreshold : (o.logger c).threshold = .debug := by
      rw [logger, hverbose]
      rfl
    exact absurd (hthreshold ▸ he) hdropped

end Options

namespace Job

variable {l : Log.Logger} {loud quiet : Traffic} {format : DocumentFormat}

/-- Both logs begin empty. -/
lemma muffles_start (o : Options) (command : Command) (c : Config) (replies : List Http.Reply) :
    (o.logger c).Muffles (start ⟨{ o with verbose := true }, command⟩ c replies)
      (start ⟨o, command⟩ c replies) :=
  ⟨rfl, rfl, rfl, rfl, rfl⟩

/-- Two jobs that come to the same result conclude the same, but for entries of the log. -/
lemma addsEntries_conclude (o : Options) (command : Command) (c : Config) (said : List Chunk)
    (result : Except Call.Failure Text) (h : l.Muffles loud quiet) :
    (conclude ⟨o, command⟩ format c said result quiet).AddsEntries
      (conclude ⟨{ o with verbose := true }, command⟩ format c said result loud) := by
  have hlog : quiet.log.Sublist loud.log := by
    rw [h.log]
    exact List.filter_sublist
  have hwritten : Thins (said ++ quiet.log.map (.entry c.structuredLog))
      (said ++ loud.log.map (.entry c.structuredLog)) :=
    (Thins.refl said).append (.of_sublist hlog c.structuredLog)
  cases result with
  | ok output => exact ⟨rfl, rfl, h.sent, rfl, fun hfailed => absurd ⟨nofun, rfl⟩ hfailed⟩
  | error f => exact ⟨rfl, rfl, h.sent, rfl, fun _ => hwritten.append (.refl [_])⟩

/-- The same job, attempted with two logs. -/
lemma addsEntries_attempt (o : Options) (command : Command) (c : Config) (said : List Chunk)
    (h : l.Muffles loud quiet) :
    let r := attempt ⟨o, command⟩ format c quiet
    let r' := attempt ⟨o, command⟩ format c loud
    let concluded := conclude ⟨{ o with verbose := true }, command⟩ format c said r'.1 r'.2
    (conclude ⟨o, command⟩ format c said r.1 r.2).AddsEntries concluded ∨
      ∃ reason, l.Spares format reason ∧ concluded.BreaksOff reason := by
  intro r r' concluded
  rcases keepsMuffled_attempt ⟨o, command⟩ c l loud quiet h with
    ⟨hresult, hafter⟩ | ⟨reason, hspares, hresult⟩
  · have hsame : r'.1 = r.1 := hresult
    refine .inl ?_
    rw [← hsame]
    exact addsEntries_conclude o command c said r'.1 hafter
  · have hfailed : concluded =
        conclude ⟨{ o with verbose := true }, command⟩ format c said (.error (.unlogged reason)) r'.2 :=
      congrArg (fun result => conclude _ format c said result r'.2) hresult
    refine .inr ⟨reason, hspares, ?_⟩
    rw [hfailed]
    exact ⟨rfl, rfl, _, rfl⟩

/-- **A job does the same when it is verbose**, and logs more, unless its log cannot take what the
configured level spares it. -/
lemma addsEntries_run (o : Options) (command : Command) (format : DocumentFormat)
    (load : Text → Config.Loaded) (environment : Config.Environment) (replies : List Http.Reply) :
    let quiet := run ⟨o, command⟩ format load environment replies
    let loud := run ⟨{ o with verbose := true }, command⟩ format load environment replies
    quiet.AddsEntries loud ∨ ∃ base reason, (load o.configPath).result = .ok base ∧
      (o.logger (o.configure (base.under environment))).Spares format reason ∧
      loud.BreaksOff reason := by
  intro quiet loud
  let job : Job := ⟨o, command⟩
  let verbose : Job := ⟨{ o with verbose := true }, command⟩
  cases hbase : (load o.configPath).result with
  | error reason =>
    have hquiet : quiet = _ := job.run_of_not_loaded hbase
    have hloud : loud = _ := verbose.run_of_not_loaded hbase
    rw [hquiet, hloud]
    exact .inl (Outcome.addsEntries_refl _)
  | ok base =>
    let c : Config := o.configure (base.under environment)
    have hmuffles := muffles_start o command c replies
    have hlevel : Log.Level.debug ≤ (startEntry c command.action).level := Log.Level.debug_le_info
    rcases hmuffles.fault?_cases format hlevel with hsame | ⟨reason, hspares, hfault⟩
    · cases hstart : (start job c replies).fault? format (startEntry c command.action) with
      | some reason =>
        have hquiet : quiet = _ := job.run_of_start_fault? hbase rfl hstart
        have hloud : loud = _ := verbose.run_of_start_fault? hbase rfl (hsame.trans hstart)
        rw [hquiet, hloud]
        exact .inl (Outcome.addsEntries_refl _)
      | none =>
        have hquiet : quiet = _ := job.run_of_attempt hbase rfl hstart
          (Prod.eta (job.attempt format c (job.begun c replies))).symm
        have hloud : loud = _ := verbose.run_of_attempt hbase rfl (hsame.trans hstart)
          (Prod.eta (job.attempt format c (verbose.begun c replies))).symm
        rw [hquiet, hloud]
        exact (addsEntries_attempt o command c _ (hmuffles.note hlevel)).imp_right
          fun ⟨reason, hspares, hbreaks⟩ => ⟨base, reason, rfl, hspares, hbreaks⟩
    · have hloud : loud = _ := verbose.run_of_start_fault? hbase rfl hfault
      rw [hloud]
      exact .inr ⟨base, reason, rfl, hspares, rfl, rfl, _, rfl⟩

end Job

/-! ## Arguments with one more `--verbose` -/

/-- Arguments, and the same with a `--verbose` put in behind any number of their groups: anywhere
between two groups, or before the token that ends the reading. -/
inductive InsertsVerbose : List Text → List Text → Prop
  | here (args : List Text) : InsertsVerbose args (ascii "--verbose" :: args)
  | group {g : Group} {rest rest' : List Text} (hg : g.IsWritable) (h : InsertsVerbose rest rest') :
      InsertsVerbose (g.tokens ++ rest) (g.tokens ++ rest')

lemma InsertsVerbose.exists_reads {args args' : List Text} (h : InsertsVerbose args args') :
    ∃ gs gs' e, Reads args (gs ++ gs') e ∧ Reads args' (gs ++ .verbose :: gs') e := by
  induction h with
  | here args =>
    have hreads := reads_read args
    exact ⟨[], (read args).groups, (read args).terminal, hreads,
      .group (g := .verbose) trivial hreads⟩
  | @group g rest rest' hg _ ih =>
    obtain ⟨gs, gs', e, hreads, hreads'⟩ := ih
    exact ⟨g :: gs, gs', e, .group hg hreads, .group hg hreads'⟩

lemma filterMap_insert_verbose {α : Type} {f : Group → Option α} (hf : f .verbose = none)
    (gs gs' : List Group) :
    (gs ++ .verbose :: gs').filterMap f = (gs ++ gs').filterMap f := by
  rw [List.filterMap_append, List.filterMap_append, List.filterMap_cons_none hf]

lemma operands_insert_verbose (gs gs' : List Group) :
    operands (gs ++ .verbose :: gs') = operands (gs ++ gs') :=
  filterMap_insert_verbose rfl gs gs'

lemma ofGroups_insert_verbose (gs gs' : List Group) :
    Options.ofGroups (gs ++ .verbose :: gs') =
      { Options.ofGroups (gs ++ gs') with verbose := true } := by
  have hvalue (o : ValueOption) : lastValue o (gs ++ .verbose :: gs') = lastValue o (gs ++ gs') :=
    congrArg List.getLast? (filterMap_insert_verbose rfl gs gs')
  simp [ofGroups_eq, hvalue, operands_insert_verbose]

end CommandLine

end ModuleRegistry
