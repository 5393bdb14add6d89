import Mathlib.Data.List.Forall2
import ModuleRegistry.Proofs.Accounting
import ModuleRegistry.Proofs.Provenance

/-!
# Telemetry only listens, as long as the log can write

A session may log and may count.  Neither is ever asked about anything, except by the step that
reads the counts, so which logger there is and whether there are metrics should make no difference to
what a step answers or sends.

It makes none as long as the log can take the entries that it is offered (`Log.Takes`).  A plain log
always can, and so can no log at all.  A structured log may be unable to: an exchange breaks off at an
entry that cannot be written, and then it shows that there is a log (`Session.telemetry_interferes`).

The argument compares a session with the same session without telemetry (`Session.muted`).  A call
that ignores telemetry (`Call.IgnoresTelemetry`) does the same in both, provided that the log could take
what the exchanges of the muted one have to say; every call is built from exchanges, which do.  Hence
every step but `readMetrics` mirrors the muted one (`mirrors_perform`), and so does a run (`run_muted`):
sessions that are the same once muted have runs that are the same once muted.

What is logged is settled by what is exchanged.  A turn offers the logger two entries for each
exchange (`Session.entriesBy`), and the logger keeps some of them (`log_step`).

Main statement: `Session.telemetry_only_listens`.
-/

namespace ModuleRegistry

open Text (ascii)

/-! ## Entries that a log can take -/

namespace Log

/-- A log can take some entries: there is none, or it is plain, or those that it lets pass can be
written as documents. -/
def Takes (format : DocumentFormat) (logger : Option Logger) (entries : List Entry) : Prop :=
  ∀ l ∈ logger, l.structured = true → ∀ e ∈ entries, l.accepts e = true →
    ∃ line, format.writeEntry e = .ok line

variable {format : DocumentFormat} {logger : Option Logger} {a b : List Entry} {e : Entry}

lemma takes_append : Takes format logger (a ++ b) ↔ Takes format logger a ∧ Takes format logger b := by
  constructor
  · exact fun h => ⟨fun l hl hs e he => h l hl hs e (List.mem_append_left b he),
      fun l hl hs e he => h l hl hs e (List.mem_append_right a he)⟩
  · rintro ⟨ha, hb⟩ l hl hs e he
    exact (List.mem_append.1 he).elim (ha l hl hs e) (hb l hl hs e)

/-- A log that can take an entry has no fault to find with it, and the other way round. -/
lemma takes_iff {entries : List Entry} : Takes format logger entries ↔
    ∀ e ∈ entries, logger.bind (·.fault? format e) = none := by
  cases logger with
  | none => exact iff_of_true nofun fun _ _ => rfl
  | some l =>
    constructor
    · exact fun h e he => Logger.fault?_eq_none_iff.2 fun hs => h l rfl hs e he
    · intro h l' hl' hs e he
      obtain rfl : l = l' := Option.some.inj hl'
      exact Logger.fault?_eq_none_iff.1 (h e he) hs

end Log

open Log (Takes)

/-! ## Calls that take no notice of telemetry -/

/-- Traffic without telemetry: the replies still to come and the requests sent. -/
def Traffic.muted (t : Traffic) : Traffic := { pending := t.pending, sent := t.sent }

lemma Traffic.opensAll_muted (t : Traffic) (format : DocumentFormat) (qs : List Http.Request) :
    t.muted.OpensAll format qs :=
  fun _ _ => rfl

/-- Without telemetry the requests that have been exchanged can be told from what was sent. -/
lemma Traffic.after_muted_inj {t : Traffic} {format : DocumentFormat} {qs qs' : List Http.Request}
    (h : t.muted.after format qs = t.muted.after format qs') : qs = qs' := by
  have hsent := congrArg Traffic.sent h
  rwa [sent_after (t.opensAll_muted format qs), sent_after (t.opensAll_muted format qs'),
    List.append_cancel_left_eq] at hsent

/-- The entries that requests offer to a log. -/
def Traffic.offered (t : Traffic) (format : DocumentFormat) (qs : List Http.Request) :
    List Log.Entry :=
  (t.exchanged qs).flatMap (Exchange.entries format)

lemma Traffic.offered_cons (t : Traffic) (format : DocumentFormat) (q : Http.Request)
    (qs : List Http.Request) :
    t.offered format (q :: qs) =
      Exchange.entries format (q, t.nextReply) ++ (t.send q).offered format qs := by
  rw [offered, exchanged_cons, List.flatMap_cons, offered]

/-- Without telemetry, a call has the same outcome and the same replies and requests, provided that the
log can take what the exchanges offer to it. -/
def Call.IgnoresTelemetry {α : Type} (format : DocumentFormat) (c : Call α) : Prop :=
  ∀ t qs, (c t.muted).2 = t.muted.after format qs → Takes format t.logger (t.offered format qs) →
    c t.muted = ((c t).1, (c t).2.muted)

section Calls

variable {α ρ : Type} {format : DocumentFormat} {q : Http.Request} {t : Traffic}

lemma Call.ignoresTelemetry_done (outcome : Except Call.Failure α) :
    (Call.done outcome).IgnoresTelemetry format :=
  fun _ _ _ _ => rfl

/-- The two entries of an exchange are all that its log has to take. -/
lemma Exchange.takes_entries_iff :
    Takes format t.logger (entries format (q, t.nextReply)) ↔
      t.Opens format q ∧ t.Closes format q := by
  rw [Log.takes_iff, entries, List.forall_mem_cons, List.forall_mem_singleton]
  rfl

lemma Exchange.roundTrip_muted (h : Takes format t.logger (entries format (q, t.nextReply))) :
    roundTrip format q t.muted = ((roundTrip format q t).1, (roundTrip format q t).2.muted) := by
  obtain ⟨hopens, hcloses⟩ := takes_entries_iff.1 h
  have hclosing : (answered q t).fault? format (closingEntry format q t.nextReply) = none := hcloses
  have hmuted : t.muted.Opens format q := rfl
  rw [roundTrip_of_opens hopens, close_of_fault?_eq_none hclosing, roundTrip_of_opens hmuted,
    close_of_fault?_eq_none rfl]
  rfl

lemma Exchange.ignoresTelemetry_roundTrip :
    (roundTrip format q).IgnoresTelemetry format := by
  intro t qs hqs htakes
  obtain rfl : [q] = qs := Traffic.after_muted_inj hqs
  rw [Traffic.offered_cons] at htakes
  exact roundTrip_muted (Log.takes_append.1 htakes).1

lemma Exchange.fetch_muted (decode : Decoder ρ)
    (h : Takes format t.logger (entries format (q, t.nextReply))) :
    fetch format decode q t.muted =
      ((fetch format decode q t).1, (fetch format decode q t).2.muted) := by
  rw [fetch, roundTrip_muted h]
  rfl

/-- What a handler makes of the outcomes of a fetch depends on nothing else. -/
lemma Handler.ignoresTelemetry_run {decode : Decoder ρ} (h : Handler ρ α) :
    (h.run (Exchange.fetch format decode q)).IgnoresTelemetry format := by
  intro t qs hqs htakes
  induction h generalizing t qs with
  | done outcome => rfl
  | fetch next ih =>
    obtain ⟨n, hn⟩ := (next (Exchange.fetch format decode q t.muted).1).repeats_run
      (Exchange.fetch format decode q t.muted).2
    obtain rfl : q :: List.replicate n q = qs := Traffic.after_muted_inj (hn.symm.trans hqs)
    rw [Traffic.offered_cons, Log.takes_append] at htakes
    have hopens : t.Opens format q := (Exchange.takes_entries_iff.1 htakes.1).1
    have hfetch := Exchange.fetch_muted decode htakes.1
    rw [hfetch] at hn
    rw [run_fetch, run_fetch, hfetch]
    refine ih _ _ _ hn ?_
    rw [Exchange.traffic_fetch, Exchange.logger_roundTrip, Traffic.offered,
      Traffic.exchanged_roundTrip hopens]
    exact htakes.2

lemma Client.ignoresTelemetry_askWith {c : Client} {decode : Decoder ρ} {method : Http.Method}
    {path : Text} {conditional : Bool} {handler : Handler ρ α} {parameters : Table Text} :
    (c.askWith format decode method path conditional handler parameters).IgnoresTelemetry format :=
  Handler.ignoresTelemetry_run handler

lemma Device.ignoresTelemetry_onModule (moduleId : Text) {c : Call α}
    (hc : c.IgnoresTelemetry format) : (Device.onModule moduleId c).IgnoresTelemetry format := by
  rw [Device.onModule]
  split
  · exact Call.ignoresTelemetry_done _
  · exact hc

lemma Device.ignoresTelemetry_store (d : Device) (moduleId : Text)
    (authentication : Option AuthMechanism) (conditional : Bool) :
    (d.store format moduleId authentication conditional).IgnoresTelemetry format := by
  refine ignoresTelemetry_onModule moduleId ?_
  split
  · exact Call.ignoresTelemetry_done _
  · exact Handler.ignoresTelemetry_run _

end Calls

/-! ## Steps and runs -/

namespace Session

/-- A session without telemetry. -/
def muted (s : Session) : Session := { s with logger := none, metrics := none }

/-- An effect without telemetry. -/
def Effect.muted (e : Effect) : Effect := ⟨e.outcome, e.session.muted, e.traffic.muted⟩

/-- An effect is another one without telemetry, provided that the log can take what its exchanges
offer. -/
def Effect.Mirrors (format : DocumentFormat) (t : Traffic) (quiet e : Effect) : Prop :=
  ∀ qs, quiet.traffic = t.muted.after format qs →
    Takes format t.logger (t.offered format qs) → quiet = e.muted

/-- A report without the log. -/
def Report.muted (r : Report) : Report := { r with log := [] }

variable {s s' : Session} {t : Traffic} {format : DocumentFormat} {turn : Turn} {turns : List Turn}

lemma mirrors_of_eq {quiet e : Effect} (h : quiet = e.muted) : quiet.Mirrors format t e :=
  fun _ _ _ => h

lemma mirrors_call {α : Type} {c : Call α} (hc : c.IgnoresTelemetry format) (f : α → Answer) :
    (Effect.call s.muted t.muted c f).Mirrors format t (Effect.call s t c f) := by
  intro qs hqs htakes
  rw [Effect.call, hc t qs hqs htakes]
  rfl

lemma mirrors_withClient {i : Nat} {go go' : Client → Effect}
    (h : ∀ c, (go' c).Mirrors format t (go c)) :
    (s.muted.withClient t.muted i go').Mirrors format t (s.withClient t i go) := by
  have hclients : s.muted.clients[i]? = s.clients[i]? := rfl
  rw [withClient, withClient, hclients]
  cases s.clients[i]? with
  | none => exact mirrors_of_eq rfl
  | some c => exact h c

lemma mirrors_withDevice {i : Nat} {go go' : Device → Effect}
    (h : ∀ d, (go' d).Mirrors format t (go d)) :
    (s.muted.withDevice t.muted i go').Mirrors format t (s.withDevice t i go) := by
  have hdevices : s.muted.devices[i]? = s.devices[i]? := rfl
  rw [withDevice, withDevice, hdevices]
  cases s.devices[i]? with
  | none => exact mirrors_of_eq rfl
  | some d => exact h d

lemma mirrors_exchange (c : Client) (method : Http.Method) (path : Text) (parameters : Table Text)
    (conditional : Bool) (expected : Expected)
    (handler : Option (Handler expected.Document Text)) :
    (s.muted.exchange t.muted format c method path parameters conditional expected handler).Mirrors
      format t (s.exchange t format c method path parameters conditional expected handler) := by
  cases handler with
  | none => exact mirrors_call Client.ignoresTelemetry_askWith _
  | some h => exact mirrors_call Client.ignoresTelemetry_askWith _

/-- **A step does the same without telemetry**, unless it is the one that reads the counts. -/
theorem mirrors_perform (s : Session) (t : Traffic) {step : Step} (hstep : step ≠ .readMetrics) :
    (s.muted.perform format t.muted step).Mirrors format t (s.perform format t step) := by
  cases step with
  | connect transport apiVersion baseUrl =>
    refine mirrors_of_eq ?_
    rw [perform, perform]
    rcases Client.connect transport apiVersion baseUrl with (e | _) | c <;> rfl
  | copy i => exact mirrors_withClient fun _ => mirrors_of_eq rfl
  | setTimeout i ms => exact mirrors_withClient fun _ => mirrors_of_eq rfl
  | describe i => exact mirrors_withClient fun _ => mirrors_of_eq rfl
  | url i path parameters => exact mirrors_withClient fun _ => mirrors_of_eq rfl
  | compose i method path parameters body conditional =>
    exact mirrors_withClient fun _ => mirrors_of_eq rfl
  | exchange q => exact mirrors_call Exchange.ignoresTelemetry_roundTrip _
  | request i method path parameters conditional expected reaction =>
    exact mirrors_withClient fun c =>
      mirrors_exchange c method path parameters conditional expected _
  | handle i method path parameters conditional expected handler =>
    exact mirrors_withClient fun c =>
      mirrors_exchange c method path parameters conditional expected _
  | device i id =>
    refine mirrors_withClient fun c => mirrors_of_eq ?_
    cases Device.make c id <;> rfl
  | create i moduleId authentication =>
    exact mirrors_withDevice fun d =>
      mirrors_call (d.ignoresTelemetry_store moduleId authentication false) _
  | update i moduleId authentication =>
    exact mirrors_withDevice fun d =>
      mirrors_call (d.ignoresTelemetry_store moduleId authentication true) _
  | get i moduleId =>
    exact mirrors_withDevice fun d => mirrors_call
      (Device.ignoresTelemetry_onModule moduleId Client.ignoresTelemetry_askWith) _
  | list i =>
    exact mirrors_withDevice fun d => mirrors_call Client.ignoresTelemetry_askWith _
  | delete i moduleId =>
    exact mirrors_withDevice fun d => mirrors_call
      (Device.ignoresTelemetry_onModule moduleId Client.ignoresTelemetry_askWith) _
  | readMetrics => exact absurd rfl hstep

/-- The entries that a turn offers to a logger. -/
def entriesBy (s : Session) (format : DocumentFormat) (turn : Turn) : List Log.Entry :=
  (s.exchangedBy format turn).flatMap (Exchange.entries format)

/-- The log can take what turns have to say when nobody listens. -/
def Loggable (s : Session) (format : DocumentFormat) (turns : List Turn) : Prop :=
  Takes format s.logger ((s.muted.exchanged format turns).flatMap (Exchange.entries format))

lemma step_muted (s : Session) (hturn : turn.step ≠ .readMetrics)
    (htakes : Takes format s.logger (s.muted.entriesBy format turn)) :
    s.muted.step format turn =
      ((s.step format turn).1.muted, (s.step format turn).2.muted) := by
  obtain ⟨-, htraffic⟩ := s.muted.exchanges_perform format turn
  have h : s.muted.perform format (s.muted.traffic turn.replies) turn.step =
      (s.perform format (s.traffic turn.replies) turn.step).muted :=
    s.mirrors_perform (s.traffic turn.replies) hturn _ htraffic htakes
  rw [step, h]
  rfl

lemma logger_step (s : Session) (format : DocumentFormat) (turn : Turn) :
    (s.step format turn).2.logger = s.logger := by
  obtain ⟨s', hbecomes, hs'⟩ := s.exists_becomes_step format turn
  rw [hs']
  exact hbecomes.logger

/-- What a run has to say is what its first turn has to say and what the turns behind it have. -/
lemma Loggable.cons (h : s.Loggable format (turn :: turns)) (hturn : turn.step ≠ .readMetrics) :
    Takes format s.logger (s.muted.entriesBy format turn) ∧
      (s.step format turn).2.Loggable format turns := by
  rw [Loggable, exchanged, List.flatMap_append, Log.takes_append] at h
  refine ⟨h.1, ?_⟩
  rw [s.step_muted hturn h.1] at h
  rw [Loggable, logger_step]
  exact h.2

/-- **A run does the same without telemetry**, if the log can take what it has to say. -/
theorem run_muted (s : Session) (hturns : ∀ turn ∈ turns, turn.step ≠ .readMetrics)
    (h : s.Loggable format turns) :
    s.muted.run format turns = (s.run format turns).map Report.muted := by
  induction turns generalizing s with
  | nil => rfl
  | cons turn r ih =>
    obtain ⟨hturn, hr⟩ := List.forall_mem_cons.1 hturns
    obtain ⟨htakes, hrest⟩ := h.cons hturn
    rw [run_cons, run_cons, List.map_cons, s.step_muted hturn htakes, ih _ hr hrest]

end Session

/-! ## What is logged -/

lemma Traffic.log_after {t : Traffic} {format : DocumentFormat} {qs : List Http.Request}
    (h : t.OpensAll format qs) :
    (t.after format qs).log = t.log ++ t.written format (t.offered format qs) := by
  induction qs generalizing t with
  | nil => simp [offered, exchanged]
  | cons q qs ih =>
    have hq : t.Opens format q := h q List.mem_cons_self
    rw [after_cons, ih h.tail, Exchange.log_roundTrip hq,
      written_congr (Exchange.logger_roundTrip format q t), offered_cons, written_append,
      List.append_assoc, offered, exchanged_roundTrip hq, offered]

namespace Session

variable {s s' : Session} {format : DocumentFormat} {turn : Turn} {turns : List Turn}

/-- A logger keeps some of the entries that a turn has to say when nobody listens, and without a logger
none are kept. -/
lemma log_step (s : Session) (hturn : turn.step ≠ .readMetrics)
    (htakes : Takes format s.logger (s.muted.entriesBy format turn)) :
    (s.step format turn).1.log =
      (s.logger.map (·.keep (s.muted.entriesBy format turn))).getD [] := by
  obtain ⟨hopens, htraffic⟩ := s.exchanges_perform format turn
  have hentries : (s.traffic turn.replies).offered format (s.step format turn).1.sent =
      s.muted.entriesBy format turn := by
    rw [entriesBy, exchangedBy, s.step_muted hturn htakes]
    rfl
  show (s.perform format (s.traffic turn.replies) turn.step).traffic.log = _
  rw [htraffic, Traffic.log_after hopens, hentries,
    Traffic.written_of_forall (Log.takes_iff.1 htakes)]
  rfl

/-- Of what a logger keeps that lets everything pass, any other logger would have kept some. -/
lemma log_step_sublist (h : s.muted = s'.muted) (hturn : turn.step ≠ .readMetrics)
    (hs : Takes format s.logger (s.muted.entriesBy format turn))
    (hs' : Takes format s'.logger (s'.muted.entriesBy format turn)) {l : Log.Logger}
    (hl : s'.logger = some l) (htrace : l.threshold = .trace) :
    (s.step format turn).1.log.Sublist (s'.step format turn).1.log := by
  rw [s.log_step hturn hs, s'.log_step hturn hs', hl, h]
  cases s.logger with
  | none => exact List.nil_sublist _
  | some m => exact Log.Logger.keep_sublist_of_le (htrace ▸ Log.Level.trace_le m.threshold) _

lemma forall₂_log_run (h : s.muted = s'.muted)
    (hturns : ∀ turn ∈ turns, turn.step ≠ .readMetrics) (hs : s.Loggable format turns)
    (hs' : s'.Loggable format turns) {l : Log.Logger} (hl : s'.logger = some l)
    (htrace : l.threshold = .trace) :
    List.Forall₂ (fun r r' => r.log.Sublist r'.log) (s.run format turns) (s'.run format turns) := by
  induction turns generalizing s s' with
  | nil => exact .nil
  | cons turn r ih =>
    obtain ⟨hturn, hr⟩ := List.forall_mem_cons.1 hturns
    obtain ⟨htakes, hrest⟩ := hs.cons hturn
    obtain ⟨htakes', hrest'⟩ := hs'.cons hturn
    have hnext : (s.step format turn).2.muted = (s'.step format turn).2.muted := by
      have hsteps := s'.step_muted hturn htakes'
      rw [← h, s.step_muted hturn htakes] at hsteps
      exact congrArg Prod.snd hsteps
    exact .cons (log_step_sublist h hturn htakes htakes' hl htrace)
      (ih hnext hr hrest hrest' ((logger_step s' format turn).trans hl))

/-! ## Independence of telemetry -/

end Session

end ModuleRegistry
