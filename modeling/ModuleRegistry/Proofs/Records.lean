import ModuleRegistry.Proofs.Errors

/-!
# The end of an exchange and its records

An exchange ends in one of three ways, and what it logs has to agree with the way it ended.
`Exchange.Ending` lists the three, each with its condition on the reply, its outcome and its record as
it stands in the log.  The record of the request, `Exchange.openingRecord`, comes before it in every
case.

Which of the two records are written is up to the level that the log is made with.  The request and a
success are entries at `debug`, a failure is one at `warn`, so a level counts only by whether it lets
these two pass (`Log.Level.ofName_le_debug_iff` and `Log.Level.ofName_le_warn_iff`).  A log of records
takes every entry (`Traffic.fault?_of_records`).

Main statement: `Exchange.one_outcome_and_its_records`.
-/

namespace ModuleRegistry

open Text (ascii)

/-! ## Levels by name -/

namespace Log.Level

/-- The name of a level in a configuration. -/
def name : Level → Text
  | trace => ascii "trace"
  | debug => ascii "debug"
  | info => ascii "info"
  | warn => ascii "warn"
  | error => ascii "error"
  | critical => ascii "critical"

lemma ofName_name (l : Level) : ofName l.name = l := by
  cases l <;> decide

lemma ofName_of_forall_ne {s : Text} (h : ∀ l : Level, s ≠ l.name) : ofName s = info := by
  have htrace : s ≠ ascii "trace" := h trace
  have hdebug : s ≠ ascii "debug" := h debug
  have hwarn : s ≠ ascii "warn" := h warn
  have herror : s ≠ ascii "error" := h error
  have hcritical : s ≠ ascii "critical" := h critical
  simp [ofName, htrace, hdebug, hwarn, herror, hcritical]

/-- A text is the name of a level or means nothing. -/
lemma ofName_cases {p : Text → Level → Prop} (named : ∀ l : Level, p l.name l)
    (other : ∀ s, (∀ l : Level, s ≠ l.name) → p s info) (s : Text) : p s (ofName s) := by
  by_cases h : ∃ l : Level, s = l.name
  · obtain ⟨l, rfl⟩ := h
    rw [ofName_name]
    exact named l
  · have hne : ∀ l : Level, s ≠ l.name := not_exists.1 h
    rw [ofName_of_forall_ne hne]
    exact other s hne

lemma ofName_le_debug_iff (s : Text) : ofName s ≤ debug ↔ s ∈ [ascii "trace", ascii "debug"] := by
  refine ofName_cases (p := fun s l => l ≤ debug ↔ s ∈ _) (fun l => ?_) (fun s h => ?_) s
  · cases l <;> decide
  · have hout : s ∉ [ascii "trace", ascii "debug"] := by
      simpa using ⟨h trace, h debug⟩
    exact iff_of_false (by decide) hout

/-- A name that means nothing lets warnings pass. -/
lemma ofName_le_warn_iff (s : Text) : ofName s ≤ warn ↔ s ∉ [ascii "error", ascii "critical"] := by
  refine ofName_cases (p := fun s l => l ≤ warn ↔ s ∉ _) (fun l => ?_) (fun s h => ?_) s
  · cases l <;> decide
  · have hout : s ∉ [ascii "error", ascii "critical"] := by
      simpa using ⟨h error, h critical⟩
    exact iff_of_true (by decide) hout

end Log.Level

/-! ## Records -/

lemma Table.contains_iff {α : Type} {t : Table α} {k : Text} :
    t.contains k = true ↔ k ∈ t.keys := by
  simp [contains, keys, Option.isSome_iff_exists, get?_eq_some_iff]

/-- The record of an entry that has fields but no identifiers. -/
lemma Log.record_of_fields {e : Entry} (hdevice : e.deviceId = [])
    (hcorrelation : e.correlationId = []) {f : Text × Text} {l : List (Text × Text)}
    (hfields : e.fields.toList = f :: l) :
    e.record = ascii "[" ++ e.level.label ++ ascii "] [" ++ e.subsystem ++ ascii "] " ++
      e.message ++ ascii " \x7b" ++
      Text.join (ascii ", ") ((f :: l).map fun f => f.1 ++ ascii "=" ++ f.2) ++ ascii "\x7d" := by
  simp [Entry.record, tag, hdevice, hcorrelation, fieldBlock, Table.isEmpty, hfields]

/-- A log of records takes every entry. -/
lemma Traffic.fault?_of_records {t : Traffic} {level : Text}
    (hlogger : t.logger = some (.ofName level false)) (format : DocumentFormat) (e : Log.Entry) :
    t.fault? format e = none := by
  refine fault?_of_plain (fun l hl => ?_) format e
  obtain rfl : .ofName level false = l := Option.some.inj (hlogger.symm.trans hl)
  rfl

namespace Exchange

/-- The record of a request that is about to be sent. -/
def openingRecord (q : Http.Request) : Text :=
  ascii "[DEBUG] [HubClient] Sending request \x7bifMatch=" ++
    (if ascii "If-Match" ∈ q.headers.keys then ascii "*" else ascii "none") ++
    ascii ", method=" ++ q.method.name ++ ascii ", url=" ++ q.url ++ ascii "\x7d"

/-- How an exchange ends on a reply that explains nothing: the condition on the reply, the outcome and
the record. -/
inductive Ending (q : Http.Request) (r : Http.Reply) : Except Call.Failure Text → Text → Prop
  | broken (herror : r.error ≠ []) :
      Ending q r (.error (.hub { kind := .transport, message := r.error }))
        (ascii "[WARN] [HubClient] Transport error: " ++ r.error ++
          ascii " \x7bmethod=" ++ q.method.name ++ ascii ", url=" ++ q.url ++ ascii "\x7d")
  | refused (herror : r.error = []) (hstatus : ¬(200 ≤ r.status ∧ r.status ≤ 299)) :
      Ending q r
        (.error (.hub
          { kind := .hubService
            message := ascii "Hub returned status " ++ Text.ofInt r.status
            statusCode := r.status }))
        (ascii "[WARN] [HubClient] Hub returned status " ++ Text.ofInt r.status ++
          ascii " \x7bmethod=" ++ q.method.name ++ ascii ", status=" ++ Text.ofInt r.status ++
          ascii ", url=" ++ q.url ++ ascii "\x7d")
  | completed (herror : r.error = []) (hstatus : 200 ≤ r.status ∧ r.status ≤ 299) :
      Ending q r (.ok r.body)
        (ascii "[DEBUG] [HubClient] Request completed \x7bmethod=" ++ q.method.name ++
          ascii ", status=" ++ Text.ofInt r.status ++ ascii ", url=" ++ q.url ++ ascii "\x7d")

lemma record_openingEntry (q : Http.Request) : (openingEntry q).record = openingRecord q := by
  have hfields : (openingEntry q).fields.toList = [conditionField q, methodField q, urlField q] :=
    rfl
  rw [Log.record_of_fields rfl rfl hfields, openingRecord]
  simp [Text.join, conditionField, methodField, urlField, Table.contains_iff, ascii, subsystem,
    Log.Level.label, openingEntry, ifMatch]

/-- The record of an entry that gives the status of the reply. -/
lemma record_with_status (level : Log.Level) (message : Text) (q : Http.Request)
    (r : Http.Reply) :
    ({ level, subsystem, message
       fields := .ofList [methodField q, urlField q, statusField r] } : Log.Entry).record =
      ascii "[" ++ level.label ++ ascii "] [HubClient] " ++ message ++ ascii " \x7bmethod=" ++
        q.method.name ++ ascii ", status=" ++ Text.ofInt r.status ++ ascii ", url=" ++ q.url ++
        ascii "\x7d" := by
  have hfields : (Table.ofList [methodField q, urlField q, statusField r]).toList =
      [methodField q, statusField r, urlField q] := rfl
  rw [Log.record_of_fields rfl rfl hfields]
  simp [Text.join, methodField, statusField, urlField, ascii, subsystem]

section Closing

variable (format : DocumentFormat) (q : Http.Request) {r : Http.Reply}

lemma record_of_error (h : r.error ≠ []) :
    (closingEntry format q r).record =
      ascii "[WARN] [HubClient] Transport error: " ++ r.error ++
        ascii " \x7bmethod=" ++ q.method.name ++ ascii ", url=" ++ q.url ++ ascii "\x7d" := by
  have hentry : closingEntry format q r =
      { level := .warn
        subsystem := subsystem
        message := ascii "Transport error: " ++ r.error
        fields := .ofList [methodField q, urlField q] } := by
    simp [closingEntry, h]
  have hfields : (Table.ofList [methodField q, urlField q]).toList = [methodField q, urlField q] :=
    rfl
  rw [hentry, Log.record_of_fields rfl rfl hfields]
  simp [Text.join, methodField, urlField, ascii, subsystem, Log.Level.label]

lemma record_of_refusal (hr : r.Unexplained format) (h : r.error = [])
    (hs : ¬(200 ≤ r.status ∧ r.status ≤ 299)) :
    (closingEntry format q r).record =
      ascii "[WARN] [HubClient] Hub returned status " ++ Text.ofInt r.status ++
        ascii " \x7bmethod=" ++ q.method.name ++ ascii ", status=" ++ Text.ofInt r.status ++
        ascii ", url=" ++ q.url ++ ascii "\x7d" := by
  have hentry : closingEntry format q r =
      { level := .warn
        subsystem := subsystem
        message := ascii "Hub returned status " ++ Text.ofInt r.status
        fields := .ofList [methodField q, urlField q, statusField r] } := by
    rw [← HubError.shown_refused, ← refusal_of_unexplained hr h hs]
    rw [← Http.isSuccess_iff, Bool.not_eq_true] at hs
    simp [closingEntry, h, hs]
  rw [hentry, record_with_status]
  simp [ascii, Log.Level.label]

lemma closingEntry_of_success (h : r.error = []) (hs : 200 ≤ r.status ∧ r.status ≤ 299) :
    closingEntry format q r =
      { level := .debug
        subsystem := subsystem
        message := ascii "Request completed"
        fields := .ofList [methodField q, urlField q, statusField r] } := by
  rw [← Http.isSuccess_iff] at hs
  simp [closingEntry, h, hs]

lemma record_of_success (h : r.error = []) (hs : 200 ≤ r.status ∧ r.status ≤ 299) :
    (closingEntry format q r).record =
      ascii "[DEBUG] [HubClient] Request completed \x7bmethod=" ++ q.method.name ++
        ascii ", status=" ++ Text.ofInt r.status ++ ascii ", url=" ++ q.url ++ ascii "\x7d" := by
  rw [closingEntry_of_success format q h hs, record_with_status]
  simp [ascii, Log.Level.label]

/-- **An exchange ends in one of three ways**, and its second record is the one that belongs to it. -/
lemma ending (hr : r.Unexplained format) :
    Ending q r ((outcome format r).mapError .hub) (closingEntry format q r).record := by
  by_cases herror : r.error = []
  · by_cases hstatus : 200 ≤ r.status ∧ r.status ≤ 299
    · rw [outcome_of_success format herror hstatus, record_of_success format q herror hstatus]
      exact .completed herror hstatus
    · rw [outcome_of_refusal format herror hstatus, refusal_of_unexplained hr herror hstatus,
        record_of_refusal format q hr herror hstatus, HubError.refused,
        Call.Failure.mapError_error]
      simpa using Ending.refused (q := q) herror hstatus
  · rw [outcome_of_error format herror, record_of_error format q herror]
    exact .broken herror

/-- A failure is logged at `warn` and a success at `debug`. -/
lemma level_closingEntry (r : Http.Reply) :
    (closingEntry format q r).level = if (outcome format r).isOk then .debug else .warn := by
  unfold closingEntry outcome
  split
  · rfl
  · split <;> rfl

/-- The records that a log made with a level keeps of the two entries of an exchange. -/
lemma records_keep (level : Text) (r : Http.Reply) :
    ((Log.Logger.ofName level false).keep [openingEntry q, closingEntry format q r]).map
        Log.Entry.record =
      if level ∈ [ascii "trace", ascii "debug"] then
        [openingRecord q, (closingEntry format q r).record]
      else if level ∈ [ascii "error", ascii "critical"] then []
      else if (outcome format r).isOk then [] else [(closingEntry format q r).record] := by
  have haccepts (e : Log.Entry) : (Log.Logger.ofName level false).accepts e = true ↔
      Log.Level.ofName level ≤ e.level := decide_eq_true_iff
  have hopening := haccepts (openingEntry q)
  have hclosing := haccepts (closingEntry format q r)
  have hdebug : Log.Level.ofName level ≤ (openingEntry q).level ↔
      level ∈ [ascii "trace", ascii "debug"] := Log.Level.ofName_le_debug_iff level
  rw [hdebug] at hopening
  rw [level_closingEntry] at hclosing
  rw [← record_openingEntry]
  by_cases hall : level ∈ [ascii "trace", ascii "debug"]
  · -- whatever lets an entry at `debug` pass lets a warning pass
    have hwarn : Log.Level.ofName level ≤ .warn :=
      Log.Level.le_trans ((Log.Level.ofName_le_debug_iff level).2 hall) (by decide)
    have hend : (Log.Logger.ofName level false).accepts (closingEntry format q r) = true := by
      rw [hclosing]
      split
      · exact (Log.Level.ofName_le_debug_iff level).2 hall
      · exact hwarn
    rw [if_pos hall, Log.Logger.keep, List.filter_cons_of_pos (hopening.2 hall),
      List.filter_cons_of_pos hend]
    rfl
  · rw [if_neg hall, Log.Logger.keep, List.filter_cons_of_neg (mt hopening.1 hall)]
    cases hok : (outcome format r).isOk with
    | true =>
      rw [hok, if_pos rfl, Log.Level.ofName_le_debug_iff] at hclosing
      rw [List.filter_cons_of_neg (mt hclosing.1 hall)]
      simp
    | false =>
      rw [hok, if_neg Bool.false_ne_true, Log.Level.ofName_le_warn_iff] at hclosing
      by_cases hnone : level ∈ [ascii "error", ascii "critical"]
      · rw [if_pos hnone, List.filter_cons_of_neg fun h => hclosing.1 h hnone]
        rfl
      · rw [if_neg hnone, List.filter_cons_of_pos (hclosing.2 hnone)]
        rfl

end Closing

/-- What an exchange amounts to and leaves behind, with a log of records. -/
lemma roundTrip_of_records {t : Traffic} {level : Text}
    (hlogger : t.logger = some (.ofName level false)) (format : DocumentFormat) (q : Http.Request) :
    let exchange := roundTrip format q t
    exchange.1 = (outcome format t.nextReply).mapError .hub ∧
      exchange.1.isOk = (outcome format t.nextReply).isOk ∧
      exchange.2.sent = t.sent ++ [q] ∧ exchange.2.pending = t.pending.tail ∧
      exchange.2.log = t.log ++
        (Log.Logger.ofName level false).keep [openingEntry q, closingEntry format q t.nextReply] := by
  intro exchange
  have hopens : t.Opens format q := Traffic.fault?_of_records hlogger format _
  have hcloses : t.Closes format q := Traffic.fault?_of_records hlogger format _
  have houtcome : exchange.1 = (outcome format t.nextReply).mapError .hub :=
    outcome_roundTrip hopens hcloses
  refine ⟨houtcome, ?_, sent_roundTrip hopens, pending_roundTrip hopens, ?_⟩
  · rw [houtcome]
    cases outcome format t.nextReply <;> rfl
  · rw [log_roundTrip hopens,
      Traffic.written_of_forall fun e _ => Traffic.fault?_of_records hlogger format e, hlogger]
    rfl

/-- **One exchange has one outcome and the records that belong to it.**  The request is sent once, as it
is, and uses up one reply.  The exchange ends in one of three ways, and with a log of records at a level
of any name it leaves these: from `trace` and `debug`, the record of the request and that of the end;
from `error` and `critical`, none; from any other name, a known one or not, the record of the end if it
is a failure. -/
theorem one_outcome_and_its_records (format : DocumentFormat) (q : Http.Request) (level : Text)
    {t : Traffic} {r : Http.Reply} {replies : List Http.Reply} (ht : t.pending = r :: replies)
    (hlogger : t.logger = some (.ofName level false)) (hr : r.Unexplained format) :
    let exchange := roundTrip format q t
    exchange.2.sent = t.sent ++ [q] ∧ exchange.2.pending = replies ∧
    ∃ closingRecord, Ending q r exchange.1 closingRecord ∧
      exchange.2.log.map Log.Entry.record = t.log.map Log.Entry.record ++
        if level ∈ [ascii "trace", ascii "debug"] then [openingRecord q, closingRecord]
        else if level ∈ [ascii "error", ascii "critical"] then []
        else if exchange.1.isOk then [] else [closingRecord] := by
  intro exchange
  have hreply : t.nextReply = r := by
    rw [Traffic.nextReply, ht]
    rfl
  obtain ⟨houtcome, hok, hsent, hpending, hlog⟩ := roundTrip_of_records hlogger format q
  rw [hreply] at houtcome hok hlog
  refine ⟨hsent, hpending.trans (congrArg List.tail ht), (closingEntry format q r).record, ?_, ?_⟩
  · exact houtcome.symm ▸ ending format q hr
  · rw [hlog, List.map_append, records_keep, hok]

/-- A refused deletion with a header of nearly the right name, first with a log at a level that does not
exist and then at `debug`. -/
theorem one_outcome_and_its_records_refused :
    let q : Http.Request :=
      { method := .delete
        url := ascii "https://hub/a"
        headers := .ofList [(ascii "if-match", ascii "*")]
        timeoutMs := 5 }
    let r : Http.Reply := { status := 503, body := ascii " \n" }
    let t (level : Text) : Traffic := { pending := [r], logger := some (.ofName level false) }
    let request := ascii "[DEBUG] [HubClient] Sending request \x7bifMatch=" ++ ascii "none" ++
      ascii ", method=" ++ ascii "DELETE" ++ ascii ", url=" ++ ascii "https://hub/a" ++ ascii "\x7d"
    let warning := ascii "[WARN] [HubClient] Hub returned status " ++ ascii "503" ++
      ascii " \x7bmethod=" ++ ascii "DELETE" ++ ascii ", status=" ++ ascii "503" ++
      ascii ", url=" ++ ascii "https://hub/a" ++ ascii "\x7d"
    (∀ level, (t level).pending = [r] ∧ (t level).logger = some (.ofName level false)) ∧
      r.Unexplained .none ∧
      (roundTrip .none q (t (ascii "loud"))).2.log.map Log.Entry.record = [warning] ∧
      (roundTrip .none q (t (ascii "debug"))).2.log.map Log.Entry.record = [request, warning] := by
  intro q r t request warning
  have hr : r.Unexplained .none := fun _ _ => .inl (by decide)
  have hrecords (level : Text) := one_outcome_and_its_records .none q level
    (show (t level).pending = [r] from rfl) rfl hr
  refine ⟨fun level => ⟨rfl, rfl⟩, hr, ?_, ?_⟩
  · obtain ⟨-, -, closing, hending, hlog⟩ := hrecords (ascii "loud")
    rw [hlog]
    cases hending with
    | refused herror hstatus => rfl
  · obtain ⟨-, -, closing, hending, hlog⟩ := hrecords (ascii "debug")
    rw [hlog]
    cases hending with
    | refused herror hstatus => rfl

end Exchange

end ModuleRegistry
