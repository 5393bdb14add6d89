import ModuleRegistry.Proofs.Records

/-!
# What a record identifies

Nothing in a record is quoted.  The address of a request stands in it as it is, with whatever commas,
equals signs and braces it has, so a record does not in general tell which fields it was made of.

The records of an exchange do.  Their fields stand in ascending order of the keys, which puts the
address last, behind fields whose values are words or numerals and so hold no comma.  A reader who
knows the keys can cut at the first commas, and all that is left is the address (`Log.eq_of_join_eq`).

Main statement: `Exchange.debug_log_identifies`.
-/

namespace ModuleRegistry

open Text (ascii)

/-! ## Numerals -/

namespace Text

/-- The number that a text of digits stands for. -/
def readNat (s : Text) : Nat := Nat.ofDigitChars 10 (s.map fun b => Char.ofNat b.toNat) 0

lemma readNat_ofNat (n : Nat) : readNat (ofNat n) = n := by
  have hchars : (ofNat n).map (fun b => Char.ofNat b.toNat) = Nat.toDigits 10 n := by
    rw [ofNat, List.map_map]
    refine (List.map_congr_left fun c hc => ?_).trans (List.map_id _)
    have hdigit : c.isDigit = true := Nat.isDigit_of_mem_toDigits (by omega) (by omega) hc
    have hbyte : c.toUInt8.toNat = c.toNat := by
      simp only [Char.isDigit, Bool.and_eq_true, decide_eq_true_eq, ge_iff_le,
        UInt32.le_iff_toNat_le] at hdigit
      have hnine : '9'.val.toNat = 57 := rfl
      rw [Char.toUInt8, UInt32.toNat_toUInt8, Char.toNat]
      omega
    rw [Function.comp_apply, hbyte, Char.ofNat_toNat, id]
  rw [readNat, hchars, Nat.ofDigitChars_ten_toDigits]

lemma ofInt_injective {m n : Int} (h : ofInt m = ofInt n) : m = n := by
  have hnat {a b : Nat} (h : ofNat a = ofNat b) : a = b := by
    rw [← readNat_ofNat a, h, readNat_ofNat]
  have hminus (a : Nat) (s : Text) : ofNat a ≠ '-'.toUInt8 :: s := by
    intro h
    have hmem : '-'.toUInt8 ∈ ofNat a := h ▸ List.mem_cons_self
    exact absurd (isDigit_of_mem_ofNat hmem).1 (by decide)
  match m, n with
  | .ofNat a, .ofNat b => rw [hnat h]
  | .ofNat a, .negSucc b => exact absurd h (hminus a _)
  | .negSucc a, .ofNat b => exact absurd h.symm (hminus b _)
  | .negSucc a, .negSucc b =>
    have hsucc : a + 1 = b + 1 := hnat (List.cons.inj h).2
    rw [Nat.succ.inj hsucc]

/-- Texts that were put together with a separator are told by where they are cut. -/
lemma append_cons_inj {sep : UInt8} {s s' r r' : Text} (hs : sep ∉ s) (hs' : sep ∉ s')
    (h : s ++ sep :: r = s' ++ sep :: r') : s = s' ∧ r = r' := by
  have hbefore := congrArg (before sep) h
  have hafter := congrArg (after sep) h
  rw [before_append_cons hs, before_append_cons hs'] at hbefore
  rw [after_append_cons hs, after_append_cons hs'] at hafter
  exact ⟨hbefore, hafter⟩

end Text

/-! ## Fields -/

namespace Log

/-- A field as it stands in a record. -/
def fieldText (f : Text × Text) : Text := f.1 ++ ascii "=" ++ f.2

lemma eq_of_fieldText_eq {f f' : Text × Text} (hkey : f.1 = f'.1)
    (h : fieldText f = fieldText f') : f = f' := by
  rw [fieldText, fieldText, hkey] at h
  exact Prod.ext hkey (List.append_cancel_left h)

/-- **Fields read back** from a record, for a reader who knows their keys, if no field but the last one
holds a comma. -/
lemma eq_of_join_eq {l l' : List (Text × Text)} (hkeys : l.map Prod.fst = l'.map Prod.fst)
    (hl : ∀ f ∈ l.dropLast, ','.toUInt8 ∉ fieldText f)
    (hl' : ∀ f ∈ l'.dropLast, ','.toUInt8 ∉ fieldText f)
    (h : Text.join (ascii ", ") (l.map fieldText) = Text.join (ascii ", ") (l'.map fieldText)) :
    l = l' := by
  match l, l' with
  | [], [] => rfl
  | [], _ :: _ => cases hkeys
  | _ :: _, [] => cases hkeys
  | [f], [f'] => rw [eq_of_fieldText_eq (List.cons.inj hkeys).1 h]
  | [_], _ :: _ :: _ => cases (List.cons.inj hkeys).2
  | _ :: _ :: _, [_] => cases (List.cons.inj hkeys).2
  | f :: g :: r, f' :: g' :: r' =>
    obtain ⟨hkey, hkeys⟩ := List.cons.inj hkeys
    simp only [List.map_cons, Text.join, List.append_assoc] at h
    obtain ⟨hfield, hrest⟩ := Text.append_cons_inj (hl f List.mem_cons_self)
      (hl' f' List.mem_cons_self) h
    have htail : g :: r = g' :: r' := by
      refine eq_of_join_eq hkeys (fun e he => hl e (List.mem_cons_of_mem f he))
        (fun e he => hl' e (List.mem_cons_of_mem f' he)) ?_
      exact (List.cons.inj hrest).2
    rw [eq_of_fieldText_eq hkey hfield, htail]

lemma fieldBlock_of_ne_nil {fields : Table Text} (h : fields.toList ≠ []) :
    fieldBlock fields =
      ascii " \x7b" ++ Text.join (ascii ", ") (fields.toList.map fieldText) ++ ascii "\x7d" := by
  rw [fieldBlock, Table.isEmpty, List.isEmpty_eq_false_iff.2 h]
  rfl

/-- A record tells the fields of its entry from others with the same keys. -/
lemma fields_eq_of_record_eq (e : Entry) {fields fields' : Table Text}
    (hkeys : fields.keys = fields'.keys)
    (hfields : ∀ f ∈ fields.toList.dropLast, ','.toUInt8 ∉ fieldText f)
    (hfields' : ∀ f ∈ fields'.toList.dropLast, ','.toUInt8 ∉ fieldText f)
    (h : { e with fields := fields }.record = { e with fields := fields' }.record) :
    fields = fields' := by
  have hblock : fieldBlock fields = fieldBlock fields' := List.append_cancel_left h
  have hnil : fields.toList = [] ↔ fields'.toList = [] := by
    rw [← List.map_eq_nil_iff (f := Prod.fst), ← List.map_eq_nil_iff (f := Prod.fst)]
    exact iff_of_eq (congrArg (· = []) hkeys)
  apply Table.ext
  by_cases hempty : fields.toList = []
  · rw [hempty, hnil.1 hempty]
  · rw [fieldBlock_of_ne_nil hempty, fieldBlock_of_ne_nil (mt hnil.2 hempty)] at hblock
    exact eq_of_join_eq hkeys hfields hfields'
      (List.append_cancel_left (List.append_cancel_right hblock))

end Log

namespace Exchange

/-- The record of a success. -/
def completedRecord (q : Http.Request) (status : Int) : Text :=
  ascii "[DEBUG] [HubClient] Request completed \x7bmethod=" ++ q.method.name ++
    ascii ", status=" ++ Text.ofInt status ++ ascii ", url=" ++ q.url ++ ascii "\x7d"

section Commas

variable (q : Http.Request) (r : Http.Reply)

lemma comma_not_mem_condition : ','.toUInt8 ∉ Log.fieldText (conditionField q) := by
  rw [Log.fieldText, conditionField]
  split <;> decide

lemma comma_not_mem_method : ','.toUInt8 ∉ Log.fieldText (methodField q) := by
  rw [Log.fieldText, methodField]
  cases q.method <;> decide

lemma comma_not_mem_status : ','.toUInt8 ∉ Log.fieldText (statusField r) := by
  have hkey : ','.toUInt8 ∉ ascii "status" ++ ascii "=" := by decide
  have hvalue : ','.toUInt8 ∉ Text.ofInt r.status := Text.not_mem_ofInt (by decide) (by decide) _
  rw [Log.fieldText, statusField, List.mem_append, not_or]
  exact ⟨hkey, hvalue⟩

end Commas

lemma conditionField_eq_iff {q q' : Http.Request} :
    conditionField q = conditionField q' ↔
      (ascii "If-Match" ∈ q.headers.keys ↔ ascii "If-Match" ∈ q'.headers.keys) := by
  have hne : ascii "*" ≠ ascii "none" := by decide
  rw [← Table.contains_iff, ← Table.contains_iff, conditionField, conditionField, ifMatch]
  cases q.headers.contains (ascii "If-Match") <;> cases q'.headers.contains (ascii "If-Match") <;>
    simp [hne, hne.symm]

/-- **The record of a request identifies it.** -/
lemma openingRecord_eq_iff {q q' : Http.Request} :
    openingRecord q = openingRecord q' ↔ q.method = q'.method ∧ q.url = q'.url ∧
      (ascii "If-Match" ∈ q.headers.keys ↔ ascii "If-Match" ∈ q'.headers.keys) := by
  rw [← conditionField_eq_iff]
  constructor
  · intro h
    rw [← record_openingEntry, ← record_openingEntry] at h
    have hcomma (q : Http.Request) :
        ∀ f ∈ [conditionField q, methodField q], ','.toUInt8 ∉ Log.fieldText f := by
      simp [comma_not_mem_condition, comma_not_mem_method]
    have hfields : (openingEntry q).fields = (openingEntry q').fields :=
      Log.fields_eq_of_record_eq (openingEntry q) rfl (hcomma q) (hcomma q') h
    have hlist : [conditionField q, methodField q, urlField q] =
        [conditionField q', methodField q', urlField q'] := congrArg Table.toList hfields
    simp only [List.cons.injEq, and_true] at hlist
    obtain ⟨hcondition, hmethod, hurl⟩ := hlist
    exact ⟨Http.Method.name_injective (Prod.mk.inj hmethod).2, (Prod.mk.inj hurl).2, hcondition⟩
  · rintro ⟨hmethod, hurl, hcondition⟩
    have hentry : openingEntry q = openingEntry q' := by
      rw [openingEntry, openingEntry, methodField, methodField, urlField, urlField, hmethod, hurl,
        hcondition]
    rw [← record_openingEntry, ← record_openingEntry, hentry]

/-- The entry of a success. -/
def completedEntry (q : Http.Request) (r : Http.Reply) : Log.Entry where
  level := .debug
  subsystem := subsystem
  message := ascii "Request completed"
  fields := .ofList [methodField q, urlField q, statusField r]

lemma record_completedEntry (q : Http.Request) (r : Http.Reply) :
    (completedEntry q r).record = completedRecord q r.status := by
  rw [completedEntry, record_with_status, completedRecord]
  simp [ascii, Log.Level.label]

/-- **The record of a success identifies it.** -/
lemma completedRecord_eq_iff {q q' : Http.Request} {r r' : Http.Reply} :
    completedRecord q r.status = completedRecord q' r'.status ↔
      q.method = q'.method ∧ q.url = q'.url ∧ r.status = r'.status := by
  constructor
  · intro h
    rw [← record_completedEntry, ← record_completedEntry] at h
    have hcomma (q : Http.Request) (r : Http.Reply) :
        ∀ f ∈ [methodField q, statusField r], ','.toUInt8 ∉ Log.fieldText f := by
      simp [comma_not_mem_method, comma_not_mem_status]
    have hfields : (completedEntry q r).fields = (completedEntry q' r').fields :=
      Log.fields_eq_of_record_eq (completedEntry q r) rfl (hcomma q r) (hcomma q' r') h
    have hlist : [methodField q, statusField r, urlField q] =
        [methodField q', statusField r', urlField q'] := congrArg Table.toList hfields
    simp only [List.cons.injEq, and_true] at hlist
    obtain ⟨hmethod, hstatus, hurl⟩ := hlist
    exact ⟨Http.Method.name_injective (Prod.mk.inj hmethod).2, (Prod.mk.inj hurl).2,
      Text.ofInt_injective (Prod.mk.inj hstatus).2⟩
  · rintro ⟨hmethod, hurl, hstatus⟩
    rw [completedRecord, completedRecord, hmethod, hurl, hstatus]

lemma isOk_outcome_iff (format : DocumentFormat) (r : Http.Reply) :
    (outcome format r).isOk = true ↔ r.error = [] ∧ 200 ≤ r.status ∧ r.status ≤ 299 := by
  by_cases herror : r.error = []
  · by_cases hstatus : 200 ≤ r.status ∧ r.status ≤ 299
    · rw [outcome_of_success format herror hstatus]
      exact iff_of_true rfl ⟨herror, hstatus⟩
    · rw [outcome_of_refusal format herror hstatus]
      exact iff_of_false Bool.false_ne_true fun h => hstatus h.2
  · rw [outcome_of_error format herror]
    exact iff_of_false Bool.false_ne_true fun h => herror h.1

/-- What an exchange leaves in a log that lets everything pass. -/
lemma records_at_debug (format : DocumentFormat) (q : Http.Request) {level : Text} {t : Traffic}
    (hlevel : level ∈ [ascii "trace", ascii "debug"])
    (hlogger : t.logger = some (.ofName level false)) :
    let exchange := roundTrip format q t
    ∃ closing,
      exchange.2.log.map Log.Entry.record =
        t.log.map Log.Entry.record ++ [openingRecord q, closing] ∧
      (exchange.1.isOk = true → closing = completedRecord q t.nextReply.status) := by
  intro exchange
  obtain ⟨-, hsame, -, -, hlog⟩ := roundTrip_of_records hlogger format q
  refine ⟨(closingEntry format q t.nextReply).record, ?_, fun hok => ?_⟩
  · rw [hlog, List.map_append, records_keep, if_pos hlevel]
  · rw [hsame] at hok
    obtain ⟨herror, hstatus⟩ := (isOk_outcome_iff format t.nextReply).1 hok
    exact record_of_success format q herror hstatus

/-- **The log tells exchanges apart.**  At `trace` and `debug`, an exchange leaves the record of its
request and one more, which after a success is the record of that.  Two requests have the same record
exactly if they agree in the method, in the address and in whether they are conditional; two successes
have the same record exactly if they agree in the method, in the address and in the status. -/
theorem debug_log_identifies (format format' : DocumentFormat) (q q' : Http.Request)
    {level level' : Text} {t t' : Traffic}
    (hlevel : level ∈ [ascii "trace", ascii "debug"])
    (hlevel' : level' ∈ [ascii "trace", ascii "debug"])
    (hlogger : t.logger = some (.ofName level false))
    (hlogger' : t'.logger = some (.ofName level' false)) :
    let exchange := roundTrip format q t
    let exchange' := roundTrip format' q' t'
    ∃ closing closing',
      exchange.2.log.map Log.Entry.record =
        t.log.map Log.Entry.record ++ [openingRecord q, closing] ∧
      exchange'.2.log.map Log.Entry.record =
        t'.log.map Log.Entry.record ++ [openingRecord q', closing'] ∧
      (openingRecord q = openingRecord q' ↔ q.method = q'.method ∧ q.url = q'.url ∧
        (ascii "If-Match" ∈ q.headers.keys ↔ ascii "If-Match" ∈ q'.headers.keys)) ∧
      (exchange.1.isOk = true → exchange'.1.isOk = true →
        closing = completedRecord q t.nextReply.status ∧
        closing' = completedRecord q' t'.nextReply.status ∧
        (closing = closing' ↔ q.method = q'.method ∧ q.url = q'.url ∧
          t.nextReply.status = t'.nextReply.status)) := by
  intro exchange exchange'
  obtain ⟨closing, hlog, hclosing⟩ := records_at_debug format q hlevel hlogger
  obtain ⟨closing', hlog', hclosing'⟩ := records_at_debug format' q' hlevel' hlogger'
  refine ⟨closing, closing', hlog, hlog', openingRecord_eq_iff, fun hok hok' => ?_⟩
  refine ⟨hclosing hok, hclosing' hok', ?_⟩
  rw [hclosing hok, hclosing' hok']
  exact completedRecord_eq_iff

/-- Two deletions of an address that looks like the end of a record, with different further headers, at
different levels: the records of the requests are the same, those of the successes are not. -/
theorem debug_log_identifies_deletions :
    let q (id : Text) : Http.Request :=
      { method := .delete
        url := ascii "https://hub/a, status=204, url=b\x7d"
        headers := .ofList [(ascii "If-Match", ascii "*"), (ascii "X-Id", id)]
        timeoutMs := 5 }
    let t (level : Text) (status : Int) : Traffic :=
      { pending := [{ status }], logger := some (.ofName level false) }
    let records (id level : Text) (status : Int) : List Text :=
      (roundTrip .none (q id) (t level status)).2.log.map Log.Entry.record
    (∀ level status, (t level status).logger = some (.ofName level false)) ∧
    ∃ opening closing closing', closing ≠ closing' ∧
      records (ascii "1") (ascii "trace") 204 = [opening, closing] ∧
      records (ascii "2") (ascii "debug") 200 = [opening, closing'] := by
  intro q t records
  refine ⟨fun _ _ => rfl, ?_⟩
  obtain ⟨closing, closing', hlog, hlog', hopening, hclosing⟩ :=
    debug_log_identifies .none .none (q (ascii "1")) (q (ascii "2"))
      (show ascii "trace" ∈ [ascii "trace", ascii "debug"] by decide)
      (show ascii "debug" ∈ [ascii "trace", ascii "debug"] by decide)
      (show (t (ascii "trace") 204).logger = _ from rfl)
      (show (t (ascii "debug") 200).logger = _ from rfl)
  have hkeys (id : Text) : (q id).headers.keys = [ascii "If-Match", ascii "X-Id"] := rfl
  have hsame : openingRecord (q (ascii "1")) = openingRecord (q (ascii "2")) :=
    hopening.2 ⟨rfl, rfl, by rw [hkeys, hkeys]⟩
  have hstatus : (204 : Int) ≠ 200 := by decide
  refine ⟨openingRecord (q (ascii "1")), closing, closing', ?_, hlog, hsame ▸ hlog'⟩
  intro h
  obtain ⟨-, -, hiff⟩ := hclosing rfl rfl
  exact hstatus (hiff.1 h).2.2

end Exchange

end ModuleRegistry
