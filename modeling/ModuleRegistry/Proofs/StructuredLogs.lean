import ModuleRegistry.Proofs.Exchanges

/-!
# What a structured log can hold

A structured log holds documents, and a document holds text in UTF-8 and not any bytes.  What an
exchange says about itself is ASCII but for what comes from outside: the address, as far as the caller
gave it, and the words in which a transport or a hub explains a failure.  Identifiers, versions and
parameters are percent-encoded in an address and do no harm there.

`Traffic.Holds` says of some texts that they can stand in the log: because it is plain or there is
none, or because they are UTF-8 and documents of UTF-8 can be written.  Where the log holds the texts
that come from outside, it lets an exchange begin (`opens_of_holds`) and takes it whole
(`closes_of_holds`).
-/

namespace ModuleRegistry

open Text (ascii)

/-! ## ASCII -/

namespace Text

lemma isDigit_of_mem_ofNat {n : Nat} {b : UInt8} (hb : b ∈ ofNat n) : 0x30 ≤ b ∧ b ≤ 0x39 := by
  obtain ⟨c, hc, rfl⟩ := List.mem_map.1 hb
  have hdigit : c.isDigit = true := Nat.isDigit_of_mem_toDigits (by omega) (by omega) hc
  simp only [Char.isDigit, Bool.and_eq_true, decide_eq_true_eq, ge_iff_le,
    UInt32.le_iff_toNat_le] at hdigit
  have hzero : '0'.val.toNat = 48 := rfl
  have hnine : '9'.val.toNat = 57 := rfl
  simp only [UInt8.le_iff_toNat_le, Char.toUInt8, UInt32.toNat_toUInt8, UInt8.reduceToNat]
  omega

/-- A numeral holds nothing but digits and a minus sign. -/
lemma not_mem_ofInt {b : UInt8} (hdigit : ¬(0x30 ≤ b ∧ b ≤ 0x39)) (hminus : b ≠ '-'.toUInt8)
    (n : Int) : b ∉ ofInt n := by
  have hnat (m : Nat) : b ∉ ofNat m := fun h => hdigit (isDigit_of_mem_ofNat h)
  cases n with
  | ofNat m => exact hnat m
  | negSucc m => simp [ofInt, hnat, hminus]

lemma isAscii_ofInt (n : Int) : isAscii (ofInt n) = true := by
  refine List.all_eq_true.2 fun b hb => ?_
  by_cases hminus : b = '-'.toUInt8
  · subst hminus
    decide
  · have hdigit : 0x30 ≤ b ∧ b ≤ 0x39 := by
      by_cases h : 0x30 ≤ b ∧ b ≤ 0x39
      · exact h
      · exact absurd hb (not_mem_ofInt h hminus n)
    exact decide_eq_true (UInt8.le_trans hdigit.2 (by decide))

lemma isAscii_encode (s : Text) : isAscii (Percent.encode s) = true := by
  have hdigit (n : UInt8) (hn : n < 16) : Percent.hexDigit n ≤ 0x7F := by
    have key : ∀ i : Fin 16, Percent.hexDigit (UInt8.ofNat i) ≤ 0x7F := by decide
    simpa using key ⟨n.toNat, UInt8.lt_iff_toNat_lt.1 hn⟩
  induction s with
  | nil => rfl
  | cons b s ih =>
    have hbyte : isAscii (Percent.encodeByte b) = true := by
      rw [Percent.encodeByte]
      split
      · next h =>
        have hle : b ≤ 0x7F := by
          simp only [Percent.isUnreserved, Bool.or_eq_true, Bool.and_eq_true, decide_eq_true_eq,
            beq_iff_eq, UInt8.le_iff_toNat_le, ← UInt8.toNat_inj, UInt8.reduceToNat] at h
          simp only [UInt8.le_iff_toNat_le, UInt8.reduceToNat]
          omega
        simpa [isAscii] using hle
      · simp [isAscii, Percent.escape, hdigit _ (Percent.div_lt b), hdigit _ (Percent.mod_lt b)]
    rw [Percent.encode_cons, isAscii_append, hbyte, ih, Bool.and_true]

end Text

open Text (isAscii isUtf8 isUtf8_append isUtf8_of_isAscii)

/-- The message of a refusal that explains nothing is shown whole. -/
lemma HubError.shown_refused (status : Int) :
    (refused status none).shown = ascii "Hub returned status " ++ Text.ofInt status := by
  have hnul : 0 ∉ ascii "Hub returned status " ++ Text.ofInt status := by
    rw [List.mem_append, not_or]
    exact ⟨by decide, Text.not_mem_ofInt (by decide) (by decide) status⟩
  have hmessage : (refused status none).message = ascii "Hub returned status " ++ Text.ofInt status :=
    List.append_nil _
  rw [shown, hmessage, Text.untilNul, Text.before_eq_self hnul]

/-! ## Addresses -/

/-- An address is ASCII but for the base address and the path that the caller gave. -/
lemma Client.isUtf8_url (c : Client) {path : Text} (parameters : Table Text)
    (hbase : isUtf8 c.baseUrl.text = true) (hpath : isUtf8 path = true) :
    isUtf8 (c.url path parameters) = true := by
  have hrooted : isUtf8 (rooted path) = true := by
    rw [rooted]
    split
    · exact hpath
    · exact isUtf8_append (s := ['/'.toUInt8]) (by decide) hpath
  have hparameters : isAscii (parameters.toList.flatMap parameter) = true := by
    refine List.all_eq_true.2 fun b hb => ?_
    obtain ⟨p, -, hb⟩ := List.mem_flatMap.1 hb
    have hparameter : isAscii (parameter p) = true := by
      rw [parameter, Text.isAscii_append, Text.isAscii_append, Text.isAscii_append,
        Text.isAscii_encode, Text.isAscii_encode]
      decide
    exact List.all_eq_true.1 hparameter b hb
  have hquery : isAscii (c.query parameters) = true := by
    rw [query, Text.isAscii_append, Text.isAscii_append, Text.isAscii_encode, hparameters]
    decide
  exact isUtf8_append (isUtf8_append (isUtf8_append hbase hrooted) (by decide))
    (isUtf8_of_isAscii hquery)

namespace Device

variable (d : Device)

lemma isUtf8_collectionPath : isUtf8 d.collectionPath = true :=
  isUtf8_append (isUtf8_append (by decide) (isUtf8_of_isAscii (Text.isAscii_encode d.id)))
    (by decide)

lemma isUtf8_memberPath (moduleId : Text) : isUtf8 (d.memberPath moduleId) = true :=
  isUtf8_append (isUtf8_append d.isUtf8_collectionPath (by decide))
    (isUtf8_of_isAscii (Text.isAscii_encode moduleId))

end Device

/-! ## Entries -/

namespace Exchange

variable {format : DocumentFormat} {q : Http.Request} {r : Http.Reply}

lemma isAscii_method (m : Http.Method) : isAscii m.name = true := by
  cases m <;> decide

/-- An entry of an exchange is UTF-8 if its message and the values of its fields are. -/
lemma isUtf8_entry {level : Log.Level} {message : Text} {fields : Table Text}
    (hmessage : isUtf8 message = true)
    (hfields : ∀ f ∈ fields.toList, isUtf8 f.1 = true ∧ isUtf8 f.2 = true) :
    ({ level, subsystem, message, fields } : Log.Entry).isUtf8 = true := by
  have hsubsystem : isUtf8 subsystem = true := by decide
  simpa [Log.Entry.isUtf8, hsubsystem, hmessage] using hfields

section Fields

variable (q r)

lemma isUtf8_methodField : isUtf8 (methodField q).1 = true ∧ isUtf8 (methodField q).2 = true :=
  ⟨show isUtf8 (ascii "method") = true by decide, isUtf8_of_isAscii (isAscii_method q.method)⟩

lemma isUtf8_statusField : isUtf8 (statusField r).1 = true ∧ isUtf8 (statusField r).2 = true :=
  ⟨show isUtf8 (ascii "status") = true by decide, isUtf8_of_isAscii (Text.isAscii_ofInt r.status)⟩

lemma isUtf8_conditionField :
    isUtf8 (conditionField q).1 = true ∧ isUtf8 (conditionField q).2 = true := by
  rw [conditionField]
  split <;> decide

lemma isUtf8_urlField (hurl : isUtf8 q.url = true) :
    isUtf8 (urlField q).1 = true ∧ isUtf8 (urlField q).2 = true :=
  ⟨show isUtf8 (ascii "url") = true by decide, hurl⟩

end Fields

lemma isUtf8_openingEntry (hurl : isUtf8 q.url = true) : (openingEntry q).isUtf8 = true := by
  refine isUtf8_entry (by decide) fun f hf => ?_
  have hmem : f ∈ [conditionField q, methodField q, urlField q] := hf
  simp only [List.mem_cons, List.not_mem_nil, or_false] at hmem
  rcases hmem with rfl | rfl | rfl
  · exact isUtf8_conditionField q
  · exact isUtf8_methodField q
  · exact isUtf8_urlField q hurl

lemma isUtf8_closingEntry (hurl : isUtf8 q.url = true) (herror : isUtf8 r.error = true)
    (hrefusal : r.error = [] → ¬(200 ≤ r.status ∧ r.status ≤ 299) →
      isUtf8 (refusal format r).shown = true) :
    (closingEntry format q r).isUtf8 = true := by
  have hmethod := isUtf8_methodField q
  have hstatus := isUtf8_statusField r
  have haddress := isUtf8_urlField q hurl
  rw [closingEntry]
  split
  · refine isUtf8_entry (isUtf8_append (by decide) herror) fun f hf => ?_
    have hmem : f ∈ [methodField q, urlField q] := hf
    simp only [List.mem_cons, List.not_mem_nil, or_false] at hmem
    rcases hmem with rfl | rfl
    · exact hmethod
    · exact haddress
  · have hfields : ∀ f ∈ (Table.ofList [methodField q, urlField q, statusField r]).toList,
        isUtf8 f.1 = true ∧ isUtf8 f.2 = true := by
      intro f hf
      have hmem : f ∈ [methodField q, statusField r, urlField q] := hf
      simp only [List.mem_cons, List.not_mem_nil, or_false] at hmem
      rcases hmem with rfl | rfl | rfl
      · exact hmethod
      · exact hstatus
      · exact haddress
    split
    · rename_i hunbroken hfailed
      have hnone : r.error = [] := by simpa using hunbroken
      have hrange : ¬(200 ≤ r.status ∧ r.status ≤ 299) := by
        rw [← Http.isSuccess_iff]
        simpa using hfailed
      exact isUtf8_entry (hrefusal hnone hrange) hfields
    · exact isUtf8_entry (by decide) hfields

/-- A refusal that explains nothing is told in ASCII. -/
lemma isUtf8_shown_refused (status : Int) :
    isUtf8 (HubError.refused status none).shown = true := by
  rw [HubError.shown_refused]
  exact isUtf8_append (by decide) (isUtf8_of_isAscii (Text.isAscii_ofInt status))

end Exchange

/-! ## Traffic -/

namespace Traffic

/-- Texts can stand in the log: it is plain or there is none, or it holds documents of UTF-8 and the
texts are UTF-8. -/
def Holds (t : Traffic) (format : DocumentFormat) (texts : List Text) : Prop :=
  (∀ l ∈ t.logger, l.structured = false) ∨ format.WritesUtf8 ∧ ∀ s ∈ texts, isUtf8 s = true

variable {t : Traffic} {format : DocumentFormat} {q : Http.Request} {texts : List Text}

lemma Holds.fault? (h : t.Holds format texts) {e : Log.Entry}
    (he : (∀ s ∈ texts, isUtf8 s = true) → e.isUtf8 = true) : t.fault? format e = none := by
  rcases h with hplain | ⟨hformat, htexts⟩
  · exact fault?_of_plain hplain format e
  · cases hl : t.logger with
    | none => simp [Traffic.fault?, hl]
    | some l => simpa [Traffic.fault?, hl] using Log.Logger.fault?_of_isUtf8 hformat (he htexts)

/-- **A log that holds the address lets the exchange begin.** -/
lemma opens_of_holds (h : t.Holds format texts)
    (hurl : (∀ s ∈ texts, isUtf8 s = true) → isUtf8 q.url = true) : t.Opens format q :=
  h.fault? fun htexts => Exchange.isUtf8_openingEntry (hurl htexts)

/-- **A log that holds the address and the words of the reply takes the exchange whole.** -/
lemma closes_of_holds (h : t.Holds format texts)
    (hurl : (∀ s ∈ texts, isUtf8 s = true) → isUtf8 q.url = true)
    (herror : t.nextReply.error ∈ texts)
    (hrefusal : t.nextReply.error = [] →
      ¬(200 ≤ t.nextReply.status ∧ t.nextReply.status ≤ 299) →
      isUtf8 (Exchange.refusal format t.nextReply).shown = true) : t.Closes format q :=
  h.fault? fun htexts =>
    Exchange.isUtf8_closingEntry (hurl htexts) (htexts _ herror) hrefusal

end Traffic

end ModuleRegistry
