import ModuleRegistry.Proofs.Errors

/-!
# Blank identifiers

A device and an operation on a module need an identifier that is more than blanks.  The check comes
first, before a document is written or a request is composed, so an identifier of blanks costs
nothing: no request, no reply, no entry in the log, no count.  Nothing else fails that check, neither
a NUL byte nor a byte beyond the ASCII range, and an identifier that passes it is taken as it stands.

`Text.OnlyBlanks` says what a blank identifier is, by its bytes.  That an operation with any other
identifier does not fail with an empty argument is read off what its one exchange amounts to
(`kind_of_settle`).  Such an operation sends its request, unless the log cannot take the entry that
announces it.

Main statement: `Session.blank_identifiers_fail_first`.
-/

namespace ModuleRegistry

open Text (ascii)

/-- A text of nothing but spaces, tabs, carriage returns, line feeds, form feeds and vertical tabs. -/
def Text.OnlyBlanks (s : Text) : Prop :=
  ∀ b ∈ s, b = 0x20 ∨ b = 0x09 ∨ b = 0x0D ∨ b = 0x0A ∨ b = 0x0C ∨ b = 0x0B

lemma Text.isBlank_iff {s : Text} : isBlank s = true ↔ s.OnlyBlanks := by
  simp [isBlank, OnlyBlanks, isBlankByte, blanks]

lemma Text.isBlank_eq_false_iff {s : Text} : isBlank s = false ↔ ¬s.OnlyBlanks := by
  rw [← isBlank_iff, Bool.not_eq_true]

/-! ## Blank identifiers -/

namespace Device

variable {α : Type} {moduleId : Text}

lemma onModule_of_blank (h : Text.isBlank moduleId = true) (call : Call α) :
    onModule moduleId call = .done (.error (.hub (.emptyArgument (ascii "module_id")))) := by
  rw [onModule, HubError.requireArgument_blank _ h]

lemma make_of_blank {id : Text} (h : Text.isBlank id = true) (c : Client) :
    make c id = .error (.emptyArgument (ascii "device_id")) := by
  simp [make, h]

end Device

/-! ## Identifiers that are there -/

lemma Exchange.kind_of_outcome {format : DocumentFormat} {r : Http.Reply} {e : HubError}
    (h : outcome format r = .error e) : e.kind ≠ .argumentEmpty := by
  rw [outcome] at h
  split at h
  · cases h
    rintro ⟨⟩
  · split at h
    · cases h
      rintro ⟨⟩
    · cases h

lemma Exchange.kind_of_roundTrip {format : DocumentFormat} {q : Http.Request} {t : Traffic}
    {e : HubError} (h : (roundTrip format q t).1 = .error (.hub e)) : e.kind ≠ .argumentEmpty := by
  rcases roundTrip_cases format q t with ⟨reason, h'⟩ | ⟨-, -, h'⟩
  · rw [h'] at h
    cases h
  · rw [h'] at h
    cases houtcome : outcome format t.nextReply with
    | ok body =>
      rw [houtcome] at h
      cases h
    | error e' =>
      rw [houtcome] at h
      obtain rfl : e' = e := Call.Failure.hub.inj (Except.error.inj h)
      exact kind_of_outcome houtcome

namespace Device

lemma kind_missing {moduleId : Text} {e : HubError} (h : e.kind ≠ .argumentEmpty) :
    (missing moduleId e).kind ≠ .argumentEmpty := by
  rw [missing]
  split
  · rintro ⟨⟩
  · exact h

namespace Operation

lemma kind_judge {op : Operation} {e : HubError} (h : e.kind ≠ .argumentEmpty) :
    (op.judge e).kind ≠ .argumentEmpty := by
  cases op with
  | get moduleId => exact kind_missing h
  | list => exact h
  | delete moduleId => exact h

/-- All that can be wrong with a body is that there is no document in it, or that it cannot be read. -/
lemma kind_of_settle_ok {format : DocumentFormat} {op : Operation} {body : Text} {e : HubError}
    (h : op.settle format (.ok body) = .error (.hub e)) : e.kind ≠ .argumentEmpty := by
  cases op with
  | get moduleId =>
    cases hdocument : Decoder.document format.readIdentity body with
    | error e' =>
      obtain ⟨reason, rfl⟩ := Decoder.onlyUnreadable_document _ body e' hdocument
      simp only [settle, Except.bind, hdocument, Call.Failure.mapError_error] at h
      cases h
      exact kind_missing (by rintro ⟨⟩)
    | ok document =>
      cases document <;>
        simp only [settle, Except.bind, hdocument, Call.Failure.mapError_ok] at h <;> cases h
      rintro ⟨⟩
  | list =>
    cases hdocument : Decoder.document format.readIdentities body with
    | error e' =>
      obtain ⟨reason, rfl⟩ := Decoder.onlyUnreadable_document _ body e' hdocument
      simp only [settle, Except.bind, hdocument, Call.Failure.mapError_error] at h
      cases h
      rintro ⟨⟩
    | ok document =>
      cases document <;>
        simp only [settle, Except.bind, hdocument, Call.Failure.mapError_ok] at h <;> cases h
      rintro ⟨⟩
  | delete moduleId => cases h

/-- No operation fails with an empty argument because of what its exchange brings. -/
lemma kind_of_settle {format : DocumentFormat} {op : Operation} {q : Http.Request} {t : Traffic}
    {e : HubError}
    (h : op.settle format (Exchange.roundTrip format q t).1 = .error (.hub e)) :
    e.kind ≠ .argumentEmpty := by
  rcases hfetched : (Exchange.roundTrip format q t).1 with (e' | reason) | body
  · rw [hfetched, settle_hub] at h
    cases h
    exact kind_judge (Exchange.kind_of_roundTrip hfetched)
  · rw [hfetched, settle_unlogged] at h
    cases h
  · rw [hfetched] at h
    exact kind_of_settle_ok h

end Operation

end Device

namespace Session

variable {s : Session} {format : DocumentFormat} {t : Traffic} {i : Nat} {d : Device} {c : Client}

lemma withClient_of_some (hc : s.clients[i]? = some c) (go : Client → Effect) :
    s.withClient t i go = go c := by
  rw [withClient, hc]

lemma withDevice_of_some (hd : s.devices[i]? = some d) (go : Device → Effect) :
    s.withDevice t i go = go d := by
  rw [withDevice, hd]

/-! ### Steps with a blank identifier -/

/-- A call for a module whose identifier is blank fails and leaves everything as it was. -/
lemma call_onModule_of_blank {α : Type} {moduleId : Text} (hblank : Text.isBlank moduleId = true)
    (call : Call α) (f : α → Answer) :
    Effect.call s t (Device.onModule moduleId call) f =
      .fail s t (.hub (.emptyArgument (ascii "module_id"))) := by
  rw [Device.onModule_of_blank hblank]
  rfl

/-- The steps that create, update, look up or delete a module. -/
def Step.onModule (i : Nat) (moduleId : Text) (authentication : Option AuthMechanism) : List Step :=
  [.create i moduleId authentication, .update i moduleId authentication, .get i moduleId,
    .delete i moduleId]

lemma perform_onModule_of_blank (hd : s.devices[i]? = some d) {moduleId : Text}
    (hblank : Text.isBlank moduleId = true) {authentication : Option AuthMechanism} {step : Step}
    (hstep : step ∈ Step.onModule i moduleId authentication) :
    s.perform format t step = .fail s t (.hub (.emptyArgument (ascii "module_id"))) := by
  simp only [Step.onModule, List.mem_cons, List.not_mem_nil, or_false] at hstep
  rcases hstep with rfl | rfl | rfl | rfl
  all_goals exact (withDevice_of_some hd _).trans (call_onModule_of_blank hblank _ _)

lemma perform_device_of_blank (hc : s.clients[i]? = some c) {id : Text}
    (hblank : Text.isBlank id = true) :
    s.perform format t (.device i id) =
      .fail s t (.hub (.emptyArgument (ascii "device_id"))) := by
  rw [perform, withClient_of_some hc, Device.make_of_blank hblank]

/-! ### Steps with an identifier -/

lemma perform_device_of_present (hc : s.clients[i]? = some c) {id : Text}
    (hpresent : Text.isBlank id = false) :
    s.perform format t (.device i id) =
      .answer { s with devices := s.devices ++ [⟨c, id⟩] } t (.text id) := by
  have hmake : Device.make c id = .ok ⟨c, id⟩ := Device.make_eq_ok_iff.2 ⟨hpresent, rfl⟩
  rw [perform, withClient_of_some hc, hmake]

/-- The step that performs an operation with a device. -/
def Step.ofOperation (i : Nat) : Device.Operation → Step
  | .get moduleId => .get i moduleId
  | .list => .list i
  | .delete moduleId => .delete i moduleId

lemma perform_ofOperation (hd : s.devices[i]? = some d) (op : Device.Operation) :
    s.perform format t (.ofOperation i op) =
      ⟨(op.call d format t).1.mapError .ofCall, s, (op.call d format t).2⟩ := by
  cases op <;> exact withDevice_of_some hd _

section Named

variable {op : Device.Operation}

/-- An operation on a module that has an identifier never fails with an empty argument. -/
lemma kind_of_named (hd : s.devices[i]? = some d) (hop : op.Named) {e : HubError}
    (he : (s.perform format t (.ofOperation i op)).outcome = .error (.hub e)) :
    e.kind ≠ .argumentEmpty := by
  rw [perform_ofOperation hd, Device.Operation.call_apply d format t hop] at he
  rcases hsettle : op.settle format (Exchange.roundTrip format (op.request d) t).1 with
    (e' | reason) | answer
  · rw [hsettle] at he
    cases he
    exact Device.Operation.kind_of_settle hsettle
  · rw [hsettle] at he
    cases he
  · rw [hsettle] at he
    cases he

/-- An operation on a module that has an identifier sends one request, if the log lets it. -/
lemma sent_of_named (hd : s.devices[i]? = some d) (hop : op.Named)
    (hopens : t.Opens format (op.request d)) :
    (s.perform format t (.ofOperation i op)).traffic.sent = t.sent ++ [op.request d] := by
  rw [perform_ofOperation hd, Device.Operation.sent_call hop, if_pos hopens]

lemma perform_of_fault? (hd : s.devices[i]? = some d) (hop : op.Named) {reason : Text}
    (h : t.fault? format (Exchange.openingEntry (op.request d)) = some reason) :
    s.perform format t (.ofOperation i op) = ⟨.error (.unlogged reason), s, t⟩ := by
  rw [perform_ofOperation hd, Device.Operation.call_apply d format t hop,
    Exchange.roundTrip_of_fault? h, Device.Operation.settle_unlogged]
  rfl

end Named

end Session

end ModuleRegistry
