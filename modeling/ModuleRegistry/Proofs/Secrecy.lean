import ModuleRegistry.Proofs.Runs

/-!
# Secrecy of the keys

The values of `--primary-key` and `--secondary-key` are secrets.  A key goes into the document of a
creation or an update, and nowhere else: a run that sends no document is the same whichever keys it
was given.

`DifferInKeys` relates arguments that are the same but for the values of keys, whatever these look
like.  Keys do not steer the reader, so such arguments read as the same groups once the keys are
blotted out (`DifferInKeys.exists_reads`), and hence give the same options up to the keys
(`ofGroups_of_map_redacted`).  A job that sends no document looks at the other options only
(`Job.run_keys`).

Main statement: `keys_stay_secret`.
-/

namespace ModuleRegistry.CommandLine

open Text (ascii)

/-! ## Arguments up to keys -/

/-- An option whose value is a secret. -/
def ValueOption.IsKey (o : ValueOption) : Prop := o = .primaryKey ∨ o = .secondaryKey

/-- Arguments that are, read from left to right, the same but for the values of keys.  What follows
a token that ends the reading is the same: no token there is the value of a key. -/
inductive DifferInKeys : List Text → List Text → Prop
  | finished : DifferInKeys [] []
  | ended {token : Text} {rest : List Text} {e : Terminal} (h : Ends token rest e) :
      DifferInKeys (token :: rest) (token :: rest)
  | group {g : Group} {rest rest' : List Text} (hg : g.IsWritable) (h : DifferInKeys rest rest') :
      DifferInKeys (g.tokens ++ rest) (g.tokens ++ rest')
  | key {o : ValueOption} {rest rest' : List Text} (ho : o.IsKey) (v v' : Text)
      (h : DifferInKeys rest rest') : DifferInKeys (o.token :: v :: rest) (o.token :: v' :: rest')

/-- A group with an empty key in the place of any other. -/
def Group.redacted : Group → Group
  | value .primaryKey _ => value .primaryKey []
  | value .secondaryKey _ => value .secondaryKey []
  | g => g

lemma Group.redacted_key {o : ValueOption} (ho : o.IsKey) (v v' : Text) :
    (value o v).redacted = (value o v').redacted := by
  rcases ho with rfl | rfl <;> rfl

/-- **Keys do not steer the reader.** -/
theorem DifferInKeys.exists_reads {args args' : List Text} (h : DifferInKeys args args') :
    ∃ gs gs' e, Reads args gs e ∧ Reads args' gs' e ∧
      gs.map Group.redacted = gs'.map Group.redacted := by
  induction h with
  | finished => exact ⟨[], [], none, .finished, .finished, rfl⟩
  | @ended token rest e hends => exact ⟨[], [], some e, .ended hends, .ended hends, rfl⟩
  | @group g rest rest' hg _ ih =>
    obtain ⟨gs, gs', e, hreads, hreads', hsame⟩ := ih
    exact ⟨g :: gs, g :: gs', e, .group hg hreads, .group hg hreads',
      congrArg (g.redacted :: ·) hsame⟩
  | @key o rest rest' ho v v' _ ih =>
    obtain ⟨gs, gs', e, hreads, hreads', hsame⟩ := ih
    refine ⟨.value o v :: gs, .value o v' :: gs', e, .group (g := .value o v) trivial hreads,
      .group (g := .value o v') trivial hreads', ?_⟩
    rw [List.map_cons, List.map_cons, Group.redacted_key ho v v', hsame]

/-! ## Options up to keys -/

lemma Group.operand?_redacted (g : Group) : g.redacted.operand? = g.operand? := by
  cases g with
  | value o v => cases o <;> rfl
  | verbose => rfl
  | operand token => rfl

lemma Group.value?_redacted {o : ValueOption} (ho : ¬o.IsKey) (g : Group) :
    g.redacted.value? o = g.value? o := by
  cases g with
  | value o' v =>
    have hne (h : o'.IsKey) : o' ≠ o := by
      rintro rfl
      exact ho h
    cases o' with
    | primaryKey => simp [redacted, value?, hne (.inl rfl)]
    | secondaryKey => simp [redacted, value?, hne (.inr rfl)]
    | config => rfl
    | device => rfl
  | verbose => rfl
  | operand token => rfl

lemma Group.redacted_eq_verbose {g : Group} : g.redacted = .verbose ↔ g = .verbose := by
  cases g with
  | value o v => cases o <;> simp [redacted]
  | verbose => simp [redacted]
  | operand token => simp [redacted]

lemma operands_map_redacted (gs : List Group) : operands (gs.map Group.redacted) = operands gs := by
  rw [operands, List.filterMap_map, operands]
  exact congrArg (List.filterMap · gs) (funext Group.operand?_redacted)

lemma lastValue_map_redacted {o : ValueOption} (ho : ¬o.IsKey) (gs : List Group) :
    lastValue o (gs.map Group.redacted) = lastValue o gs := by
  rw [lastValue, values, List.filterMap_map, lastValue, values]
  exact congrArg (fun f => (List.filterMap f gs).getLast?) (funext (Group.value?_redacted ho))

lemma verbose_mem_map_redacted {gs : List Group} :
    .verbose ∈ gs.map Group.redacted ↔ .verbose ∈ gs := by
  simp [Group.redacted_eq_verbose]

/-- Groups that are the same but for keys give the same options but for keys. -/
lemma ofGroups_of_map_redacted {gs gs' : List Group}
    (h : gs.map Group.redacted = gs'.map Group.redacted) :
    Options.ofGroups gs' =
      { Options.ofGroups gs with
        primaryKey := (Options.ofGroups gs').primaryKey
        secondaryKey := (Options.ofGroups gs').secondaryKey } := by
  have hvalue {o : ValueOption} (ho : ¬o.IsKey) : lastValue o gs' = lastValue o gs := by
    rw [← lastValue_map_redacted ho, ← h, lastValue_map_redacted ho]
  have hoperands : operands gs' = operands gs := by
    rw [← operands_map_redacted, ← h, operands_map_redacted]
  have hverbose : Group.verbose ∈ gs' ↔ Group.verbose ∈ gs := by
    rw [← verbose_mem_map_redacted, ← h, verbose_mem_map_redacted]
  have hconfig : ¬ValueOption.config.IsKey := by rintro (h | h) <;> cases h
  have hdevice : ¬ValueOption.device.IsKey := by rintro (h | h) <;> cases h
  simp only [ofGroups_eq, hvalue hconfig, hvalue hdevice, hoperands, hverbose]

/-! ## Jobs up to keys -/

/-- A command that sends a document: a creation or an update, unless it lacks the identifier. -/
def Command.SendsDocument (command : Command) : Prop :=
  (command.action = .create ∨ command.action = .update) ∧ Text.isBlank command.moduleId = false

section Jobs

variable (program : Text) (format : DocumentFormat) (load : Text → Config.Loaded)
  (environment : Config.Environment) (replies : List Http.Reply)

/-- Only what sends a document looks at the keys. -/
lemma Job.call_keys (o : Options) (primary secondary : Text) {command : Command}
    (h : ¬command.SendsDocument) :
    Job.call ⟨{ o with primaryKey := primary, secondaryKey := secondary }, command⟩ format =
      Job.call ⟨o, command⟩ format := by
  funext d t
  by_cases hstores : command.action = .create ∨ command.action = .update
  · have hblank : Text.isBlank command.moduleId = true := by
      by_contra hblank
      exact h ⟨hstores, Bool.eq_false_iff.2 hblank⟩
    have hmodule : command.action ≠ .list := by
      rintro hlist
      simp [hlist] at hstores
    rw [call_of_blank hmodule hblank, call_of_blank hmodule hblank]
  · obtain ⟨action, moduleId⟩ := command
    cases action with
    | create => exact absurd (.inl rfl) hstores
    | update => exact absurd (.inr rfl) hstores
    | _ => rfl

/-- **A job that sends no document does not look at the keys.** -/
lemma Job.run_keys (o : Options) (primary secondary : Text) {command : Command}
    (h : ¬command.SendsDocument) :
    Job.run ⟨{ o with primaryKey := primary, secondaryKey := secondary }, command⟩ format load
        environment replies =
      Job.run ⟨o, command⟩ format load environment replies := by
  have hattempt (c : Config) :
      Job.attempt ⟨{ o with primaryKey := primary, secondaryKey := secondary }, command⟩ format c =
        Job.attempt ⟨o, command⟩ format c := by
    funext t
    simp only [Job.attempt, Job.call_keys format o primary secondary h]
  simp only [Job.run, hattempt]
  rfl

/-- **The keys stay secret.**  Take arguments that differ in the values of `--primary-key` and
`--secondary-key` only, and suppose that they do not ask for a creation or an update with an
identifier.  Then the two runs are the same in all: the exit code, what is written to standard output
and, with every entry of the log, to standard error, the requests sent and the setup of the
transport. -/
theorem keys_stay_secret {args args' : List Text} (h : DifferInKeys args args')
    (hsends : ∀ gs command, Reads args gs none → Asks (operands gs) command →
      ¬command.SendsDocument) :
    run program format load environment replies args =
      run program format load environment replies args' := by
  obtain ⟨gs, gs', e, hreads, hreads', hsame⟩ := h.exists_reads
  cases e with
  | some e =>
    rw [run_of_reads_some program format load environment replies hreads,
      run_of_reads_some program format load environment replies hreads']
  | none =>
    have hoptions := ofGroups_of_map_redacted hsame
    have hoperands : operands gs' = operands gs := by
      rw [← operands_map_redacted, ← hsame, operands_map_redacted]
    rw [run_of_reads_none program format load environment replies hreads,
      run_of_reads_none program format load environment replies hreads', hoperands]
    cases hcommand : Command.ofOperands (operands gs) with
    | error _ => rfl
    | ok command =>
      have hquiet : ¬command.SendsDocument := hsends gs command hreads (asks_iff.2 hcommand)
      show Job.run ⟨Options.ofGroups gs, command⟩ format load environment replies =
        Job.run ⟨Options.ofGroups gs', command⟩ format load environment replies
      rw [hoptions]
      exact (Job.run_keys format load environment replies _ _ _ hquiet).symm

end Jobs

/-- A listing with a key that looks like an option, and the same with no key at all. -/
theorem keys_stay_secret_option_like :
    let program := ascii "modules"
    let args := [ascii "--primary-key", ascii "--help", ascii "list", ascii "--secondary-key", [],
      ascii "--device", ascii "edge"]
    let args' := [ascii "--primary-key", [], ascii "list", ascii "--secondary-key",
      ascii "--device", ascii "--device", ascii "edge"]
    let load : Text → Config.Loaded := fun _ => ⟨.ok { apiVersion := ascii "v" }, []⟩
    DifferInKeys args args' ∧
    run program .none load {} [{ error := ascii "down" }] args =
      run program .none load {} [{ error := ascii "down" }] args' ∧
    (run program .none load {} [{ error := ascii "down" }] args').exit = 1 := by
  intro program args args' load
  have hdiffer : DifferInKeys args args' :=
    .key (.inl rfl) _ _ <| .group (g := .operand (ascii "list")) (by decide) <|
      .key (.inr rfl) _ _ <| .group (g := .value .device (ascii "edge")) trivial .finished
  have hreads : Reads args [.value .primaryKey (ascii "--help"), .operand (ascii "list"),
      .value .secondaryKey [], .value .device (ascii "edge")] none :=
    reads_iff.2 (by decide)
  have hsends : ∀ gs command, Reads args gs none → Asks (operands gs) command →
      ¬command.SendsDocument := by
    intro gs command h hasks
    obtain rfl := (reads_unique hreads h).1
    obtain rfl := asks_unique (.list []) hasks
    rintro ⟨h | h, -⟩ <;> cases h
  exact ⟨hdiffer, keys_stay_secret program .none load {} _ hdiffer hsends, rfl⟩

end ModuleRegistry.CommandLine
