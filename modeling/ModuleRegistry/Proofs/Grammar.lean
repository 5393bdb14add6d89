import Mathlib.Data.List.Induction
import Mathlib.Logic.ExistsUnique
import Mathlib.Tactic.Lemma
import ModuleRegistry.CommandLine.Run

/-!
# The grammar of the command line

The arguments are a sequence of groups, which goes on to the end or to a token that decides the run
alone.  `Reads` is this grammar as a relation, said without the reader: which tokens make a group is
`Group.tokens`, and which token ends the reading, depending on whether any follow it, is `Ends`.  The
reader accepts the grammar and nothing else (`reads_iff`), so every list of arguments has one reading.

A run knows little of the groups that it was given.  `values` and `operands` are what they say, and of
these a run looks at the last value of each option, at the first two operands and at whether there is
a `--verbose` (`ofGroups_eq`, `run_congr`).  Where the groups stand otherwise does not matter.

Main statement: `run_insensitive_to_placement`, with the two halves: a run that a token ends knows that
token only, and a run that no token ends knows the above only.
-/

namespace ModuleRegistry.CommandLine

open Text (ascii)

/-! ## The grammar -/

/-- A token at which the reading ends, with the tokens after it.  An option that takes a value does so
as the last token only. -/
inductive Ends : Text → List Text → Terminal → Prop
  | version (rest : List Text) : Ends (ascii "--version") rest .version
  | help (rest : List Text) : Ends (ascii "--help") rest .help
  | incomplete (o : ValueOption) : Ends o.token [] (.unusable o.token)
  | unknown {token : Text} (rest : List Text) (hlike : isOptionLike token = true)
      (hverbose : token ≠ ascii "--verbose") (hversion : token ≠ ascii "--version")
      (hhelp : token ≠ ascii "--help") (hvalue : ∀ o : ValueOption, token ≠ o.token) :
      Ends token rest (.unusable token)

/-- Arguments read, from left to right, as groups and the token that ends them, if one does. -/
inductive Reads : List Text → List Group → Option Terminal → Prop
  | finished : Reads [] [] none
  | ended {token : Text} {rest : List Text} {e : Terminal} (h : Ends token rest e) :
      Reads (token :: rest) [] (some e)
  | group {g : Group} {rest : List Text} {gs : List Group} {e : Option Terminal}
      (hg : g.IsWritable) (h : Reads rest gs e) : Reads (g.tokens ++ rest) (g :: gs) e

/-! ## The reader accepts the grammar -/

lemma ofToken?_eq_none_of_ne {token : Text} (h : ∀ o : ValueOption, token ≠ o.token) :
    ValueOption.ofToken? token = none := by
  cases ht : ValueOption.ofToken? token with
  | none => rfl
  | some o => exact absurd (ValueOption.token_of_ofToken? ht).symm (h o)

lemma ne_token_of_ofToken?_eq_none {token : Text} (h : ValueOption.ofToken? token = none)
    (o : ValueOption) : token ≠ o.token := by
  rintro rfl
  rw [ValueOption.ofToken?_token] at h
  contradiction

lemma single_token (o : ValueOption) : single o.token = .error (.unusable o.token) := by
  cases o <;> rfl

lemma single_of_unknown {token : Text} (hlike : isOptionLike token = true)
    (hverbose : token ≠ ascii "--verbose") (hversion : token ≠ ascii "--version")
    (hhelp : token ≠ ascii "--help") : single token = .error (.unusable token) := by
  rw [single, if_neg hverbose, if_neg hversion, if_neg hhelp, if_pos hlike]

lemma read_of_ends {token : Text} {rest : List Text} {e : Terminal} (h : Ends token rest e) :
    read (token :: rest) = { terminal := some e } := by
  cases h with
  | version => exact read_cons_of_ofToken?_eq_none rfl rest
  | help => exact read_cons_of_ofToken?_eq_none rfl rest
  | incomplete o => rw [read, Reading.consSingle, single_token]
  | unknown _ hlike hverbose hversion hhelp hvalue =>
    rw [read_cons_of_ofToken?_eq_none (ofToken?_eq_none_of_ne hvalue), Reading.consSingle,
      single_of_unknown hlike hverbose hversion hhelp]

lemma read_of_reads {args : List Text} {gs : List Group} {e : Option Terminal}
    (h : Reads args gs e) : read args = ⟨gs, e⟩ := by
  induction h with
  | finished => rfl
  | ended h => exact read_of_ends h
  | group hg _ ih => rw [read_tokens _ hg, ih]; rfl

/-- A token that takes no value is a group, or it ends the reading. -/
lemma reads_consSingle {token : Text} {rest : List Text} {r : Reading}
    (htoken : (∃ o : ValueOption, token = o.token ∧ rest = []) ∨
      ValueOption.ofToken? token = none)
    (h : Reads rest r.groups r.terminal) :
    Reads (token :: rest) (r.consSingle token).groups (r.consSingle token).terminal := by
  rcases htoken with ⟨o, rfl, rfl⟩ | hnone
  · rw [Reading.consSingle, single_token]
    exact .ended (.incomplete o)
  by_cases hverbose : token = ascii "--verbose"
  · subst hverbose
    exact .group (g := .verbose) trivial h
  by_cases hversion : token = ascii "--version"
  · subst hversion
    exact .ended (.version rest)
  by_cases hhelp : token = ascii "--help"
  · subst hhelp
    exact .ended (.help rest)
  cases hlike : isOptionLike token with
  | true =>
    rw [Reading.consSingle, single_of_unknown hlike hverbose hversion hhelp]
    exact .ended (.unknown rest hlike hverbose hversion hhelp (ne_token_of_ofToken?_eq_none hnone))
  | false =>
    rw [Reading.consSingle, single_of_not_isOptionLike hlike]
    exact .group (g := .operand token) hlike h

/-- The recursion is that of the reader: it looks one token ahead for the value of an option. -/
lemma reads_read (args : List Text) : Reads args (read args).groups (read args).terminal := by
  fun_induction read args with
  | case1 => exact .finished
  | case2 token =>
    refine reads_consSingle ?_ .finished
    cases ht : ValueOption.ofToken? token with
    | none => exact .inr rfl
    | some o => exact .inl ⟨o, (ValueOption.token_of_ofToken? ht).symm, rfl⟩
  | case3 token value rest o ho ih =>
    obtain rfl : o.token = token := ValueOption.token_of_ofToken? ho
    exact .group (g := .value o value) trivial ih
  | case4 token value rest hnone ih => exact reads_consSingle (.inr hnone) ih

/-- **The reader accepts the grammar and nothing else.** -/
theorem reads_iff {args : List Text} {gs : List Group} {e : Option Terminal} :
    Reads args gs e ↔ read args = ⟨gs, e⟩ := by
  constructor
  · exact read_of_reads
  · intro h
    have hread := reads_read args
    rwa [h] at hread

lemma reads_unique {args : List Text} {gs gs' : List Group} {e e' : Option Terminal}
    (h : Reads args gs e) (h' : Reads args gs' e') : gs = gs' ∧ e = e' := by
  have hreading : (⟨gs, e⟩ : Reading) = ⟨gs', e'⟩ := (reads_iff.1 h).symm.trans (reads_iff.1 h')
  exact ⟨congrArg Reading.groups hreading, congrArg Reading.terminal hreading⟩

/-- Arguments that no token ends are their groups, written out. -/
lemma reads_none_iff {args : List Text} {gs : List Group} :
    Reads args gs none ↔ args = gs.flatMap Group.tokens ∧ ∀ g ∈ gs, g.IsWritable := by
  constructor
  · intro h
    generalize he : (none : Option Terminal) = e at h
    induction h with
    | finished => simp
    | ended => contradiction
    | group hg _ ih =>
      obtain ⟨rfl, hwritable⟩ := ih he
      exact ⟨List.flatMap_cons.symm, List.forall_mem_cons.2 ⟨hg, hwritable⟩⟩
  · rintro ⟨rfl, hwritable⟩
    have hread := read_tokens_append gs hwritable []
    rw [List.append_nil] at hread
    rw [reads_iff, hread]
    simp [read]

/-- Arguments that a token ends are their groups, that token, and whatever follows it. -/
lemma exists_of_reads_some {args : List Text} {gs : List Group} {e : Terminal}
    (h : Reads args gs (some e)) :
    ∃ token rest, args = gs.flatMap Group.tokens ++ token :: rest ∧ Ends token rest e := by
  generalize he : some e = e' at h
  induction h with
  | finished => contradiction
  | @ended token rest e' hends =>
    obtain rfl : e = e' := Option.some.inj he
    exact ⟨token, rest, rfl, hends⟩
  | group _ _ ih =>
    obtain ⟨token, rest, rfl, hends⟩ := ih he
    exact ⟨token, rest, by rw [List.flatMap_cons, List.append_assoc], hends⟩

/-! ## What groups say -/

/-- The value that a group gives to an option. -/
def Group.value? (o : ValueOption) : Group → Option Text
  | value o' v => if o' = o then some v else none
  | _ => none

/-- The token of a group that is an operand. -/
def Group.operand? : Group → Option Text
  | operand token => some token
  | _ => none

/-- The values that an option is given, in order. -/
def values (o : ValueOption) (gs : List Group) : List Text := gs.filterMap (Group.value? o)

/-- The operands among some groups, in order. -/
def operands (gs : List Group) : List Text := gs.filterMap Group.operand?

/-- The value of an option that counts, if it is given any. -/
def lastValue (o : ValueOption) (gs : List Group) : Option Text := (values o gs).getLast?

lemma lastValue_append_singleton (o : ValueOption) (gs : List Group) (g : Group) :
    lastValue o (gs ++ [g]) = (g.value? o).or (lastValue o gs) := by
  rw [lastValue, lastValue, values, values, List.filterMap_append]
  cases h : g.value? o with
  | none => simp [h]
  | some v => simp [h]

lemma operands_append_singleton (gs : List Group) (g : Group) :
    operands (gs ++ [g]) = operands gs ++ g.operand?.toList := by
  rw [operands, operands, List.filterMap_append]
  cases h : g.operand? with
  | none => simp [h]
  | some token => simp [h]

/-- **The options are what the groups say last**, whatever stands between them. -/
theorem ofGroups_eq (gs : List Group) :
    Options.ofGroups gs =
      { configPath := (lastValue .config gs).getD (ascii "config/hub.json")
        device := (lastValue .device gs).getD []
        primaryKey := (lastValue .primaryKey gs).getD []
        secondaryKey := (lastValue .secondaryKey gs).getD []
        verbose := decide (.verbose ∈ gs)
        operands := operands gs } := by
  induction gs using List.reverseRecOn with
  | nil => rfl
  | append_singleton gs g ih =>
    have hfold : Options.ofGroups (gs ++ [g]) = (Options.ofGroups gs).take g := by
      rw [Options.ofGroups, List.foldl_append]
      rfl
    rw [hfold, ih]
    cases g with
    | value o v =>
      cases o <;>
        simp [Options.take, lastValue_append_singleton, operands_append_singleton, Group.value?,
          Group.operand?]
    | verbose =>
      simp [Options.take, lastValue_append_singleton, operands_append_singleton, Group.value?,
        Group.operand?]
    | operand token =>
      simp [Options.take, lastValue_append_singleton, operands_append_singleton, Group.value?,
        Group.operand?]

/-! ## What a run looks at -/

/-- Operands beyond the second are never looked at. -/
lemma ofOperands_take (ts : List Text) : Command.ofOperands (ts.take 2) = Command.ofOperands ts := by
  rcases ts with _ | ⟨name, _ | ⟨moduleId, rest⟩⟩ <;> rfl

/-- Once the command is known, a job looks at the operands no more. -/
lemma Job.run_operands (o : Options) (ts : List Text) (command : Command)
    (format : DocumentFormat) (load : Text → Config.Loaded) (environment : Config.Environment)
    (replies : List Http.Reply) :
    Job.run ⟨{ o with operands := ts }, command⟩ format load environment replies =
      Job.run ⟨o, command⟩ format load environment replies :=
  rfl

section Runs

variable (program : Text) (format : DocumentFormat) (load : Text → Config.Loaded)
  (environment : Config.Environment) (replies : List Http.Reply)

/-- The end of a run that a token decides. -/
def endAt (token : Text) : Outcome :=
  if token = ascii "--version" then { stdout := versionLine }
  else if token = ascii "--help" then { stdout := usage program }
  else
    { exit := 2
      stderr :=
        [.plain (ascii "Unknown or incomplete option: " ++ token ++ ascii "\n" ++ usage program)] }

@[simp] lemma http_endAt (token : Text) : (endAt program token).http = none := by
  unfold endAt
  split
  · rfl
  · split <;> rfl

@[simp] lemma sent_endAt (token : Text) : (endAt program token).sent = [] := by
  unfold endAt
  split
  · rfl
  · split <;> rfl

lemma endAt_token (o : ValueOption) :
    endAt program o.token = (Terminal.unusable o.token).outcome program := by
  cases o <;> rfl

lemma outcome_of_ends {token : Text} {rest : List Text} {e : Terminal} (h : Ends token rest e) :
    e.outcome program = endAt program token := by
  cases h with
  | version => rfl
  | help => rfl
  | incomplete o => exact (endAt_token program o).symm
  | unknown _ _ _ hversion hhelp _ => rw [endAt, if_neg hversion, if_neg hhelp]; rfl

lemma run_of_reads_some {args : List Text} {gs : List Group} {e : Terminal}
    (h : Reads args gs (some e)) :
    run program format load environment replies args = e.outcome program := by
  simp only [run, plan, reads_iff.1 h]

lemma plan_of_reads_none {args : List Text} {gs : List Group} (h : Reads args gs none) :
    plan program args =
      match Command.ofOperands (operands gs) with
      | .error e => .error (e.outcome program)
      | .ok command => .ok ⟨Options.ofGroups gs, command⟩ := by
  have hoperands : (Options.ofGroups gs).operands = operands gs := by rw [ofGroups_eq]
  cases hcommand : Command.ofOperands (operands gs) with
  | error e => simp only [plan, reads_iff.1 h, hoperands, hcommand]
  | ok command => simp only [plan, reads_iff.1 h, hoperands, hcommand]

lemma run_of_reads_none {args : List Text} {gs : List Group} (h : Reads args gs none) :
    run program format load environment replies args =
      match Command.ofOperands (operands gs) with
      | .error e => e.outcome program
      | .ok command => Job.run ⟨Options.ofGroups gs, command⟩ format load environment replies := by
  rw [run, plan_of_reads_none program h]
  cases Command.ofOperands (operands gs) <;> rfl

/-- Two runs that no token ends are the same if their groups say the same. -/
lemma run_congr {args args' : List Text} {gs gs' : List Group} (h : Reads args gs none)
    (h' : Reads args' gs' none) (hoperands : (operands gs).take 2 = (operands gs').take 2)
    (hvalues : ∀ o, lastValue o gs = lastValue o gs')
    (hverbose : Group.verbose ∈ gs ↔ Group.verbose ∈ gs') :
    run program format load environment replies args =
      run program format load environment replies args' := by
  have hcommand : Command.ofOperands (operands gs) = Command.ofOperands (operands gs') := by
    rw [← ofOperands_take (operands gs), hoperands, ofOperands_take]
  have hoptions : Options.ofGroups gs = { Options.ofGroups gs' with operands := operands gs } := by
    simp only [ofGroups_eq, hvalues, hverbose]
  rw [run_of_reads_none program format load environment replies h,
    run_of_reads_none program format load environment replies h', hcommand, hoptions]
  simp only [Job.run_operands]

/-- **The command line accepts its grammar, wherever the options stand.**

* Every list of arguments has exactly one reading.
* Where a token ends it, the run ends as that token says, whatever groups precede it and whatever
  tokens follow it; no configuration is asked for, and no transport set up.
* Where none does, the run depends on the first two operands, the last value of each option and
  whether there is a `--verbose`, and on nothing else.
* Hence the groups can be put into any order that keeps the operands in their order and the values of
  each option in theirs. -/
theorem run_insensitive_to_placement :
    (∀ args, ∃! r : Reading, Reads args r.groups r.terminal) ∧
    (∀ args gs e, Reads args gs (some e) →
      ∃ token rest, args = gs.flatMap Group.tokens ++ token :: rest ∧ Ends token rest e ∧
        run program format load environment replies args = endAt program token ∧
        (endAt program token).http = none ∧ (endAt program token).sent = []) ∧
    (∀ args args' gs gs', Reads args gs none → Reads args' gs' none →
      (operands gs).take 2 = (operands gs').take 2 → (∀ o, lastValue o gs = lastValue o gs') →
      (Group.verbose ∈ gs ↔ Group.verbose ∈ gs') →
      run program format load environment replies args =
        run program format load environment replies args') ∧
    ∀ args gs gs', Reads args gs none → gs'.Perm gs → operands gs' = operands gs →
      (∀ o, values o gs' = values o gs) →
      run program format load environment replies (gs'.flatMap Group.tokens) =
        run program format load environment replies args := by
  refine ⟨fun args => ?_, fun args gs e h => ?_, fun args args' gs gs' => ?_,
    fun args gs gs' h hperm hoperands hvalues => ?_⟩
  · refine ⟨read args, reads_read args, fun r hr => ?_⟩
    exact (reads_iff.1 hr).symm
  · obtain ⟨token, rest, hargs, hends⟩ := exists_of_reads_some h
    have hrun : run program format load environment replies args = endAt program token :=
      (run_of_reads_some program format load environment replies h).trans
        (outcome_of_ends program hends)
    exact ⟨token, rest, hargs, hends, hrun, http_endAt program token, sent_endAt program token⟩
  · exact run_congr program format load environment replies
  · have hwritable : ∀ g ∈ gs', g.IsWritable := fun g hg =>
      (reads_none_iff.1 h).2 g (hperm.mem_iff.1 hg)
    have hlast : ∀ o, lastValue o gs' = lastValue o gs := fun o => by
      rw [lastValue, hvalues, lastValue]
    exact run_congr program format load environment replies (reads_none_iff.2 ⟨rfl, hwritable⟩) h
      (by rw [hoperands]) hlast hperm.mem_iff

end Runs

/-- An option that looks like a token that ends the reading is a value behind `--device`, and the group
can stand before or after the command; a last `--device` lacks its value. -/
theorem run_insensitive_to_placement_device :
    let load (path : Text) : Config.Loaded := Config.load DocumentFormat.none.readSettings path none
    let run := run (ascii "modules") .none load {} []
    let gs : List Group :=
      [.value .device (ascii "--help"), .operand (ascii "get"), .verbose, .operand (ascii "m1")]
    let gs' : List Group :=
      [.operand (ascii "get"), .operand (ascii "m1"), .value .device (ascii "--help"), .verbose]
    let args := gs.flatMap Group.tokens
    Reads args gs none ∧ gs'.Perm gs ∧ operands gs' = operands gs ∧
      (∀ o, values o gs' = values o gs) ∧ run (gs'.flatMap Group.tokens) = run args ∧
      Reads (args ++ [ascii "--device"]) gs (some (.unusable (ascii "--device"))) ∧
      ∃ token, run (args ++ [ascii "--device"]) = endAt (ascii "modules") token := by
  intro load run gs gs' args
  have hreads : Reads args gs none := reads_iff.2 (by decide)
  have hperm : gs'.Perm gs := by decide
  have hoperands : operands gs' = operands gs := by decide
  have hvalues : ∀ o, values o gs' = values o gs := by intro o; cases o <;> decide
  have hended : Reads (args ++ [ascii "--device"]) gs (some (.unusable (ascii "--device"))) :=
    reads_iff.2 (by decide)
  obtain ⟨-, hend, -, hplace⟩ :=
    run_insensitive_to_placement (ascii "modules") .none load {} []
  obtain ⟨token, -, -, -, hrun, -, -⟩ := hend _ gs _ hended
  exact ⟨hreads, hperm, hoperands, hvalues, hplace args gs gs' hreads hperm hoperands hvalues,
    hended, token, hrun⟩

end ModuleRegistry.CommandLine
