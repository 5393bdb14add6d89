import ModuleRegistry.Text.Basic

/-!
# Arguments

The arguments of the command line are read from left to right in groups.  A group is an option with
the value after it, whatever that looks like, or `--verbose`, or an operand, which is any token that
does not begin with `--`.  Reading ends at the end of the arguments or at a token that decides the
run alone: `--version`, `--help`, or a token that begins with `--` and is no option or lacks its
value.

`read` gives the groups and the deciding token, if there is one; `Options.ofGroups` then keeps the
last value of each option and the operands in order.

Main statement: `read_tokens_append`, groups that are written out as tokens read back as they are,
whatever follows them.
-/

namespace ModuleRegistry.CommandLine

open Text (ascii)

/-- The options that take a value. -/
inductive ValueOption where
  | config
  | device
  | primaryKey
  | secondaryKey
deriving DecidableEq

namespace ValueOption

/-- How an option is written. -/
def token : ValueOption → Text
  | config => ascii "--config"
  | device => ascii "--device"
  | primaryKey => ascii "--primary-key"
  | secondaryKey => ascii "--secondary-key"

/-- All options that take a value. -/
def all : List ValueOption := [config, device, primaryKey, secondaryKey]

/-- The option that a token is, if it is one. -/
def ofToken? (t : Text) : Option ValueOption := all.find? (·.token == t)

@[simp] theorem ofToken?_token (o : ValueOption) : ofToken? o.token = some o := by
  cases o <;> rfl

theorem token_of_ofToken? {t : Text} {o : ValueOption} (h : ofToken? t = some o) : o.token = t := by
  simpa using List.find?_some h

end ValueOption

/-- What the arguments are made of. -/
inductive Group where
  | value (option : ValueOption) (value : Text)
  | verbose
  | operand (token : Text)
deriving DecidableEq

/-- A token that decides the run alone. -/
inductive Terminal where
  | version
  | help
  /-- An option that is unknown or lacks its value. -/
  | unusable (token : Text)
deriving DecidableEq

/-- What arguments are read as. -/
structure Reading where
  groups : List Group := []
  /-- The token that ended the reading early. -/
  terminal : Option Terminal := none
deriving DecidableEq

/-- A reading with one more group before it. -/
def Reading.cons (g : Group) (r : Reading) : Reading := { r with groups := g :: r.groups }

/-- Whether a token is written like an option. -/
def isOptionLike (t : Text) : Bool := (ascii "--").isPrefixOf t

/-- A token that is not followed by a value of its own: a group, or the end of the reading. -/
def single (t : Text) : Except Terminal Group :=
  if t = ascii "--verbose" then .ok .verbose
  else if t = ascii "--version" then .error .version
  else if t = ascii "--help" then .error .help
  else if isOptionLike t then .error (.unusable t)
  else .ok (.operand t)

/-- A reading with a token before it that takes no value.  If the token ends the reading, what comes
after it is not looked at. -/
def Reading.consSingle (t : Text) (r : Reading) : Reading :=
  match single t with
  | .ok g => r.cons g
  | .error e => { terminal := some e }

/-- Reads arguments from left to right. -/
def read : List Text → Reading
  | [] => {}
  | [t] => Reading.consSingle t {}
  | t :: v :: r =>
    match ValueOption.ofToken? t with
    | some o => (read r).cons (.value o v)
    | none => Reading.consSingle t (read (v :: r))

/-! ## Writing groups -/

/-- How a group is written. -/
def Group.tokens : Group → List Text
  | value o v => [o.token, v]
  | verbose => [ascii "--verbose"]
  | operand token => [token]

/-- Whether a group can stand on a command line: an operand must not look like an option. -/
def Group.IsWritable : Group → Prop
  | operand token => isOptionLike token = false
  | _ => True

instance : DecidablePred Group.IsWritable
  | .value _ _ => inferInstanceAs (Decidable True)
  | .verbose => inferInstanceAs (Decidable True)
  | .operand t => inferInstanceAs (Decidable (isOptionLike t = false))

theorem ValueOption.isOptionLike_token (o : ValueOption) : isOptionLike o.token = true := by
  cases o <;> rfl

theorem ValueOption.ofToken?_eq_none {t : Text} (h : isOptionLike t = false) :
    ofToken? t = none := by
  cases ht : ofToken? t with
  | none => rfl
  | some o =>
    have := o.isOptionLike_token
    rw [token_of_ofToken? ht, h] at this
    contradiction

theorem single_of_not_isOptionLike {t : Text} (h : isOptionLike t = false) :
    single t = .ok (.operand t) := by
  have ne {u : Text} (hu : isOptionLike u = true) : t ≠ u := fun e => by simp [e, hu] at h
  rw [single, if_neg (ne rfl), if_neg (ne rfl), if_neg (ne rfl), h]
  rfl

theorem read_cons_of_ofToken?_eq_none {t : Text} (h : ValueOption.ofToken? t = none)
    (r : List Text) : read (t :: r) = Reading.consSingle t (read r) := by
  cases r with
  | nil => rfl
  | cons v r => rw [read, h]

theorem read_value (o : ValueOption) (v : Text) (r : List Text) :
    read (o.token :: v :: r) = (read r).cons (.value o v) := by
  rw [read, ValueOption.ofToken?_token]

/-- Reading takes in a written group first. -/
theorem read_tokens (g : Group) (h : g.IsWritable) (r : List Text) :
    read (g.tokens ++ r) = (read r).cons g := by
  cases g with
  | value o v => exact read_value o v r
  | verbose => exact read_cons_of_ofToken?_eq_none rfl r
  | operand t =>
    rw [Group.tokens, List.singleton_append,
      read_cons_of_ofToken?_eq_none (ValueOption.ofToken?_eq_none h), Reading.consSingle,
      single_of_not_isOptionLike h]

/-- **Written groups read back**, and what follows them is read on its own. -/
theorem read_tokens_append (gs : List Group) (h : ∀ g ∈ gs, g.IsWritable) (r : List Text) :
    read (gs.flatMap Group.tokens ++ r) = { read r with groups := gs ++ (read r).groups } := by
  induction gs with
  | nil => rfl
  | cons g gs ih =>
    rw [List.flatMap_cons, List.append_assoc, read_tokens g (h g (by simp)),
      ih fun g' hg => h g' (by simp [hg])]
    rfl

/-! ## Options -/

/-- What the groups say, with the defaults for what they do not say. -/
structure Options where
  configPath : Text := ascii "config/hub.json"
  /-- The device to work with, if not empty. -/
  device : Text := []
  primaryKey : Text := []
  secondaryKey : Text := []
  verbose : Bool := false
  operands : List Text := []
deriving DecidableEq

namespace Options

/-- The options when one more group has been read. -/
def take (o : Options) : Group → Options
  | .value .config v => { o with configPath := v }
  | .value .device v => { o with device := v }
  | .value .primaryKey v => { o with primaryKey := v }
  | .value .secondaryKey v => { o with secondaryKey := v }
  | .verbose => { o with verbose := true }
  | .operand t => { o with operands := o.operands ++ [t] }

/-- The options that groups give, read in order. -/
def ofGroups (gs : List Group) : Options := gs.foldl take {}

end Options

/-! ## Commands -/

/-- What can be done with the modules of a device. -/
inductive Action where
  | list
  | get
  | create
  | update
  | delete
deriving DecidableEq

namespace Action

/-- How an action is written. -/
def name : Action → Text
  | list => ascii "list"
  | get => ascii "get"
  | create => ascii "create"
  | update => ascii "update"
  | delete => ascii "delete"

/-- All actions. -/
def all : List Action := [list, get, create, update, delete]

/-- The action that a token names, if it names one. -/
def ofName? (t : Text) : Option Action := all.find? (·.name == t)

@[simp] theorem ofName?_name (a : Action) : ofName? a.name = some a := by
  cases a <;> rfl

theorem name_of_ofName? {t : Text} {a : Action} (h : ofName? t = some a) : a.name = t := by
  simpa using List.find?_some h

end Action

/-- What to do, and with which module. -/
structure Command where
  action : Action
  /-- The module; empty for `list`. -/
  moduleId : Text
deriving DecidableEq

/-- Why operands are no command. -/
inductive UsageError where
  | noCommand
  | unknownCommand (name : Text)
  | noModule (action : Action)
deriving DecidableEq

/-- The command that operands give.  Operands beyond those needed are ignored. -/
def Command.ofOperands : List Text → Except UsageError Command
  | [] => .error .noCommand
  | name :: r =>
    match Action.ofName? name with
    | none => .error (.unknownCommand name)
    | some .list => .ok ⟨.list, []⟩
    | some action =>
      match r with
      | [] => .error (.noModule action)
      | moduleId :: _ => .ok ⟨action, moduleId⟩

end ModuleRegistry.CommandLine
