import ModuleRegistry.Text.Basic

/-!
# Configuration

A `Config` says which hub and device to work with, how to connect and how to log.  It is built in
layers, each of which overrides single fields of the one below:

1. the defaults;
2. the `Settings` of a configuration file; a file that cannot be opened gives none, and a notice;
3. the `Environment` of a gateway, which may name the hub's host and the device.

An empty variable of the environment counts as absent.  A file that is there and cannot be read as
settings gives no configuration at all (`Config.load`).
-/

namespace ModuleRegistry

open Text (ascii)

/-- How to connect. -/
structure Config.Http where
  timeoutMs : Int := 30000
  verifyTls : Bool := true
  /-- Where the trusted certificates are; empty for the system's own. -/
  caPath : Text := []
deriving DecidableEq

/-- Which hub and device to work with, how to connect and how to log. -/
structure Config where
  baseUrl : Text := ascii "https://localhost"
  apiVersion : Text := ascii "2018-06-30"
  deviceId : Text := []
  http : Config.Http := {}
  logLevel : Text := ascii "info"
  structuredLog : Bool := true
deriving DecidableEq

namespace Config

/-! ## Files -/

/-- What a configuration file says, each field only if it is given there. -/
structure Settings where
  baseUrl : Option Text := none
  apiVersion : Option Text := none
  deviceId : Option Text := none
  timeoutMs : Option Int := none
  verifyTls : Option Bool := none
  caPath : Option Text := none
  logLevel : Option Text := none
  structuredLog : Option Bool := none
deriving DecidableEq

/-- A configuration with the settings that are given in the place of its own. -/
def set (c : Config) (s : Settings) : Config where
  baseUrl := s.baseUrl.getD c.baseUrl
  apiVersion := s.apiVersion.getD c.apiVersion
  deviceId := s.deviceId.getD c.deviceId
  http :=
    { timeoutMs := s.timeoutMs.getD c.http.timeoutMs
      verifyTls := s.verifyTls.getD c.http.verifyTls
      caPath := s.caPath.getD c.http.caPath }
  logLevel := s.logLevel.getD c.logLevel
  structuredLog := s.structuredLog.getD c.structuredLog

@[simp] theorem set_nothing (c : Config) : c.set {} = c := rfl

/-- A configuration, or the reason why there is none, with what there is to say about its loading. -/
structure Loaded where
  result : Except Text Config
  notice : Text := []

/-- The notice about a file that cannot be opened. -/
def unopened (path : Text) : Text :=
  ascii "Warning: Could not open config file: " ++ path ++ ascii ", using defaults\n"

/-- The notice about a file that is no settings, for the given reason. -/
def malformed (reason : Text) : Text :=
  ascii "Error parsing JSON config: " ++ Text.untilNul reason ++ ascii "\n"

/-- The configuration of the file at a path, of which the content is given if it can be opened.
`read` understands the content. -/
def load (read : Text → Except Text Settings) (path : Text) (file : Option Text) : Loaded :=
  match file with
  | none => ⟨.ok {}, unopened path⟩
  | some content =>
    match read content with
    | .ok s => ⟨.ok (set {} s), []⟩
    | .error reason => ⟨.error (ascii "Failed to parse config file: " ++ path), malformed reason⟩

/-! ## The environment -/

/-- The variables of a gateway that matter here. -/
structure Environment where
  hostname : Option Text := none
  deviceId : Option Text := none
deriving DecidableEq

/-- The value of a variable that is set and not empty. -/
def nonempty : Option Text → Option Text
  | some (b :: r) => some (b :: r)
  | _ => none

/-- A configuration with what the environment says in the place of its own. -/
def under (c : Config) (e : Environment) : Config :=
  { c with
    baseUrl := ((nonempty e.hostname).map (ascii "https://" ++ ·)).getD c.baseUrl
    deviceId := (nonempty e.deviceId).getD c.deviceId }

/-- A configuration that has been put under one environment after the other. -/
def underAll (c : Config) (es : List Environment) : Config := es.foldl under c

/-- The configuration after each of the environments. -/
def states (c : Config) : List Environment → List Config
  | [] => []
  | e :: r => c.under e :: states (c.under e) r

@[simp] theorem under_nothing (c : Config) : c.under {} = c := rfl

end Config

end ModuleRegistry
