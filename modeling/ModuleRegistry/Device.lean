import ModuleRegistry.Client

/-!
# The modules of a device

A `Device` is a client together with the device whose module identities it manages.  It is made from
the client as that is at the time; what later becomes of the client does not concern it.

Creating and updating send the same document.  An update and a deletion carry the condition that the
module exists, so the hub tells a creation from an update.  An operation on a module whose identifier
is blank fails before anything is sent.
-/

namespace ModuleRegistry

open Text (ascii)
open Text.Percent (encode)

/-- A device whose modules a client manages. -/
structure Device where
  client : Client
  id : Text
deriving DecidableEq

namespace Device

/-- The device with a given identifier, which must not be blank. -/
def make (client : Client) (id : Text) : Except HubError Device :=
  match HubError.requireArgument (ascii "device_id") id with
  | .error e => .error e
  | .ok id => .ok { client, id }

theorem make_eq_ok_iff {client : Client} {id : Text} {d : Device} :
    make client id = .ok d ↔ Text.isBlank id = false ∧ d = ⟨client, id⟩ := by
  cases h : Text.isBlank id <;> simp [make, h, eq_comm]

/-! ## Paths -/

/-- The path of all modules of a device. -/
def collectionPath (d : Device) : Text := ascii "/devices/" ++ encode d.id ++ ascii "/modules"

/-- The path of one module of a device. -/
def memberPath (d : Device) (moduleId : Text) : Text :=
  d.collectionPath ++ ascii "/" ++ encode moduleId

/-! ## Operations -/

/-- Goes on with a module's identifier, or fails at once if it is blank. -/
def onModule {α : Type} (moduleId : Text) (call : Call α) : Call α :=
  match HubError.requireArgument (ascii "module_id") moduleId with
  | .error e => .done (.error (.hub e))
  | .ok _ => call

/-- The identity that a creation or an update sends. -/
def proposal (d : Device) (moduleId : Text) (authentication : Option AuthMechanism) : Identity where
  deviceId := some d.id
  moduleId := some moduleId
  authentication := authentication

/-- Sends an identity to the hub, which answers with the one it keeps. -/
def store (d : Device) (format : DocumentFormat) (moduleId : Text)
    (authentication : Option AuthMechanism) (conditional : Bool) : Call Identity :=
  onModule moduleId <|
    match format.writeIdentity (d.proposal moduleId authentication) with
    | .error reason => .done (.error (.hub (.unwritable reason)))
    | .ok body =>
      Handler.required.run <| Exchange.fetch format (.document format.readIdentity) <|
        d.client.compose .put (d.memberPath moduleId) ∅ body conditional

/-- Creates a module. -/
def create (d : Device) (format : DocumentFormat) (moduleId : Text)
    (authentication : Option AuthMechanism := none) : Call Identity :=
  d.store format moduleId authentication false

/-- Overwrites a module that exists. -/
def update (d : Device) (format : DocumentFormat) (moduleId : Text)
    (authentication : Option AuthMechanism := none) : Call Identity :=
  d.store format moduleId authentication true

/-- A refusal with status 404 means that a module does not exist; any other error is as it was. -/
def missing (moduleId : Text) (e : HubError) : HubError :=
  if e.kind = .hubService ∧ e.statusCode = 404 then .moduleNotFound moduleId e else e

/-- Fetches once, insists on a document and says of a 404 which module is missing. -/
def lookup (moduleId : Text) : Handler Identity Identity := .fetch fun
  | .ok (some identity) => .done (.ok identity)
  | .ok none => .done (.error (.hub .emptyResponse))
  | .error f => .done (.error (f.map (missing moduleId)))

/-- Looks a module up. -/
def get (d : Device) (format : DocumentFormat) (moduleId : Text) : Call Identity :=
  onModule moduleId <|
    d.client.askWith format (.document format.readIdentity) .get (d.memberPath moduleId) false
      (lookup moduleId)

/-- Lists the modules of a device. -/
def list (d : Device) (format : DocumentFormat) : Call (List Identity) :=
  d.client.askWith format (.document format.readIdentities) .get d.collectionPath false .required

/-- Fetches once and forgets what came back, unless it is an error. -/
def discard : Handler NoContent Unit := .fetch fun
  | .ok _ => .done (.ok ())
  | .error f => .done (.error f)

/-- Deletes a module that exists. -/
def delete (d : Device) (format : DocumentFormat) (moduleId : Text) : Call Unit :=
  onModule moduleId <|
    d.client.askWith format .ignore .delete (d.memberPath moduleId) true discard

end Device

end ModuleRegistry
