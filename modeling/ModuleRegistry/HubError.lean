import ModuleRegistry.Text.Decimal

/-!
# Errors of the registry client

Every failure that a caller can act on is a `HubError`: its kind, a message for people, and the
fields that the kind carries: the offending argument of an empty identifier, the status of a
refusal, the explanation that the hub sent along.  Callers branch on the kind and the fields, never on the
message.

A message may quote bytes of an identifier or of a reply.  Where it is shown as a NUL-terminated
string it ends before its first NUL byte: `HubError.shown`.

The named constructors (`emptyArgument`, `transport`, `refused`, …) are the causes for which the
library raises an error; `invalidUrl` stands with the rules of addresses in
`ModuleRegistry.BaseUrl`.
-/

namespace ModuleRegistry

open Text (ascii)

/-- The explanation that a hub sends along with a refusal. -/
structure RemoteError where
  message : Option Text := none
  exceptionMessage : Option Text := none
deriving DecidableEq

/-- What callers tell errors apart by. -/
inductive HubError.Kind where
  | argumentEmpty
  | invalidUrl
  | emptyResponse
  | moduleNotFound
  | transport
  | hubService
  | serialization
deriving DecidableEq

/-- A failure, with what its kind carries. -/
structure HubError where
  kind : HubError.Kind
  message : Text
  /-- The status of a refusal; zero for every other kind. -/
  statusCode : Int := 0
  /-- The name of an empty argument; empty for every other kind. -/
  argument : Text := []
  remote : Option RemoteError := none
deriving DecidableEq

namespace HubError

/-- A kind as the command line reports it. -/
def Kind.name : Kind → Text
  | argumentEmpty => ascii "ArgumentEmpty"
  | invalidUrl => ascii "InvalidUrl"
  | emptyResponse => ascii "EmptyResponse"
  | moduleNotFound => ascii "ModuleNotFound"
  | transport => ascii "Transport"
  | hubService => ascii "HubService"
  | serialization => ascii "Serialization"

/-- The message as it is shown: up to its first NUL byte. -/
def shown (e : HubError) : Text := Text.untilNul e.message

/-! ## Causes -/

/-- An argument that must not be blank is. -/
def emptyArgument (argument : Text) : HubError where
  kind := .argumentEmpty
  message := ascii "Argument " ++ argument ++ ascii " should not be empty"
  argument := argument

/-- An exchange failed before a status came back; the reason is the transport's own. -/
def transport (reason : Text) : HubError where
  kind := .transport
  message := reason

/-- The hub refused with a status and, perhaps, an explanation. -/
def refused (status : Int) (remote : Option RemoteError) : HubError where
  kind := .hubService
  message := ascii "Hub returned status " ++ Text.ofInt status ++
    match remote.bind RemoteError.message with
    | some explanation => ascii ": " ++ explanation
    | none => []
  statusCode := status
  remote := remote

/-- A successful reply has no body although the operation needs one. -/
def emptyResponse : HubError where
  kind := .emptyResponse
  message := ascii "Hub returned an empty response body"

/-- A module is unknown to the hub; the refusal that said so gives the status and explanation. -/
def moduleNotFound (moduleId : Text) (refusal : HubError) : HubError where
  kind := .moduleNotFound
  message := ascii "Module " ++ moduleId ++ ascii " not found"
  statusCode := refusal.statusCode
  remote := refusal.remote

/-- A request needs a document that cannot be written. -/
def unwritable (reason : Text) : HubError where
  kind := .serialization
  message := ascii "Failed to serialize request body: " ++ reason

/-- The body of a successful reply is not the document that it should be. -/
def unreadable (reason : Text) : HubError where
  kind := .serialization
  message := ascii "Failed to deserialize response body: " ++ reason

/-! ## Required arguments -/

/-- A value as it stands, or the error that names its argument if the value is blank. -/
def requireArgument (argument value : Text) : Except HubError Text :=
  if Text.isBlank value then .error (emptyArgument argument) else .ok value

@[simp] theorem requireArgument_blank {value : Text} (argument : Text)
    (h : Text.isBlank value = true) :
    requireArgument argument value = .error (emptyArgument argument) := by
  simp [requireArgument, h]

@[simp] theorem requireArgument_present {value : Text} (argument : Text)
    (h : Text.isBlank value = false) : requireArgument argument value = .ok value := by
  simp [requireArgument, h]

end HubError

end ModuleRegistry
