import ModuleRegistry.Handler

/-!
# Reactions

The handlers that a session knows by name.  Each reports in a text how its fetches went, and between
them they use a fetch in every way that matters: not at all, once, twice, looking at the error,
recovering from it, or replacing it.  They deal with the library's errors only: another failure of a
fetch passes through them.
-/

namespace ModuleRegistry.Session

open Text (ascii)

/-- What to do with a fetch. -/
inductive Reaction where
  | never
  /-- Fetches once and says whether there was a document. -/
  | fetch
  /-- Fetches twice and says whether there was a document the second time. -/
  | twice
  | kind
  | status
  | retry
  /-- Fetches once and puts an error of its own in the place of an error. -/
  | replace
  | rethrow
deriving DecidableEq

namespace Reaction

/-- What to say about a document that may be absent. -/
def presence {ρ : Type} : Option ρ → Text
  | some _ => ascii "value"
  | none => ascii "empty"

/-- The error that `replace` puts in the place of another. -/
def replacement (e : HubError) : HubError where
  kind := .emptyResponse
  message := ascii "translated: " ++ e.shown
  statusCode := e.statusCode
  remote := e.remote

/-- Says whether there was a document, unless the fetch failed. -/
def report {ρ : Type} : Except Call.Failure (Option ρ) → Handler ρ Text
  | .ok value => .done (.ok (presence value))
  | .error f => .done (.error f)

/-- Says `ok`, unless there was an error for `recover` to deal with. -/
def onError {ρ : Type} (recover : HubError → Handler ρ Text) :
    Except Call.Failure (Option ρ) → Handler ρ Text
  | .ok _ => .done (.ok (ascii "ok"))
  | .error (.hub e) => recover e
  | .error (.unlogged reason) => .done (.error (.unlogged reason))

/-- A reaction as a handler. -/
def handler {ρ : Type} : Reaction → Handler ρ Text
  | never => .done (.ok (ascii "not fetched"))
  | fetch => .fetch report
  | twice => .fetch fun
    | .ok _ => .fetch report
    | .error f => .done (.error f)
  | kind => .fetch <| onError fun e => .done (.ok e.kind.name)
  | status => .fetch <| onError fun e => .done (.ok (Text.ofInt e.statusCode))
  | retry => .fetch <| onError fun _ => .fetch fun
    | .ok _ => .done (.ok (ascii "ok on retry"))
    | .error f => .done (.error f)
  | replace => .fetch <| onError fun e => .done (.error (.hub (replacement e)))
  | rethrow => .fetch <| onError fun e => .done (.error (.hub e))

end Reaction

end ModuleRegistry.Session
