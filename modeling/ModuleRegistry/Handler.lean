import ModuleRegistry.Exchange

/-!
# Handlers

A caller may wrap an exchange in a handler, which decides how often the exchange takes place and
what each outcome means.  A `Handler` is such a decision procedure as a tree: either it is done, or
it asks for a fetch and goes on according to the fetch's outcome.  Every handler therefore ends after
finitely many fetches, whatever comes back.  That a log could not take an entry is one of the outcomes
that a handler may see; the library's own handlers pass it on.

`Handler.run` plays a handler against a fetch, and `Handler.plain` is the handler of a caller that
has none.
-/

namespace ModuleRegistry

/-- A procedure that may fetch and ends with an outcome. -/
inductive Handler (ρ α : Type) where
  | done (outcome : Except Call.Failure α)
  | fetch (next : Except Call.Failure (Option ρ) → Handler ρ α)

namespace Handler

variable {ρ α : Type}

/-- Plays a handler; each of its fetches is the given call. -/
def run (fetch : Call (Option ρ)) : Handler ρ α → Call α
  | done outcome, t => (outcome, t)
  | .fetch next, t =>
    let r := fetch t
    (next r.1).run fetch r.2

/-- The handler that fetches once and ends with the outcome of that fetch. -/
def plain : Handler ρ (Option ρ) := .fetch .done

/-- Fetches once and insists on a document. -/
def required : Handler ρ ρ := .fetch fun
  | .ok (some value) => .done (.ok value)
  | .ok none => .done (.error (.hub .emptyResponse))
  | .error f => .done (.error f)

@[simp] theorem run_done (fetch : Call (Option ρ)) (outcome : Except Call.Failure α) (t : Traffic) :
    (done outcome).run fetch t = (outcome, t) := rfl

@[simp] theorem run_fetch (fetch : Call (Option ρ))
    (next : Except Call.Failure (Option ρ) → Handler ρ α) (t : Traffic) :
    (Handler.fetch next).run fetch t = (next (fetch t).1).run fetch (fetch t).2 := rfl

/-- Without a handler a call is its fetch. -/
@[simp] theorem run_plain (fetch : Call (Option ρ)) (t : Traffic) :
    plain.run fetch t = fetch t := rfl

end Handler

end ModuleRegistry
