import ModuleRegistry.Table

/-!
# Requests and replies

One exchange with a hub sends a `Request` and yields a `Reply`.  A reply with an `error` says that
the exchange itself failed, whatever its other fields hold.
-/

namespace ModuleRegistry.Http

open Text (ascii)

/-- The methods that the registry is asked with. -/
inductive Method where
  | get
  | put
  | delete
deriving DecidableEq

/-- A method as it stands in a request and in the log. -/
def Method.name : Method → Text
  | get => ascii "GET"
  | put => ascii "PUT"
  | delete => ascii "DELETE"

theorem Method.name_injective {m n : Method} (h : m.name = n.name) : m = n := by
  revert h
  cases m <;> cases n <;> decide

/-- A request; an empty body is no body. -/
structure Request where
  method : Method
  url : Text
  headers : Table Text := ∅
  body : Text := []
  timeoutMs : Int
deriving DecidableEq

/-- What an exchange brought back. -/
structure Reply where
  status : Int := 0
  body : Text := []
  headers : Table Text := ∅
  /-- Why the exchange failed; empty if it did not. -/
  error : Text := []
  latencyMs : Float := 0

/-- Whether a status says that a request was granted. -/
def isSuccess (status : Int) : Bool := 200 ≤ status && status ≤ 299

/-- Whether an exchange failed or was refused. -/
def Reply.failed (r : Reply) : Bool := !r.error.isEmpty || !isSuccess r.status

theorem isSuccess_iff {status : Int} : isSuccess status = true ↔ 200 ≤ status ∧ status ≤ 299 := by
  simp [isSuccess]

theorem Reply.failed_iff {r : Reply} :
    r.failed = true ↔ r.error ≠ [] ∨ r.status < 200 ∨ 299 < r.status := by
  simp [Reply.failed, isSuccess]

end ModuleRegistry.Http
