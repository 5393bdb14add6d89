import ModuleRegistry.BaseUrl
import ModuleRegistry.Handler
import ModuleRegistry.Product
import ModuleRegistry.Text.Percent

/-!
# Clients

A `Client` knows where a hub is, which version of its interface to ask for and how long to wait.  It
is a plain value: a copy made before a change keeps what it had.

`Client.make` checks the version before the base address, and only a client that passes both checks
can miss its transport (`Client.connect`).  `url` writes an address, `compose` a request, and
`ask` and `askWith` exchange it.
-/

namespace ModuleRegistry

open Text (ascii)
open Text.Percent (encode)

/-- What every request of a client has in common. -/
structure Client where
  apiVersion : Text
  baseUrl : BaseUrl
  timeoutMs : Int := 30000
deriving DecidableEq

namespace Client

/-! ## Making clients -/

/-- A client of the hub at an address, or the first thing wrong with the arguments. -/
def make (apiVersion baseUrl : Text) : Except HubError Client :=
  match HubError.requireArgument (ascii "api_version") apiVersion with
  | .error e => .error e
  | .ok version =>
    match BaseUrl.parse baseUrl with
    | .error flaw => .error (.invalidUrl flaw baseUrl)
    | .ok url => .ok { apiVersion := version, baseUrl := url }

/-- Why a client cannot be connected. -/
inductive Rejection where
  | invalid (error : HubError)
  | noTransport
deriving DecidableEq

/-- What a caller is told who has no transport. -/
def noTransportMessage : Text := ascii "Client requires an HTTP transport"

/-- A client on a transport, which may be missing. -/
def connect (transport : Bool) (apiVersion baseUrl : Text) : Except Rejection Client :=
  match make apiVersion baseUrl with
  | .error e => .error (.invalid e)
  | .ok c => if transport then .ok c else .error .noTransport

theorem make_eq_ok_iff {apiVersion baseUrl : Text} {c : Client} :
    make apiVersion baseUrl = .ok c ↔ Text.isBlank apiVersion = false ∧
      ∃ u, BaseUrl.parse baseUrl = .ok u ∧ c = { apiVersion := apiVersion, baseUrl := u } := by
  cases hv : Text.isBlank apiVersion with
  | true => simp [make, hv]
  | false =>
    cases hu : BaseUrl.parse baseUrl with
    | error flaw => simp [make, hv, hu]
    | ok u => simp [make, hv, hu, eq_comm]

theorem connect_eq_ok_iff {transport : Bool} {apiVersion baseUrl : Text} {c : Client} :
    connect transport apiVersion baseUrl = .ok c ↔
      transport = true ∧ make apiVersion baseUrl = .ok c := by
  cases hm : make apiVersion baseUrl with
  | error e => simp [connect, hm]
  | ok c' => cases transport <;> simp [connect, hm]

/-- A client that waits so long. -/
def withTimeout (c : Client) (ms : Int) : Client := { c with timeoutMs := ms }

@[simp] theorem timeoutMs_withTimeout (c : Client) (ms : Int) :
    (c.withTimeout ms).timeoutMs = ms := rfl

@[simp] theorem apiVersion_withTimeout (c : Client) (ms : Int) :
    (c.withTimeout ms).apiVersion = c.apiVersion := rfl

@[simp] theorem baseUrl_withTimeout (c : Client) (ms : Int) :
    (c.withTimeout ms).baseUrl = c.baseUrl := rfl

/-! ## Addresses -/

/-- A path that begins with a slash: its own, or one put before it. -/
def rooted (path : Text) : Text :=
  if path.head? = some '/'.toUInt8 then path else '/'.toUInt8 :: path

/-- One parameter of a query, behind its separator. -/
def parameter (p : Text × Text) : Text := ascii "&" ++ encode p.1 ++ ascii "=" ++ encode p.2

/-- The query of an address: the interface version, then the parameters by key. -/
def query (c : Client) (parameters : Table Text) : Text :=
  ascii "api-version=" ++ encode c.apiVersion ++ parameters.toList.flatMap parameter

/-- The address of a path, which must be percent-encoded already. -/
def url (c : Client) (path : Text) (parameters : Table Text := ∅) : Text :=
  c.baseUrl.text ++ rooted path ++ ascii "?" ++ c.query parameters

/-- An address by its parts: where the hub is, what is asked for, in which version, and with which
parameters. -/
theorem url_parts (c : Client) (path : Text) (parameters : Table Text) :
    c.url path parameters = c.baseUrl.text ++ rooted path ++
      ascii "?api-version=" ++ encode c.apiVersion ++
      parameters.toList.flatMap fun p => ascii "&" ++ encode p.1 ++ ascii "=" ++ encode p.2 := by
  have hmark : ascii "?api-version=" = ascii "?" ++ ascii "api-version=" := rfl
  have hparameter : parameter =
      fun p => ascii "&" ++ encode p.1 ++ ascii "=" ++ encode p.2 := rfl
  rw [url, query, hmark, hparameter]
  simp only [List.append_assoc]

/-- The address of a path that begins with a slash, without parameters. -/
theorem url_of_slash (c : Client) {path : Text} (hpath : path.head? = some '/'.toUInt8) :
    c.url path = c.baseUrl.text ++ path ++ ascii "?api-version=" ++ encode c.apiVersion := by
  rw [url_parts, rooted, if_pos hpath]
  exact List.append_nil _

/-! ## Requests -/

/-- The headers of a request: a body brings its content type and a condition its own header. -/
def headers (body : Text) (conditional : Bool) : Table Text :=
  .ofList <|
    [(ascii "Accept", ascii "application/json"), (ascii "User-Agent", Product.userAgent)] ++
    (if body.isEmpty then []
      else [(ascii "Content-Type", ascii "application/json; charset=utf-8")]) ++
    (if conditional then [(Exchange.ifMatch, ascii "*")] else [])

/-- A request of this client; an empty body is no body. -/
def compose (c : Client) (method : Http.Method) (path : Text) (parameters : Table Text)
    (body : Text) (conditional : Bool) : Http.Request where
  method := method
  url := c.url path parameters
  headers := headers body conditional
  body := body
  timeoutMs := c.timeoutMs

/-! ## Calls -/

/-- Exchanges a request without a body as often as a handler asks for it. -/
def askWith {ρ α : Type} (c : Client) (format : DocumentFormat) (decode : Decoder ρ)
    (method : Http.Method) (path : Text) (conditional : Bool) (handler : Handler ρ α)
    (parameters : Table Text := ∅) : Call α :=
  handler.run (Exchange.fetch format decode (c.compose method path parameters [] conditional))

/-- Exchanges a request without a body once. -/
def ask {ρ : Type} (c : Client) (format : DocumentFormat) (decode : Decoder ρ)
    (method : Http.Method) (path : Text) (conditional : Bool) (parameters : Table Text := ∅) :
    Call (Option ρ) :=
  c.askWith format decode method path conditional .plain parameters

end Client

end ModuleRegistry
