import ModuleRegistry.Proofs.Exchanges

/-!
# Where clients and devices come from

Clients and devices are values.  A client is constructed or copied, a device is made from a client,
and from then on nothing shares anything: of the steps that follow, only one kind touches a client at
all, and it sets the timeout of the client that it names.

`Session.Acts` says once what a step can do, by two relations.  `Session.Becomes` is what it makes of
the clients and devices, together with the outcome that the caller sees; `Session.Sends` is which
request it sends and which client or device wrote that.  Every step acts so (`acts_perform`).  From the
first relation it follows what a run leaves of a client: all of it, but for the timeout that was set
last (`getElem?_clients_after`); from the second, that a request has the timeout of whoever wrote it,
and an address that begins with their base address and asks for their version.

Main statement: `Session.values_are_independent`.
-/

namespace ModuleRegistry

open Text (ascii)
open Text.Percent (encode)

namespace Session

variable {s s' : Session} {step : Step} {outcome : Outcome}

/-! ## What a step can do -/

/-- A client that a step makes: a constructed one waits thirty seconds, and a copied one is as its
source is at the time. -/
inductive Makes (s : Session) : Step → Client → Prop
  | connected {apiVersion baseUrl : Text} {url : BaseUrl} (hurl : BaseUrl.parse baseUrl = .ok url) :
      s.Makes (.connect true apiVersion baseUrl) ⟨apiVersion, url, 30000⟩
  | copied {i : Nat} {c : Client} (hc : s.clients[i]? = some c) : s.Makes (.copy i) c

/-- The steps that can change which clients and devices there are, or how they are. -/
def Step.IsChange : Step → Prop
  | connect .. | copy .. | setTimeout .. | device .. => True
  | _ => False

/-- The session that a step leaves behind, by its outcome. -/
inductive Becomes (s : Session) (step : Step) : Outcome → Session → Prop
  | made {c : Client} (h : s.Makes step c) :
      s.Becomes step (.ok (.index s.clients.length)) { s with clients := s.clients ++ [c] }
  | retimed {i : Nat} {ms : Int} {c : Client} (hstep : step = .setTimeout i ms)
      (hc : s.clients[i]? = some c) :
      s.Becomes step (.ok (.number ms)) { s with clients := s.clients.set i (c.withTimeout ms) }
  | attached {i : Nat} {id : Text} {c : Client} (hstep : step = .device i id)
      (hc : s.clients[i]? = some c) :
      s.Becomes step (.ok (.text id)) { s with devices := s.devices ++ [⟨c, id⟩] }
  | failed (f : Failure) (h : ∀ i ms, step = .setTimeout i ms → s.clients[i]? = none) :
      s.Becomes step (.error f) s
  | kept {a : Answer} (hstep : ¬step.IsChange) (ha : ∀ n, a ≠ .index n) : s.Becomes step (.ok a) s

/-- A request that a step sends, as the client or the device that the step names has written it.  The
body of a creation or an update is the document of an identity. -/
inductive Sends (s : Session) (format : DocumentFormat) : Step → Http.Request → Prop
  | exchange (q : Http.Request) : s.Sends format (.exchange q) q
  | request {i : Nat} {c : Client} (hc : s.clients[i]? = some c) (method : Http.Method)
      (path : Text) (parameters : Table Text) (conditional : Bool) (expected : Expected)
      (reaction : Option Reaction) :
      s.Sends format (.request i method path parameters conditional expected reaction)
        (c.compose method path parameters [] conditional)
  | handle {i : Nat} {c : Client} (hc : s.clients[i]? = some c) (method : Http.Method)
      (path : Text) (parameters : Table Text) (conditional : Bool) (expected : Expected)
      (handler : Handler expected.Document Text) :
      s.Sends format (.handle i method path parameters conditional expected handler)
        (c.compose method path parameters [] conditional)
  | create {i : Nat} {d : Device} (hd : s.devices[i]? = some d) {moduleId : Text}
      {authentication : Option AuthMechanism} {body : Text}
      (hbody : format.writeIdentity (d.proposal moduleId authentication) = .ok body) :
      s.Sends format (.create i moduleId authentication)
        (d.client.compose .put (d.memberPath moduleId) ∅ body false)
  | update {i : Nat} {d : Device} (hd : s.devices[i]? = some d) {moduleId : Text}
      {authentication : Option AuthMechanism} {body : Text}
      (hbody : format.writeIdentity (d.proposal moduleId authentication) = .ok body) :
      s.Sends format (.update i moduleId authentication)
        (d.client.compose .put (d.memberPath moduleId) ∅ body true)
  | get {i : Nat} {d : Device} (hd : s.devices[i]? = some d) (moduleId : Text) :
      s.Sends format (.get i moduleId)
        (d.client.compose .get (d.memberPath moduleId) ∅ [] false)
  | list {i : Nat} {d : Device} (hd : s.devices[i]? = some d) :
      s.Sends format (.list i) (d.client.compose .get d.collectionPath ∅ [] false)
  | delete {i : Nat} {d : Device} (hd : s.devices[i]? = some d) (moduleId : Text) :
      s.Sends format (.delete i moduleId)
        (d.client.compose .delete (d.memberPath moduleId) ∅ [] true)

variable {format : DocumentFormat} {t : Traffic}

/-- **What a step can do.**  Either it is settled without an exchange, or it makes a call that repeats
one request, and then it leaves the clients and devices alone. -/
inductive Acts (s : Session) (format : DocumentFormat) (t : Traffic) (step : Step) : Effect → Prop
  | settles {outcome : Outcome} {s' : Session} (h : s.Becomes step outcome s') :
      s.Acts format t step ⟨outcome, s', t⟩
  | calls {α : Type} {c : Call α} {f : α → Answer} {q : Http.Request} (hq : s.Sends format step q)
      (hc : c.Repeats format q) (hf : ∀ a n, f a ≠ .index n) :
      s.Acts format t step (.call s t c f)

section Cases

variable {i : Nat} {α : Type} {f : α → Answer}

lemma Sends.not_isChange {q : Http.Request} (h : s.Sends format step q) : ¬step.IsChange := by
  cases h <;> exact id

lemma Step.ne_setTimeout (h : ¬step.IsChange) (i : Nat) (ms : Int) : step ≠ .setTimeout i ms := by
  rintro rfl
  exact h trivial

lemma acts_of_error (hstep : ¬step.IsChange) (f : Failure) : s.Acts format t step (.fail s t f) :=
  .settles (.failed f fun i ms h => absurd h (Step.ne_setTimeout hstep i ms))

lemma acts_withClient {go : Client → Effect} (hstep : ∀ j ms, step = .setTimeout j ms → j = i)
    (h : ∀ c, s.clients[i]? = some c → s.Acts format t step (go c)) :
    s.Acts format t step (s.withClient t i go) := by
  rw [withClient]
  cases hc : s.clients[i]? with
  | none => exact .settles (.failed _ fun j ms hj => hstep j ms hj ▸ hc)
  | some c => exact h c hc

lemma acts_withDevice {go : Device → Effect} (hstep : ¬step.IsChange)
    (h : ∀ d, s.devices[i]? = some d → s.Acts format t step (go d)) :
    s.Acts format t step (s.withDevice t i go) := by
  rw [withDevice]
  cases hd : s.devices[i]? with
  | none => exact acts_of_error hstep _
  | some d => exact h d hd

lemma ofOption_ne_index {expected : Expected} (document : Option expected.Document) (n : Nat) :
    Answer.ofOption document ≠ .index n := by
  cases document with
  | none => simp [Answer.ofOption]
  | some value =>
    cases expected with
    | nothing => cases value
    | identity => simp [Answer.ofOption, Answer.ofDocument]
    | identities => simp [Answer.ofOption, Answer.ofDocument]

lemma acts_exchange {c : Client} {method : Http.Method} {path : Text} {parameters : Table Text}
    {conditional : Bool} (hq : s.Sends format step (c.compose method path parameters [] conditional))
    {expected : Expected} (handler : Option (Handler expected.Document Text)) :
    s.Acts format t step
      (s.exchange t format c method path parameters conditional expected handler) := by
  cases handler with
  | none => exact .calls hq (Handler.repeats_run _) ofOption_ne_index
  | some h => exact .calls hq (Handler.repeats_run h) (by simp)

/-- An operation on a module whose identifier is blank is settled at once. -/
lemma acts_onModule {moduleId : Text} {c : Call α} (hstep : ¬step.IsChange)
    (h : s.Acts format t step (.call s t c f)) :
    s.Acts format t step (.call s t (Device.onModule moduleId c) f) := by
  rw [Device.onModule]
  split
  · exact acts_of_error hstep (.hub _)
  · exact h

/-- A document that cannot be written settles a creation or an update. -/
lemma acts_store {d : Device} {moduleId : Text} {authentication : Option AuthMechanism}
    {conditional : Bool} (hstep : ¬step.IsChange)
    (hq : ∀ body, format.writeIdentity (d.proposal moduleId authentication) = .ok body →
      s.Sends format step (d.client.compose .put (d.memberPath moduleId) ∅ body conditional)) :
    s.Acts format t step
      (.call s t (d.store format moduleId authentication conditional) .identity) := by
  refine acts_onModule hstep ?_
  split
  · exact acts_of_error hstep (.hub _)
  · rename_i body hbody
    exact .calls (hq body hbody) (Handler.repeats_run _) (by simp)

end Cases

/-- Every step does what a step can do: one case for each kind. -/
theorem acts_perform (s : Session) (format : DocumentFormat) (t : Traffic) (step : Step) :
    s.Acts format t step (s.perform format t step) := by
  cases step with
  | connect transport apiVersion baseUrl =>
    rw [perform]
    split
    · rename_i c hconnect
      obtain ⟨rfl, hmake⟩ := Client.connect_eq_ok_iff.1 hconnect
      obtain ⟨-, url, hurl, rfl⟩ := Client.make_eq_ok_iff.1 hmake
      exact .settles (.made (.connected hurl))
    · exact .settles (.failed _ (by simp))
    · exact .settles (.failed _ (by simp))
  | copy i => exact acts_withClient (by simp) fun c hc => .settles (.made (.copied hc))
  | setTimeout i ms =>
    refine acts_withClient (fun j ms' h => ?_) fun c hc => .settles (.retimed rfl hc)
    obtain ⟨rfl, -⟩ := Step.setTimeout.inj h
    rfl
  | describe i => exact acts_withClient (by simp) fun _ _ => .settles (.kept id (by simp))
  | url i path parameters => exact acts_withClient (by simp) fun _ _ => .settles (.kept id (by simp))
  | compose i method path parameters body conditional =>
    exact acts_withClient (by simp) fun _ _ => .settles (.kept id (by simp))
  | exchange q => exact .calls (.exchange q) Exchange.repeats_roundTrip (by simp)
  | request i method path parameters conditional expected reaction =>
    exact acts_withClient (by simp) fun c hc =>
      acts_exchange (.request hc method path parameters conditional expected reaction) _
  | handle i method path parameters conditional expected handler =>
    exact acts_withClient (by simp) fun c hc =>
      acts_exchange (.handle hc method path parameters conditional expected handler) _
  | device i id =>
    refine acts_withClient (by simp) fun c hc => ?_
    split
    · rename_i d hmake
      obtain ⟨-, rfl⟩ := Device.make_eq_ok_iff.1 hmake
      exact .settles (.attached rfl hc)
    · exact .settles (.failed _ (by simp))
  | create i moduleId authentication =>
    exact acts_withDevice id fun d hd => acts_store id fun _ => .create hd
  | update i moduleId authentication =>
    exact acts_withDevice id fun d hd => acts_store id fun _ => .update hd
  | get i moduleId =>
    exact acts_withDevice id fun d hd =>
      acts_onModule id (.calls (.get hd moduleId) (Handler.repeats_run _) (by simp))
  | list i =>
    exact acts_withDevice id fun d hd => .calls (.list hd) (Handler.repeats_run _) (by simp)
  | delete i moduleId =>
    exact acts_withDevice id fun d hd =>
      acts_onModule id (.calls (.delete hd moduleId) (Handler.repeats_run _) (by simp))
  | readMetrics => exact .settles (.kept id (by simp))

lemma Acts.becomes {e : Effect} (h : s.Acts format t step e) :
    s.Becomes step e.outcome e.session := by
  cases h with
  | settles h => exact h
  | @calls α c f q hq _ hf =>
    rw [Effect.call]
    cases (c t).1 with
    | error f => exact .failed _ fun i ms h => absurd h (Step.ne_setTimeout hq.not_isChange i ms)
    | ok a => exact .kept hq.not_isChange (hf a)

lemma Acts.sends {e : Effect} (h : s.Acts format t step e) {q : Http.Request}
    (hq : q ∈ e.traffic.sent) : q ∈ t.sent ∨ s.Sends format step q := by
  cases h with
  | settles => exact .inl hq
  | @calls α c f q' hsends hc =>
    rcases hc.sent hq with hq | rfl
    · exact .inl hq
    · exact .inr hsends

variable {turn : Turn}

/-- **A turn leaves the session behind that its outcome says**, up to what it counted. -/
lemma exists_becomes_step (s : Session) (format : DocumentFormat) (turn : Turn) :
    ∃ s', s.Becomes turn.step (s.step format turn).1.outcome s' ∧
      (s.step format turn).2 = { s' with metrics := (s.step format turn).2.metrics } :=
  ⟨_, (s.acts_perform format (s.traffic turn.replies) turn.step).becomes, rfl⟩

/-- **Every request of a turn was written by whom its step names.** -/
lemma sends_of_mem_sent {q : Http.Request} (hq : q ∈ (s.step format turn).1.sent) :
    s.Sends format turn.step q :=
  ((s.acts_perform format (s.traffic turn.replies) turn.step).sends hq).resolve_left
    List.not_mem_nil

/-! ## What a run leaves of a client or a device -/

/-- The timeout that a step sets for a client. -/
def Step.timeout? (i : Nat) : Step → Option Int
  | setTimeout j ms => if j = i then some ms else none
  | _ => none

/-- The last timeout that turns set for a client. -/
def lastTimeout (i : Nat) (turns : List Turn) : Option Int :=
  (turns.filterMap (·.step.timeout? i)).getLast?

lemma lastTimeout_cons (i : Nat) (turn : Turn) (r : List Turn) :
    lastTimeout i (turn :: r) = (lastTimeout i r).or (turn.step.timeout? i) := by
  rw [lastTimeout, lastTimeout, List.filterMap_cons]
  cases turn.step.timeout? i with
  | none => rw [Option.or_none]
  | some ms =>
    rw [List.getLast?_cons]
    cases (r.filterMap (·.step.timeout? i)).getLast? <;> rfl

lemma Step.timeout?_of_not_isChange (h : ¬step.IsChange) (i : Nat) : step.timeout? i = none := by
  cases step with
  | setTimeout j ms => exact absurd trivial h
  | _ => rfl

lemma Makes.timeout? {c : Client} (h : s.Makes step c) (i : Nat) : step.timeout? i = none := by
  cases h <;> rfl

/-- A client stays as it is, but for a timeout that the step sets for it. -/
lemma Becomes.getElem?_clients (h : s.Becomes step outcome s') {i : Nat} {c : Client}
    (hc : s.clients[i]? = some c) :
    s'.clients[i]? = some { c with timeoutMs := (step.timeout? i).getD c.timeoutMs } := by
  have hi : i < s.clients.length := (List.getElem?_eq_some_iff.1 hc).1
  cases h with
  | made hmakes =>
    rw [hmakes.timeout?, Option.getD_none]
    exact (List.getElem?_append_left hi).trans hc
  | @retimed j ms c' hstep hc' =>
    subst hstep
    show (s.clients.set j (c'.withTimeout ms))[i]? = _
    by_cases hji : j = i
    · subst hji
      obtain rfl : c' = c := Option.some.inj (hc'.symm.trans hc)
      rw [List.getElem?_set_self hi, Step.timeout?, if_pos rfl]
      rfl
    · rw [List.getElem?_set_ne hji, hc, Step.timeout?, if_neg hji]
      rfl
  | attached hstep =>
    subst hstep
    exact hc
  | failed f hnone =>
    cases step with
    | setTimeout j ms =>
      -- the client is there, so a step that sets its timeout cannot have failed
      have hji : j ≠ i := by
        rintro rfl
        rw [hnone j ms rfl] at hc
        cases hc
      rw [Step.timeout?, if_neg hji]
      exact hc
    | _ => exact hc
  | kept hstep =>
    rw [Step.timeout?_of_not_isChange hstep]
    exact hc

lemma Becomes.getElem?_devices (h : s.Becomes step outcome s') {j : Nat} {d : Device}
    (hd : s.devices[j]? = some d) : s'.devices[j]? = some d := by
  have hj : j < s.devices.length := (List.getElem?_eq_some_iff.1 hd).1
  cases h with
  | attached => exact (List.getElem?_append_left hj).trans hd
  | _ => exact hd

lemma Becomes.logger (h : s.Becomes step outcome s') : s'.logger = s.logger := by
  cases h <;> rfl

lemma Becomes.eq_of_error {f : Failure} (h : s.Becomes step outcome s')
    (hf : outcome = .error f) : s' = s := by
  cases h with
  | failed => rfl
  | _ => cases hf

/-- Only what makes a client answers with an index, which is that of the client. -/
lemma Becomes.exists_made {i : Nat} (h : s.Becomes step outcome s')
    (hi : outcome = .ok (.index i)) : ∃ c, s.Makes step c ∧ s'.clients[i]? = some c := by
  cases h with
  | @made c hmakes =>
    obtain rfl : s.clients.length = i := Answer.index.inj (Except.ok.inj hi)
    exact ⟨c, hmakes, List.getElem?_concat_length⟩
  | kept _ ha => exact absurd (Except.ok.inj hi) (ha i)
  | _ => cases hi

lemma Becomes.exists_attached {i : Nat} {id : Text} {answer : Answer}
    (h : s.Becomes step outcome s') (hstep : step = .device i id)
    (ha : outcome = .ok answer) :
    ∃ c, s.clients[i]? = some c ∧ s'.devices[s.devices.length]? = some ⟨c, id⟩ := by
  subst hstep
  cases h with
  | made hmakes => cases hmakes
  | retimed hstep => cases hstep
  | @attached i' id' c hstep hc =>
    obtain ⟨rfl, rfl⟩ := Step.device.inj hstep
    exact ⟨c, hc, List.getElem?_concat_length⟩
  | failed => cases ha
  | kept hkept => exact absurd trivial hkept

/-- **A client keeps all but its timeout through a run**, and of the timeouts set for it the last
counts. -/
lemma getElem?_clients_after (format : DocumentFormat) (turns : List Turn) {i : Nat} {c : Client}
    (hc : s.clients[i]? = some c) :
    (s.after format turns).clients[i]? =
      some { c with timeoutMs := (lastTimeout i turns).getD c.timeoutMs } := by
  induction turns generalizing s c with
  | nil => exact hc
  | cons turn r ih =>
    obtain ⟨s', hbecomes, hs'⟩ := s.exists_becomes_step format turn
    have hnext : (s.step format turn).2.clients[i]? =
        some { c with timeoutMs := (turn.step.timeout? i).getD c.timeoutMs } := by
      rw [hs']
      exact hbecomes.getElem?_clients hc
    rw [after_cons, ih hnext, lastTimeout_cons]
    cases lastTimeout i r <;> rfl

lemma getElem?_devices_after (format : DocumentFormat) (turns : List Turn) {j : Nat} {d : Device}
    (hd : s.devices[j]? = some d) : (s.after format turns).devices[j]? = some d := by
  induction turns generalizing s with
  | nil => exact hd
  | cons turn r ih =>
    obtain ⟨s', hbecomes, hs'⟩ := s.exists_becomes_step format turn
    have hnext : (s.step format turn).2.devices[j]? = some d := by
      rw [hs']
      exact hbecomes.getElem?_devices hd
    exact ih hnext

/-! ## Independence -/

/-- The client through which a step sends requests, and the path and parameters that it asks for. -/
def Step.clientTarget? : Step → Option (Nat × Text × Table Text)
  | request i _ path parameters .. => some (i, path, parameters)
  | handle i _ path parameters .. => some (i, path, parameters)
  | _ => none

/-- The device through which a step sends requests, and the path that it asks for. -/
def Step.deviceTarget? : Step → Option (Nat × (Device → Text))
  | create i moduleId _ => some (i, (·.memberPath moduleId))
  | update i moduleId _ => some (i, (·.memberPath moduleId))
  | get i moduleId => some (i, (·.memberPath moduleId))
  | list i => some (i, Device.collectionPath)
  | delete i moduleId => some (i, (·.memberPath moduleId))
  | _ => none

lemma Step.head?_deviceTarget {j : Nat} {path : Device → Text}
    (h : step.deviceTarget? = some (j, path)) (d : Device) :
    (path d).head? = some '/'.toUInt8 := by
  cases step <;> cases h <;> rfl

lemma Sends.of_clientTarget? {q : Http.Request} (h : s.Sends format step q) {i : Nat} {path : Text}
    {parameters : Table Text} (ht : step.clientTarget? = some (i, path, parameters)) :
    ∃ c, s.clients[i]? = some c ∧ q.url = c.url path parameters ∧ q.timeoutMs = c.timeoutMs := by
  cases h with
  | request hc => cases ht; exact ⟨_, hc, rfl, rfl⟩
  | handle hc => cases ht; exact ⟨_, hc, rfl, rfl⟩
  | _ => cases ht

lemma Sends.of_deviceTarget? {q : Http.Request} (h : s.Sends format step q) {j : Nat}
    {path : Device → Text} (ht : step.deviceTarget? = some (j, path)) :
    ∃ d, s.devices[j]? = some d ∧ q.url = d.client.url (path d) ∧
      q.timeoutMs = d.client.timeoutMs := by
  cases h with
  | create hd => cases ht; exact ⟨_, hd, rfl, rfl⟩
  | update hd => cases ht; exact ⟨_, hd, rfl, rfl⟩
  | get hd => cases ht; exact ⟨_, hd, rfl, rfl⟩
  | list hd => cases ht; exact ⟨_, hd, rfl, rfl⟩
  | delete hd => cases ht; exact ⟨_, hd, rfl, rfl⟩
  | _ => cases ht

/-- **Clients and devices are independent values.**  Let a turn make a client or a device, let any
turns follow, and then one that sends requests through what was made.

* A client keeps the version and the base address with which it was constructed, or those of the
  client of which it is a copy.  Its requests are addressed to this base address and ask for this
  version, and they wait as long as was last set for it since then, or else as long as it was made to
  wait.
* A device keeps the client that it was made of as that was at the time.  Its requests are addressed to
  the base address of that client, ask for its version and wait as long as it did, whatever becomes of
  the client.
* A turn that fails makes nothing and changes nothing. -/
theorem values_are_independent (s : Session) (format : DocumentFormat) (made : Turn)
    (between : List Turn) (used : Turn) :
    let report := (s.step format made).1
    let s₁ := (s.step format made).2
    let s₂ := s₁.after format between
    let sent := (s₂.step format used).1.sent
    (∀ i, report.outcome = .ok (.index i) →
      ∃ c, s.Makes made.step c ∧ s₁.clients[i]? = some c ∧
        let timeoutMs := (lastTimeout i between).getD c.timeoutMs
        s₂.clients[i]? = some { c with timeoutMs := timeoutMs } ∧
        ∀ path parameters, used.step.clientTarget? = some (i, path, parameters) →
          ∀ q ∈ sent,
            q.url = c.baseUrl.text ++ Client.rooted path ++
              ascii "?api-version=" ++ encode c.apiVersion ++
              (parameters.toList.flatMap fun p =>
                ascii "&" ++ encode p.1 ++ ascii "=" ++ encode p.2) ∧
            q.timeoutMs = timeoutMs) ∧
    (∀ i id answer, made.step = .device i id → report.outcome = .ok answer →
      ∃ c, s.clients[i]? = some c ∧ s₂.devices[s.devices.length]? = some ⟨c, id⟩ ∧
        ∀ path, used.step.deviceTarget? = some (s.devices.length, path) →
          ∀ q ∈ sent,
            q.url = c.baseUrl.text ++ path ⟨c, id⟩ ++
              ascii "?api-version=" ++ encode c.apiVersion ∧
            q.timeoutMs = c.timeoutMs) ∧
    (∀ f, report.outcome = .error f → s₁.clients = s.clients ∧ s₁.devices = s.devices) := by
  intro report s₁ s₂ sent
  obtain ⟨s', hbecomes, hs₁⟩ := s.exists_becomes_step format made
  have hclients : s₁.clients = s'.clients := congrArg (·.clients) hs₁
  have hdevices : s₁.devices = s'.devices := congrArg (·.devices) hs₁
  refine ⟨fun i hi => ?_, fun i id answer hmade hanswer => ?_, fun f hf => ?_⟩
  · obtain ⟨c, hmakes, hc⟩ : ∃ c, s.Makes made.step c ∧ s₁.clients[i]? = some c := by
      rw [hclients]
      exact hbecomes.exists_made hi
    have hlater := getElem?_clients_after format between hc
    refine ⟨c, hmakes, hc, hlater, fun path parameters htarget q hq => ?_⟩
    obtain ⟨c', hc', hurl, htimeout⟩ := (sends_of_mem_sent hq).of_clientTarget? htarget
    obtain rfl := Option.some.inj (hlater.symm.trans hc')
    exact ⟨hurl.trans (Client.url_parts _ path parameters), htimeout⟩
  · obtain ⟨c, hc, hd⟩ : ∃ c, s.clients[i]? = some c ∧
        s₁.devices[s.devices.length]? = some ⟨c, id⟩ := by
      rw [hdevices]
      exact hbecomes.exists_attached hmade hanswer
    have hlater := getElem?_devices_after format between hd
    refine ⟨c, hc, hlater, fun path htarget q hq => ?_⟩
    obtain ⟨d, hd', hurl, htimeout⟩ := (sends_of_mem_sent hq).of_deviceTarget? htarget
    obtain rfl := Option.some.inj (hlater.symm.trans hd')
    exact ⟨hurl.trans (Client.url_of_slash c (Step.head?_deviceTarget htarget _)), htimeout⟩
  · rw [hclients, hdevices, hbecomes.eq_of_error hf]
    exact ⟨rfl, rfl⟩

/-- A copy of a client, whose own timeout is set twice, and a device of the same client, which is then
made to wait less: the copy waits as was set last, and the device as the client did at first.  Both ask
the hub of the client for its version.  Without a transport nothing is made. -/
theorem values_are_independent_copy :
    let c : Client := ⟨ascii "v", ⟨.https, ascii "hub"⟩, 100⟩
    let s : Session := { clients := [c] }
    let between : List Turn := [⟨.setTimeout 1 50, []⟩, ⟨.setTimeout 0 7, []⟩, ⟨.setTimeout 1 60, []⟩]
    let ask : Turn :=
      ⟨.request 1 .get (ascii "a") (.ofList [(ascii "k", ascii "x y")]) false .nothing none, []⟩
    let list : Turn := ⟨.list 0, []⟩
    let copied := (s.step .none ⟨.copy 0, []⟩).2
    let attached := (s.step .none ⟨.device 0 (ascii "edge"), []⟩).2
    (∃ q ∈ ((copied.after .none between).step .none ask).1.sent,
      q.url = ascii "https://hub/a?api-version=v&k=x%20y" ∧ q.timeoutMs = 60) ∧
    (∃ q ∈ ((attached.after .none between).step .none list).1.sent,
      q.url = ascii "https://hub/devices/edge/modules?api-version=v" ∧ q.timeoutMs = 100) ∧
    (s.step .none ⟨.connect false (ascii "v") (ascii "https://hub"), []⟩).2.clients = [c] := by
  intro c s between ask list copied attached
  obtain ⟨c₁, -, hc₁, -, hask⟩ :=
    (values_are_independent s .none ⟨.copy 0, []⟩ between ask).1 1 rfl
  obtain rfl : c = c₁ := Option.some.inj hc₁
  obtain ⟨c₂, hc₂, -, hlist⟩ :=
    (values_are_independent s .none ⟨.device 0 (ascii "edge"), []⟩ between list).2.1 0 _ _ rfl rfl
  obtain rfl : c = c₂ := Option.some.inj hc₂
  have hfailed := (values_are_independent s .none
    ⟨.connect false (ascii "v") (ascii "https://hub"), []⟩ between ask).2.2 .noTransport rfl
  obtain ⟨haddress, hwaits⟩ := hask _ _ rfl _ List.mem_cons_self
  obtain ⟨haddress', hwaits'⟩ := hlist _ rfl _ List.mem_cons_self
  exact ⟨⟨_, List.mem_cons_self, haddress.trans (by decide), hwaits⟩,
    ⟨_, List.mem_cons_self, haddress'.trans (by decide), hwaits'⟩, hfailed.1⟩

end Session

end ModuleRegistry
