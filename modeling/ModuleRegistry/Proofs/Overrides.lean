import ModuleRegistry.Config
import ModuleRegistry.Proofs.LastWriter

/-!
# Environments one after the other

A configuration may be put under several environments in turn.  A variable that is unset or empty in
one of them leaves the configuration as the one before has made it, so each of the two settings that
have a variable ends as the last environment that gives this variable says (`Config.GivenLast`), and
all other settings end as they were.

Both settings follow one rule, `Config.Follows`, which says what a single environment does; everything
about sequences comes from it.

Main statement: `Config.underAll_settles`.
-/

namespace ModuleRegistry.Config

open Text (ascii)

/-! ## Variables -/

/-- A variable is set, and not to the empty text. -/
def Given (v : Option Text) : Prop := ∃ t, t ≠ [] ∧ v = some t

/-- Of the environments that give a variable, the last one says `t`. -/
def GivenLast (var : Environment → Option Text) (es : List Environment) (t : Text) : Prop :=
  ∃ e, LastWith (Given <| var ·) es e ∧ var e = some t

/-- Two sequences of environments have the same last text of a variable, or both have none. -/
def SameLast (var : Environment → Option Text) (es es' : List Environment) : Prop :=
  ((∀ e ∈ es, ¬Given (var e)) ∧ ∀ e ∈ es', ¬Given (var e)) ∨
    ∃ t, GivenLast var es t ∧ GivenLast var es' t

lemma nonempty_some {t : Text} (h : t ≠ []) : nonempty (some t) = some t := by
  obtain ⟨b, r, rfl⟩ := List.exists_cons_of_ne_nil h
  rfl

lemma nonempty_of_not_given {v : Option Text} (h : ¬Given v) : nonempty v = none := by
  rcases v with _ | _ | ⟨b, r⟩
  · rfl
  · rfl
  · exact absurd ⟨b :: r, by simp, rfl⟩ h

/-! ## One rule for both settings -/

/-- A setting follows a variable: an environment that gives the variable determines the setting by
`make`, and any other leaves it. -/
def Follows (read : Config → Text) (var : Environment → Option Text) (make : Text → Text) : Prop :=
  ∀ c e, read (c.under e) = ((nonempty (var e)).map make).getD (read c)

lemma baseUrl_follows : Follows (·.baseUrl) (·.hostname) (ascii "https://" ++ ·) := fun _ _ => rfl

lemma deviceId_follows : Follows (·.deviceId) (·.deviceId) id := fun _ _ => by
  rw [Option.map_id_fun, id]
  rfl

namespace Follows

variable {read : Config → Text} {var : Environment → Option Text} {make : Text → Text}
variable {es es' : List Environment}

lemma under_of_given (h : Follows read var make) (c : Config) {e : Environment}
    (hgiven : Given (var e)) : read (c.under e) = make ((var e).getD []) := by
  obtain ⟨t, hne, ht⟩ := hgiven
  rw [h c e, ht, nonempty_some hne]
  rfl

lemma under_of_not_given (h : Follows read var make) (c : Config) {e : Environment}
    (hgiven : ¬Given (var e)) : read (c.under e) = read c := by
  rw [h c e, nonempty_of_not_given hgiven]
  rfl

lemma underAll_of_givenLast (h : Follows read var make) (c : Config) {t : Text}
    (hlast : GivenLast var es t) : read (c.underAll es) = make t := by
  obtain ⟨e, he, hvar⟩ := hlast
  calc read (c.underAll es) = make ((var e).getD []) :=
        he.read_foldl read (fun c _ => h.under_of_given c) (fun c _ => h.under_of_not_given c) c
    _ = make t := by rw [hvar, Option.getD_some]

lemma underAll_of_forall_not_given (h : Follows read var make) (c : Config)
    (hnone : ∀ e ∈ es, ¬Given (var e)) : read (c.underAll es) = read c :=
  read_foldl_of_forall_not read (fun c _ => h.under_of_not_given c) c hnone

/-- A setting does not depend on anything but the last text that its variable was given. -/
lemma underAll_congr (h : Follows read var make) (c : Config) (hsame : SameLast var es es') :
    read (c.underAll es) = read (c.underAll es') := by
  rcases hsame with ⟨hnone, hnone'⟩ | ⟨t, ht, ht'⟩
  · rw [h.underAll_of_forall_not_given c hnone, h.underAll_of_forall_not_given c hnone']
  · rw [h.underAll_of_givenLast c ht, h.underAll_of_givenLast c ht']

end Follows

/-! ## Sequences of environments -/

/-- Environments change no settings but those that have a variable. -/
lemma underAll_eq (c : Config) (es : List Environment) :
    c.underAll es =
      { c with baseUrl := (c.underAll es).baseUrl, deviceId := (c.underAll es).deviceId } := by
  induction es generalizing c with
  | nil => rfl
  | cons e es ih => exact ih (c.under e)

lemma under_under (c : Config) (e : Environment) : (c.under e).under e = c.under e := by
  rw [under, under]
  cases nonempty e.hostname <;> cases nonempty e.deviceId <;> rfl

/-- **Each setting that has a variable ends as the last environment that gives it says.**

* The base address is `https://` with the last host name that was given, and the device is the last one
  that was given.  Where none was given, the setting is unchanged, whatever the other variable did.
* No other setting changes.
* The same environment once more changes nothing.
* Sequences in which a variable was given the same text last end with the same setting; if this is so
  for both variables, they end with the same configuration. -/
theorem underAll_settles (c : Config) (es : List Environment) :
    (∀ host, GivenLast (·.hostname) es host →
      (c.underAll es).baseUrl = ascii "https://" ++ host) ∧
    ((∀ e ∈ es, ¬Given e.hostname) → (c.underAll es).baseUrl = c.baseUrl) ∧
    (∀ device, GivenLast (·.deviceId) es device → (c.underAll es).deviceId = device) ∧
    ((∀ e ∈ es, ¬Given e.deviceId) → (c.underAll es).deviceId = c.deviceId) ∧
    c.underAll es =
      { c with baseUrl := (c.underAll es).baseUrl, deviceId := (c.underAll es).deviceId } ∧
    (∀ e, ((c.underAll es).under e).under e = (c.underAll es).under e) ∧
    ∀ es', (SameLast (·.hostname) es es' → (c.underAll es).baseUrl = (c.underAll es').baseUrl) ∧
      (SameLast (·.deviceId) es es' → (c.underAll es).deviceId = (c.underAll es').deviceId) ∧
      (SameLast (·.hostname) es es' → SameLast (·.deviceId) es es' →
        c.underAll es = c.underAll es') := by
  refine ⟨fun host h => baseUrl_follows.underAll_of_givenLast c h,
    baseUrl_follows.underAll_of_forall_not_given c,
    fun device h => deviceId_follows.underAll_of_givenLast c h,
    deviceId_follows.underAll_of_forall_not_given c, underAll_eq c es, under_under _,
    fun es' => ⟨baseUrl_follows.underAll_congr c, deviceId_follows.underAll_congr c,
      fun hhost hdevice => ?_⟩⟩
  have hbase : (c.underAll es).baseUrl = (c.underAll es').baseUrl :=
    baseUrl_follows.underAll_congr c hhost
  have hid : (c.underAll es).deviceId = (c.underAll es').deviceId :=
    deviceId_follows.underAll_congr c hdevice
  rw [underAll_eq c es, underAll_eq c es', hbase, hid]

/-- Variables that are unset or empty at the end win over nothing.  The same texts in the other order of
variables, and after others that are overridden, give the same configuration. -/
theorem underAll_settles_stale :
    let c : Config := { deviceId := ascii "file" }
    let hosts : List Environment := [{ hostname := some (ascii "a") }, { hostname := some [] }]
    let es := hosts ++ [{ deviceId := some (ascii "d") }]
    let es' : List Environment :=
      [{ hostname := some (ascii "b"), deviceId := some (ascii "d") }, { hostname := some (ascii "a") }]
    GivenLast (·.hostname) es (ascii "a") ∧ (c.underAll es).baseUrl = ascii "https://a" ∧
    GivenLast (·.deviceId) es (ascii "d") ∧ (c.underAll es).deviceId = ascii "d" ∧
    (∀ e ∈ hosts, ¬Given e.deviceId) ∧ (c.underAll hosts).deviceId = ascii "file" ∧
    (∀ e ∈ es.drop 1, ¬Given e.hostname) ∧ (c.underAll (es.drop 1)).baseUrl = c.baseUrl ∧
    SameLast (·.hostname) es es' ∧ SameLast (·.deviceId) es es' ∧
    c.underAll es = c.underAll es' := by
  intro c hosts es es'
  have hunset : ¬Given none := by simp [Given]
  have hempty : ¬Given (some []) := by simp [Given]
  have hgiven (b : UInt8) (r : Text) : Given (some (b :: r)) := ⟨b :: r, by simp, rfl⟩
  have hhost : GivenLast (·.hostname) es (ascii "a") :=
    ⟨_, ⟨[], es.drop 1, rfl, hgiven _ _, by simp [es, hosts, hunset, hempty]⟩, rfl⟩
  have hdevice : GivenLast (·.deviceId) es (ascii "d") :=
    ⟨_, ⟨hosts, [], rfl, hgiven _ _, by simp⟩, rfl⟩
  have hhost' : GivenLast (·.hostname) es' (ascii "a") :=
    ⟨_, ⟨es'.take 1, [], rfl, hgiven _ _, by simp⟩, rfl⟩
  have hdevice' : GivenLast (·.deviceId) es' (ascii "d") :=
    ⟨_, ⟨[], es'.drop 1, rfl, hgiven _ _, by simp [es', hunset]⟩, rfl⟩
  have hsame : SameLast (·.hostname) es es' := .inr ⟨_, hhost, hhost'⟩
  have hsame' : SameLast (·.deviceId) es es' := .inr ⟨_, hdevice, hdevice'⟩
  have hnone : ∀ e ∈ hosts, ¬Given e.deviceId := by simp [hosts, hunset]
  have hnone' : ∀ e ∈ es.drop 1, ¬Given e.hostname := by simp [es, hosts, hunset, hempty]
  obtain ⟨hbase, -, hid, -, -, -, hcongr⟩ := underAll_settles c es
  exact ⟨hhost, hbase _ hhost, hdevice, hid _ hdevice,
    hnone, (underAll_settles c hosts).2.2.2.1 hnone,
    hnone', (underAll_settles c (es.drop 1)).2.1 hnone',
    hsame, hsame', (hcongr es').2.2 hsame hsame'⟩

end ModuleRegistry.Config
