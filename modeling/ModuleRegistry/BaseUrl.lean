import ModuleRegistry.HubError

/-!
# Base addresses

Every request goes to an address below a hub's base address, which has the form
`http(s)://host[:port][/path]`.  `BaseUrl.parse` accepts a text of this form after removing the
blanks around it, and drops the slashes at its end; the slashes of the scheme are never dropped.

A rejected address has one of three flaws, looked for in this order: no known scheme, a query or a
fragment, nothing where the host should be.
-/

namespace ModuleRegistry

open Text (ascii)

/-- The schemes that an address may have. -/
inductive Scheme where
  | http
  | https
deriving DecidableEq

namespace Scheme

/-- A scheme as it stands in an address, up to the host. -/
def text : Scheme → Text
  | http => ascii "http://"
  | https => ascii "https://"

/-- The scheme with which an address begins, and the rest of the address. -/
def split? (s : Text) : Option (Scheme × Text) :=
  match https.text.isPrefixOf? s with
  | some r => some (https, r)
  | none => (http.text.isPrefixOf? s).map fun r => (http, r)

end Scheme

/-- A base address: its scheme and all that follows. -/
structure BaseUrl where
  scheme : Scheme
  rest : Text
deriving DecidableEq

namespace BaseUrl

/-- A base address as it is written before a path. -/
def text (u : BaseUrl) : Text := u.scheme.text ++ u.rest

/-- Why a base address is rejected. -/
inductive Flaw where
  | scheme
  | queryOrFragment
  | host
deriving DecidableEq

/-- What is said about a flaw, before the rejected text. -/
def Flaw.message : Flaw → Text
  | scheme => ascii "Base URL must start with http:// or https://: "
  | queryOrFragment => ascii "Base URL must not carry a query or fragment: "
  | host => ascii "Base URL has no host: "

/-- Whether a byte begins a query or a fragment. -/
def beginsSuffix (b : UInt8) : Bool := b == '?'.toUInt8 || b == '#'.toUInt8

/-- Whether a byte is dropped at the end of an address. -/
def isSlash (b : UInt8) : Bool := b == '/'.toUInt8

/-- The base address that a text gives, or its first flaw. -/
def parse (raw : Text) : Except Flaw BaseUrl :=
  match Scheme.split? (Text.trim raw) with
  | none => .error .scheme
  | some (scheme, tail) =>
    if tail.any beginsSuffix then .error .queryOrFragment
    else
      let rest := Text.dropEnd isSlash tail
      if rest.head?.all isSlash then .error .host else .ok ⟨scheme, rest⟩

/-- What an accepted text looks like: a scheme, then a tail without query or fragment that does not
begin with a slash once the slashes at its end are gone. -/
theorem of_parse_eq_ok {raw : Text} {u : BaseUrl} (h : parse raw = .ok u) :
    ∃ tail, Scheme.split? (Text.trim raw) = some (u.scheme, tail) ∧
      tail.any beginsSuffix = false ∧ u.rest = Text.dropEnd isSlash tail ∧
      u.rest.head?.all isSlash = false := by
  unfold parse at h
  split at h
  · contradiction
  · next scheme tail hsplit =>
    by_cases hsuffix : tail.any beginsSuffix = true
    · rw [if_pos hsuffix] at h
      contradiction
    · rw [if_neg hsuffix] at h
      by_cases hhost : (Text.dropEnd isSlash tail).head?.all isSlash = true
      · simp only [hhost, if_true] at h
        contradiction
      · simp only [hhost, Bool.false_eq_true, if_false] at h
        obtain rfl := Except.ok.inj h
        exact ⟨tail, hsplit, by simpa using hsuffix, rfl, by simpa using hhost⟩

end BaseUrl

/-- A base address was rejected for a flaw; the message quotes it as it was given. -/
def HubError.invalidUrl (flaw : BaseUrl.Flaw) (raw : Text) : HubError where
  kind := .invalidUrl
  message := flaw.message ++ raw

namespace BaseUrl

example : parse (ascii " https://hub.example/a//\n") = .ok ⟨.https, ascii "hub.example/a"⟩ := by
  rfl
example : parse (ascii "https:///a?") = .error .queryOrFragment := by rfl
example : parse (ascii "http:////") = .error .host := by rfl
example : parse (ascii "HTTP://hub") = .error .scheme := by rfl

end BaseUrl

end ModuleRegistry
