import ModuleRegistry.Text.Basic

/-!
# Module identities

The registry keeps one identity for each module of a device.  Every field of an identity may be
absent, and an absent field differs from an empty one.  Identities are compared field by field, at every
level of nesting.

A `Change` sets one field; `Identity.ofChanges` builds an identity from a list of them.
-/

namespace ModuleRegistry

open Text (ascii)

/-- How a module proves who it is. -/
inductive AuthType where
  | none
  | sas
  | selfSigned
  | certificateAuthority
deriving DecidableEq

/-- A type as it stands in a document. -/
def AuthType.name : AuthType → Text
  | none => ascii "none"
  | sas => ascii "sas"
  | selfSigned => ascii "selfSigned"
  | certificateAuthority => ascii "certificateAuthority"

/-- The keys of a module that authenticates with a shared secret. -/
@[ext] structure SymmetricKey where
  primary : Option Text := .none
  secondary : Option Text := .none
deriving DecidableEq

/-- Keys are compared field by field. -/
def SymmetricKey.beq (a b : SymmetricKey) : Bool :=
  a.primary == b.primary && a.secondary == b.secondary

instance : BEq SymmetricKey := ⟨SymmetricKey.beq⟩

instance : LawfulBEq SymmetricKey where
  eq_of_beq {a b} h := by
    change SymmetricKey.beq a b = true at h
    simp only [SymmetricKey.beq, Bool.and_eq_true, beq_iff_eq] at h
    exact SymmetricKey.ext h.1 h.2
  rfl {a} := by
    show SymmetricKey.beq a a = true
    simp [SymmetricKey.beq]

/-- The thumbprints of the certificates with which a module authenticates. -/
@[ext] structure X509Thumbprint where
  primary : Option Text := .none
  secondary : Option Text := .none
deriving DecidableEq

/-- Thumbprints are compared field by field. -/
def X509Thumbprint.beq (a b : X509Thumbprint) : Bool :=
  a.primary == b.primary && a.secondary == b.secondary

instance : BEq X509Thumbprint := ⟨X509Thumbprint.beq⟩

instance : LawfulBEq X509Thumbprint where
  eq_of_beq {a b} h := by
    change X509Thumbprint.beq a b = true at h
    simp only [X509Thumbprint.beq, Bool.and_eq_true, beq_iff_eq] at h
    exact X509Thumbprint.ext h.1 h.2
  rfl {a} := by
    show X509Thumbprint.beq a a = true
    simp [X509Thumbprint.beq]

/-- How a module authenticates: the type says which of the other fields counts. -/
@[ext] structure AuthMechanism where
  type : Option AuthType := .none
  symmetricKey : Option SymmetricKey := .none
  x509Thumbprint : Option X509Thumbprint := .none
deriving DecidableEq

/-- Mechanisms are compared field by field, an absent part being equal to an absent one only. -/
def AuthMechanism.beq (a b : AuthMechanism) : Bool :=
  a.type == b.type && a.symmetricKey == b.symmetricKey && a.x509Thumbprint == b.x509Thumbprint

instance : BEq AuthMechanism := ⟨AuthMechanism.beq⟩

instance : LawfulBEq AuthMechanism where
  eq_of_beq {a b} h := by
    change AuthMechanism.beq a b = true at h
    simp only [AuthMechanism.beq, Bool.and_eq_true, beq_iff_eq] at h
    obtain ⟨⟨htype, hkey⟩, hthumbprint⟩ := h
    exact AuthMechanism.ext htype hkey hthumbprint
  rfl {a} := by
    show AuthMechanism.beq a a = true
    simp [AuthMechanism.beq]

/-- A module identity.  The hub assigns the generation and the manager. -/
@[ext] structure Identity where
  deviceId : Option Text := .none
  moduleId : Option Text := .none
  generationId : Option Text := .none
  managedBy : Option Text := .none
  authentication : Option AuthMechanism := .none
deriving DecidableEq

namespace Identity

/-- Identities are compared field by field. -/
def beq (a b : Identity) : Bool :=
  a.deviceId == b.deviceId && a.moduleId == b.moduleId && a.generationId == b.generationId &&
    a.managedBy == b.managedBy && a.authentication == b.authentication

instance : BEq Identity := ⟨beq⟩

instance : LawfulBEq Identity where
  eq_of_beq {a b} h := by
    change beq a b = true at h
    simp only [beq, Bool.and_eq_true, beq_iff_eq] at h
    obtain ⟨⟨⟨⟨hdevice, hmodule⟩, hgeneration⟩, hmanager⟩, hauthentication⟩ := h
    exact Identity.ext hdevice hmodule hgeneration hmanager hauthentication
  rfl {a} := by
    show beq a a = true
    simp [beq]

/-! ## Changes -/

/-- One field of an identity that is given a value. -/
inductive Change where
  | deviceId (value : Text)
  | moduleId (value : Text)
  | generationId (value : Text)
  | managedBy (value : Text)
  | authentication (value : AuthMechanism)
deriving DecidableEq

/-- An identity with a field changed; the others stay as they are. -/
def apply (i : Identity) : Change → Identity
  | .deviceId v => { i with deviceId := some v }
  | .moduleId v => { i with moduleId := some v }
  | .generationId v => { i with generationId := some v }
  | .managedBy v => { i with managedBy := some v }
  | .authentication a => { i with authentication := some a }

/-- The identity that a list of changes builds, in order, from one without fields. -/
def ofChanges (changes : List Change) : Identity := changes.foldl apply {}

@[simp] theorem ofChanges_nil : ofChanges [] = {} := rfl

/-- The values that an identity takes on after each of a list of changes. -/
def states (i : Identity) : List Change → List Identity
  | [] => []
  | c :: r => i.apply c :: states (i.apply c) r

end Identity

end ModuleRegistry
