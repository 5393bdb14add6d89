import Mathlib.Data.Option.Basic
import ModuleRegistry.Identity
import ModuleRegistry.Proofs.LastWriter

/-!
# Comparing identities

Identities are compared field by field, down to the single key.  `AuthMechanism.Agrees` says what a
comparison is meant to find out, without the comparison: at every level a field is absent on both sides,
or present on both with contents that agree.

An identity that was built by changes shows, of each field, the change that set it last
(`Identity.written`).  Two built identities are therefore equal if their changes settle each field
alike, whatever else was set before and in whatever order.

Main statement: `Identity.built_equal_iff`.
-/

namespace ModuleRegistry

/-! ## Agreement -/

lemma rel_iff_eq {α : Type} {R : α → α → Prop} (h : ∀ a b, R a b ↔ a = b) {o o' : Option α} :
    Option.Rel R o o' ↔ o = o' := by
  cases o <;> cases o' <;> simp [h]

lemma rel_eq_iff_eq {α : Type} {o o' : Option α} : Option.Rel (· = ·) o o' ↔ o = o' :=
  rel_iff_eq fun _ _ => .rfl

/-- Keys agree in presence and content. -/
structure SymmetricKey.Agrees (a b : SymmetricKey) : Prop where
  primary : Option.Rel (· = ·) a.primary b.primary
  secondary : Option.Rel (· = ·) a.secondary b.secondary

/-- Thumbprints agree in presence and content. -/
structure X509Thumbprint.Agrees (a b : X509Thumbprint) : Prop where
  primary : Option.Rel (· = ·) a.primary b.primary
  secondary : Option.Rel (· = ·) a.secondary b.secondary

/-- Mechanisms agree in presence and content, at every level of nesting. -/
structure AuthMechanism.Agrees (a b : AuthMechanism) : Prop where
  type : Option.Rel (· = ·) a.type b.type
  symmetricKey : Option.Rel SymmetricKey.Agrees a.symmetricKey b.symmetricKey
  x509Thumbprint : Option.Rel X509Thumbprint.Agrees a.x509Thumbprint b.x509Thumbprint

lemma SymmetricKey.agrees_iff_eq (a b : SymmetricKey) : a.Agrees b ↔ a = b := by
  rw [SymmetricKey.ext_iff, ← rel_eq_iff_eq, ← rel_eq_iff_eq]
  exact ⟨fun ⟨h, h'⟩ => ⟨h, h'⟩, fun ⟨h, h'⟩ => ⟨h, h'⟩⟩

lemma X509Thumbprint.agrees_iff_eq (a b : X509Thumbprint) : a.Agrees b ↔ a = b := by
  rw [X509Thumbprint.ext_iff, ← rel_eq_iff_eq, ← rel_eq_iff_eq]
  exact ⟨fun ⟨h, h'⟩ => ⟨h, h'⟩, fun ⟨h, h'⟩ => ⟨h, h'⟩⟩

lemma AuthMechanism.agrees_iff_eq (a b : AuthMechanism) : a.Agrees b ↔ a = b := by
  rw [AuthMechanism.ext_iff, ← rel_eq_iff_eq, ← rel_iff_eq SymmetricKey.agrees_iff_eq,
    ← rel_iff_eq X509Thumbprint.agrees_iff_eq]
  exact ⟨fun ⟨h, h', h''⟩ => ⟨h, h', h''⟩, fun ⟨h, h', h''⟩ => ⟨h, h', h''⟩⟩

lemma AuthMechanism.beq_iff_agrees (a b : AuthMechanism) : (a == b) = true ↔ a.Agrees b := by
  rw [beq_iff_eq, agrees_iff_eq]

namespace Identity

open Text (ascii)

/-! ## What a field shows -/

/-- The fields of an identity. -/
inductive Field where
  | deviceId
  | moduleId
  | generationId
  | managedBy
  | authentication
deriving DecidableEq

/-- The field that a change sets. -/
def Change.field : Change → Field
  | .deviceId _ => .deviceId
  | .moduleId _ => .moduleId
  | .generationId _ => .generationId
  | .managedBy _ => .managedBy
  | .authentication _ => .authentication

/-- The change that sets a field to what it holds, if it holds anything. -/
def written (i : Identity) : Field → Option Change
  | .deviceId => i.deviceId.map .deviceId
  | .moduleId => i.moduleId.map .moduleId
  | .generationId => i.generationId.map .generationId
  | .managedBy => i.managedBy.map .managedBy
  | .authentication => i.authentication.map .authentication

variable {i j : Identity} {f : Field} {c d : Change} {xs ys : List Change}

lemma written_apply_of_eq (h : c.field = f) : (i.apply c).written f = some c := by
  subst h
  cases c <;> rfl

lemma written_apply_of_ne (h : c.field ≠ f) : (i.apply c).written f = i.written f := by
  cases c <;> cases f <;> first | rfl | exact absurd rfl h

lemma written_ofChanges_of_lastWith (h : LastWith (·.field = f) xs c) :
    (ofChanges xs).written f = some c :=
  h.read_foldl (written · f) (fun _ _ => written_apply_of_eq) (fun _ _ => written_apply_of_ne) {}

lemma written_ofChanges_of_forall_ne (h : ∀ c ∈ xs, c.field ≠ f) :
    (ofChanges xs).written f = none := by
  rw [ofChanges, read_foldl_of_forall_not (written · f) (fun _ _ => written_apply_of_ne) {} h]
  cases f <;> rfl

/-- Identities are equal if all their fields show the same. -/
lemma eq_iff_written : i = j ↔ ∀ f, i.written f = j.written f := by
  refine ⟨fun h _ => h ▸ rfl, fun h => ?_⟩
  have hfield {α : Type} {make : α → Change} (hmake : ∀ a b, make a = make b → a = b)
      {o o' : Option α} (h : o.map make = o'.map make) : o = o' :=
    Option.map_injective (fun a b => hmake a b) h
  exact Identity.ext (hfield (by simp) (h .deviceId)) (hfield (by simp) (h .moduleId))
    (hfield (by simp) (h .generationId)) (hfield (by simp) (h .managedBy))
    (hfield (by simp) (h .authentication))

/-! ## Built identities -/

/-- Changes settle a field alike: neither list sets it, or the same change is their last to set it. -/
def SettleAlike (f : Field) (xs ys : List Change) : Prop :=
  ((∀ c ∈ xs, c.field ≠ f) ∧ ∀ c ∈ ys, c.field ≠ f) ∨
    ∃ c, LastWith (·.field = f) xs c ∧ LastWith (·.field = f) ys c

lemma written_ofChanges_eq_iff :
    (ofChanges xs).written f = (ofChanges ys).written f ↔ SettleAlike f xs ys := by
  constructor
  · intro h
    rcases lastWith_or_forall_not (·.field = f) xs with ⟨c, hc⟩ | hxs <;>
      rcases lastWith_or_forall_not (·.field = f) ys with ⟨d, hd⟩ | hys
    · rw [written_ofChanges_of_lastWith hc, written_ofChanges_of_lastWith hd] at h
      obtain rfl := Option.some.inj h
      exact .inr ⟨c, hc, hd⟩
    · rw [written_ofChanges_of_lastWith hc, written_ofChanges_of_forall_ne hys] at h
      exact absurd h (by simp)
    · rw [written_ofChanges_of_forall_ne hxs, written_ofChanges_of_lastWith hd] at h
      exact absurd h (by simp)
    · exact .inl ⟨hxs, hys⟩
  · rintro (⟨hxs, hys⟩ | ⟨c, hc, hd⟩)
    · rw [written_ofChanges_of_forall_ne hxs, written_ofChanges_of_forall_ne hys]
    · rw [written_ofChanges_of_lastWith hc, written_ofChanges_of_lastWith hd]

lemma apply_comm (h : c.field ≠ d.field) : (i.apply c).apply d = (i.apply d).apply c := by
  cases c <;> cases d <;> first | rfl | exact absurd rfl h

/-- **Built identities are equal exactly if their changes settle each field alike.**

* For each field, either neither list of changes sets it, or the last change of it is the same in both.
* Mechanisms are the same, and compare as equal, exactly if they agree in presence and content at every
  level.  So an absent key differs from an empty one, and absent keys from a pair without any.
* Unequal means not equal, and changes of different fields commute. -/
theorem built_equal_iff (xs ys : List Change) :
    ((ofChanges xs == ofChanges ys) = true ↔ ∀ f, SettleAlike f xs ys) ∧
    ((ofChanges xs != ofChanges ys) = true ↔ ¬(ofChanges xs == ofChanges ys) = true) ∧
    (∀ a b : AuthMechanism, ((a == b) = true ↔ a.Agrees b) ∧ (a = b ↔ a.Agrees b)) ∧
    (∀ k : SymmetricKey, ({ k with primary := none } == { k with primary := some [] }) = false ∧
      ({ k with secondary := none } == { k with secondary := some [] }) = false) ∧
    (∀ a : AuthMechanism,
      ({ a with symmetricKey := none } == { a with symmetricKey := some {} }) = false) ∧
    ∀ (i : Identity) (c d : Change), c.field ≠ d.field →
      (i.apply c).apply d = (i.apply d).apply c := by
  refine ⟨?_, ?_, fun a b => ⟨a.beq_iff_agrees b, (a.agrees_iff_eq b).symm⟩, fun k => ⟨?_, ?_⟩,
    fun a => ?_, fun i c d => apply_comm⟩
  · rw [beq_iff_eq, eq_iff_written]
    exact forall_congr' fun f => written_ofChanges_eq_iff
  · rw [bne, Bool.not_eq_true', Bool.not_eq_true]
  · simp
  · simp
  · simp

/-- Two changes of the device and one of the module, in another order and after another module, make the
same identity; without the last change of the device they do not. -/
theorem built_equal_iff_reordered :
    let xs : List Change := [.deviceId (ascii "d"), .moduleId (ascii "m"), .deviceId (ascii "e")]
    let ys : List Change := [.moduleId (ascii "x"), .deviceId (ascii "e"), .moduleId (ascii "m")]
    let i : Identity := { generationId := some [] }
    let c : Change := .deviceId (ascii "d")
    let d : Change := .authentication { symmetricKey := some {} }
    (ofChanges xs == ofChanges ys) = true ∧
    ¬SettleAlike .deviceId (xs.take 2) ys ∧ (ofChanges (xs.take 2) != ofChanges ys) = true ∧
    c.field ≠ d.field ∧ (i.apply c).apply d = (i.apply d).apply c := by
  intro xs ys i c d
  have halike : ∀ f, SettleAlike f xs ys := by
    intro f
    cases f with
    | deviceId => exact .inr ⟨_, ⟨xs.take 2, [], rfl, rfl, by simp⟩, ys.take 1, _, rfl, rfl, by decide⟩
    | moduleId => exact .inr ⟨_, ⟨xs.take 1, _, rfl, rfl, by decide⟩, ys.take 2, [], rfl, rfl, by simp⟩
    | generationId | managedBy | authentication => exact .inl (by decide)
  have hdevice : ¬SettleAlike .deviceId (xs.take 2) ys := by
    rw [← written_ofChanges_eq_iff]
    decide
  have hfield : c.field ≠ d.field := by decide
  obtain ⟨hiff, hnot, -⟩ := built_equal_iff (xs.take 2) ys
  exact ⟨(built_equal_iff xs ys).1.2 halike, hdevice, hnot.2 fun heq => hdevice (hiff.1 heq _),
    hfield, (built_equal_iff xs ys).2.2.2.2.2 i c d hfield⟩

end Identity

end ModuleRegistry
