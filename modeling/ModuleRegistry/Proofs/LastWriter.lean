import Mathlib.Tactic.Lemma

/-!
# The last writer

Header fields, the fields of an identity and the settings that an environment names all come about by
going through a list, where some elements write a value and the others leave it alone.  What is read
afterwards was written by the last writer (`LastWith.read_foldl`), or stood there before if there is
none (`read_foldl_of_forall_not`).

`LastWith` says what the last writer is by what stands behind it.
-/

namespace ModuleRegistry

variable {α β σ : Type} {p : α → Prop} {l : List α} {x : α}

/-- The last element of a list that satisfies `p`. -/
def LastWith (p : α → Prop) (l : List α) (x : α) : Prop :=
  ∃ before after, l = before ++ x :: after ∧ p x ∧ ∀ y ∈ after, ¬p y

lemma LastWith.mem (h : LastWith p l x) : x ∈ l := by
  obtain ⟨before, after, rfl, -⟩ := h
  simp

lemma LastWith.holds (h : LastWith p l x) : p x := by
  obtain ⟨-, -, -, hx, -⟩ := h
  exact hx

lemma LastWith.cons (h : LastWith p l x) (y : α) : LastWith p (y :: l) x := by
  obtain ⟨before, after, rfl, hx, hafter⟩ := h
  exact ⟨y :: before, after, rfl, hx, hafter⟩

lemma lastWith_or_forall_not (p : α → Prop) (l : List α) :
    (∃ x, LastWith p l x) ∨ ∀ x ∈ l, ¬p x := by
  induction l with
  | nil => exact .inr (by simp)
  | cons y r ih =>
    rcases ih with ⟨x, hx⟩ | hr
    · exact .inl ⟨x, hx.cons y⟩
    · by_cases hy : p y
      · exact .inl ⟨y, [], r, rfl, hy, hr⟩
      · exact .inr (List.forall_mem_cons.2 ⟨hy, hr⟩)

/-! ## Reading after a fold -/

section Fold

variable {step : σ → α → σ} (read : σ → β) {write : α → β}

/-- What no element writes stays as it is. -/
lemma read_foldl_of_forall_not (hkeep : ∀ s x, ¬p x → read (step s x) = read s) (s : σ)
    (h : ∀ x ∈ l, ¬p x) : read (l.foldl step s) = read s := by
  induction l generalizing s with
  | nil => rfl
  | cons x r ih =>
    rw [List.foldl_cons, ih _ fun y hy => h y (List.mem_cons_of_mem x hy)]
    exact hkeep s x (h x List.mem_cons_self)

/-- **What is read was written by the last writer.** -/
lemma LastWith.read_foldl (h : LastWith p l x) (hwrite : ∀ s x, p x → read (step s x) = write x)
    (hkeep : ∀ s x, ¬p x → read (step s x) = read s) (s : σ) :
    read (l.foldl step s) = write x := by
  obtain ⟨before, after, rfl, hx, hafter⟩ := h
  rw [List.foldl_append, List.foldl_cons, read_foldl_of_forall_not read hkeep _ hafter]
  exact hwrite _ x hx

end Fold

end ModuleRegistry
