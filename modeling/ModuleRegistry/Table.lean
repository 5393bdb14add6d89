import ModuleRegistry.Text.Basic

/-!
# Tables keyed by text

Header fields, query parameters, log fields and named metrics are all tables: each key occurs once,
writing a key again replaces its value, and listing a table goes through the keys in ascending byte
order.  A `Table` holds its entries in that order, with the proof that they are strictly ascending,
so two tables with the same entries are equal (`Table.ext_mem`).

Main statements: `get?_insert` reads a key after a write, and `get?_ofList` says that a table built
from a list keeps the last value of each key.  Where the keys of the list are different, its order does
not matter (`ofList_eq_of_perm`).
-/

namespace ModuleRegistry

theorem Text.lt_of_not_lt_of_ne {a b : Text} (h : ¬ a < b) (hne : a ≠ b) : b < a := by
  rcases List.le_iff_lt_or_eq.1 (List.not_lt.1 h) with h | h
  · exact h
  · exact absurd h.symm hne

/-- A finite map from texts, listed with its keys strictly ascending. -/
structure Table (α : Type) where
  /-- The entries in ascending order of their keys. -/
  toList : List (Text × α)
  ascending : toList.Pairwise (fun a b => a.1 < b.1)
deriving DecidableEq

namespace Table

variable {α : Type}

instance : Inhabited (Table α) := ⟨⟨[], .nil⟩⟩

/-- The table without entries. -/
def empty : Table α := ⟨[], .nil⟩

instance : EmptyCollection (Table α) := ⟨empty⟩

/-- Whether a table has no entries. -/
def isEmpty (t : Table α) : Bool := t.toList.isEmpty

@[simp] theorem toList_empty : (∅ : Table α).toList = [] := rfl

@[ext] theorem ext {t u : Table α} (h : t.toList = u.toList) : t = u := by
  cases t; cases u; simp_all

/-! ## Writing -/

/-- Ascending entries with one more, which replaces that of the same key. -/
def insertEntry (k : Text) (v : α) : List (Text × α) → List (Text × α)
  | [] => [(k, v)]
  | e :: r =>
    if k < e.1 then (k, v) :: e :: r
    else if k = e.1 then (k, v) :: r
    else e :: insertEntry k v r

theorem mem_insertEntry {k : Text} {v : α} {a : Text × α} {l : List (Text × α)}
    (h : a ∈ insertEntry k v l) : a = (k, v) ∨ a ∈ l := by
  induction l with
  | nil => simpa [insertEntry] using h
  | cons e r ih =>
    rw [insertEntry] at h
    split at h
    · simpa using h
    · split at h
      · rcases List.mem_cons.1 h with h | h <;> simp [h]
      · rcases List.mem_cons.1 h with h | h
        · simp [h]
        · rcases ih h with h | h <;> simp [h]

theorem ascending_insertEntry (k : Text) (v : α) {l : List (Text × α)}
    (h : l.Pairwise (fun a b => a.1 < b.1)) :
    (insertEntry k v l).Pairwise (fun a b => a.1 < b.1) := by
  induction l with
  | nil => simp [insertEntry]
  | cons e r ih =>
    have hr := (List.pairwise_cons.1 h).1
    rw [insertEntry]
    split
    · next hlt =>
      refine List.Pairwise.cons (fun a ha => ?_) h
      rcases List.mem_cons.1 ha with rfl | ha
      · exact hlt
      · exact List.lt_trans hlt (hr a ha)
    · next hlt =>
      split
      · next heq => exact List.Pairwise.cons (fun a ha => heq ▸ hr a ha) h.of_cons
      · next hne =>
        refine List.Pairwise.cons (fun a ha => ?_) (ih h.of_cons)
        rcases mem_insertEntry ha with rfl | ha
        · exact Text.lt_of_not_lt_of_ne hlt hne
        · exact hr a ha

/-- A table with the value of one key written. -/
def insert (t : Table α) (k : Text) (v : α) : Table α :=
  ⟨insertEntry k v t.toList, ascending_insertEntry k v t.ascending⟩

/-- The table of a list of entries; of entries with the same key the last one counts. -/
def ofList (entries : List (Text × α)) : Table α :=
  entries.foldl (fun t e => t.insert e.1 e.2) ∅

@[simp] theorem ofList_nil : ofList ([] : List (Text × α)) = ∅ := rfl

theorem ofList_append_singleton (l : List (Text × α)) (e : Text × α) :
    ofList (l ++ [e]) = (ofList l).insert e.1 e.2 := by
  simp [ofList]

/-! ## Reading -/

/-- The value of a key, if the table has it. -/
def get? (t : Table α) (k : Text) : Option α := t.toList.lookup k

/-- Whether a table has a key. -/
def contains (t : Table α) (k : Text) : Bool := (t.get? k).isSome

/-- The keys of a table, ascending. -/
def keys (t : Table α) : List Text := t.toList.map (·.1)

@[simp] theorem get?_empty (k : Text) : (∅ : Table α).get? k = none := rfl

theorem lookup_singleton (k k' : Text) (v : α) :
    [(k, v)].lookup k' = if k' = k then some v else none := by
  by_cases h : k' = k
  · rw [if_pos h, h, List.lookup_cons_self]
  · rw [if_neg h, List.lookup_cons, beq_false_of_ne h, List.lookup_nil]

theorem lookup_insertEntry (k k' : Text) (v : α) (l : List (Text × α)) :
    (insertEntry k v l).lookup k' = if k' = k then some v else l.lookup k' := by
  induction l with
  | nil => rw [insertEntry, lookup_singleton, List.lookup_nil]
  | cons e r ih =>
    obtain ⟨ek, ev⟩ := e
    rw [insertEntry]
    split
    · by_cases h : k' = k <;> simp [List.lookup_cons, h, beq_false_of_ne]
    · split
      · next heq =>
        simp only at heq
        subst heq
        by_cases h : k' = k <;> simp [List.lookup_cons, h, beq_false_of_ne]
      · next hne =>
        by_cases he : k' = ek
        · subst he
          simp [Ne.symm hne]
        · simp [List.lookup_cons, beq_false_of_ne he, ih]

/-- **Reading after a write**: the written key has the new value and every other key its old one. -/
@[simp] theorem get?_insert (t : Table α) (k k' : Text) (v : α) :
    (t.insert k v).get? k' = if k' = k then some v else t.get? k' :=
  lookup_insertEntry k k' v t.toList

theorem get?_ofList (l : List (Text × α)) (k : Text) :
    (ofList l).get? k = l.reverse.lookup k := by
  suffices ∀ t : Table α, (l.foldl (fun t e => t.insert e.1 e.2) t).get? k =
      (l.reverse.lookup k).or (t.get? k) by
    simpa [ofList] using this ∅
  induction l with
  | nil => simp
  | cons e r ih =>
    intro t
    obtain ⟨ek, ev⟩ := e
    rw [List.foldl_cons, ih, List.reverse_cons, List.lookup_append, get?_insert, lookup_singleton]
    by_cases h : k = ek <;> simp [h]

/-! ## Extensionality -/

theorem lookup_eq_some_iff {l : List (Text × α)} (h : l.Pairwise (fun a b => a.1 < b.1))
    (k : Text) (v : α) : l.lookup k = some v ↔ (k, v) ∈ l := by
  induction l with
  | nil => simp
  | cons e r ih =>
    obtain ⟨ek, ev⟩ := e
    have hr := (List.pairwise_cons.1 h).1
    rw [List.lookup_cons]
    by_cases hk : k = ek
    · subst hk
      have : (k, v) ∉ r := fun hm => List.lt_irrefl k (hr _ hm)
      simp [this, eq_comm]
    · simp [beq_false_of_ne hk, hk, ih h.of_cons]

theorem get?_eq_some_iff (t : Table α) (k : Text) (v : α) :
    t.get? k = some v ↔ (k, v) ∈ t.toList :=
  lookup_eq_some_iff t.ascending k v

theorem toList_eq_of_mem_iff {l m : List (Text × α)} (hl : l.Pairwise (fun a b => a.1 < b.1))
    (hm : m.Pairwise (fun a b => a.1 < b.1)) (h : ∀ e, e ∈ l ↔ e ∈ m) : l = m := by
  induction l generalizing m with
  | nil =>
    cases m with
    | nil => rfl
    | cons e r => exact absurd ((h e).2 (by simp)) (by simp)
  | cons a r ih =>
    cases m with
    | nil => exact absurd ((h a).1 (by simp)) (by simp)
    | cons b s =>
      have ha := (List.pairwise_cons.1 hl).1
      have hb := (List.pairwise_cons.1 hm).1
      have hab : a = b := by
        rcases List.mem_cons.1 ((h a).1 (by simp)) with e | e
        · exact e
        · rcases List.mem_cons.1 ((h b).2 (by simp)) with e' | e'
          · exact e'.symm
          · exact absurd (hb _ e) (List.lt_asymm (ha _ e'))
      subst hab
      congr 1
      refine ih hl.of_cons hm.of_cons fun e => ⟨fun he => ?_, fun he => ?_⟩
      · rcases List.mem_cons.1 ((h e).1 (by simp [he])) with rfl | he'
        · exact absurd (ha _ he) (List.lt_irrefl _)
        · exact he'
      · rcases List.mem_cons.1 ((h e).2 (by simp [he])) with rfl | he'
        · exact absurd (hb _ he) (List.lt_irrefl _)
        · exact he'

/-- **Tables with the same entries are equal.** -/
theorem ext_mem {t u : Table α} (h : ∀ k v, (k, v) ∈ t.toList ↔ (k, v) ∈ u.toList) : t = u :=
  ext (toList_eq_of_mem_iff t.ascending u.ascending fun e => h e.1 e.2)

/-! ## Tables of lists -/

/-- A value is the last one that a list of entries supplies for a key. -/
def SuppliedLast (entries : List (Text × α)) (k : Text) (v : α) : Prop :=
  ∃ before after, entries = before ++ (k, v) :: after ∧ ∀ e ∈ after, e.1 ≠ k

theorem mem_toList_ofList_iff {entries : List (Text × α)} {k : Text} {v : α} :
    (k, v) ∈ (ofList entries).toList ↔ SuppliedLast entries k v := by
  rw [← get?_eq_some_iff, get?_ofList, List.lookup_eq_some_iff]
  constructor
  · rintro ⟨l, r, hsplit, hl⟩
    refine ⟨r.reverse, l.reverse, ?_, fun e he => ?_⟩
    · rw [← List.reverse_reverse entries, hsplit]
      simp
    · have hne : (k != e.1) = true := hl e (List.mem_reverse.1 he)
      exact (bne_iff_ne.1 hne).symm
  · rintro ⟨before, after, rfl, hafter⟩
    refine ⟨after.reverse, before.reverse, by simp, fun e he => ?_⟩
    exact bne_iff_ne.2 (hafter e (List.mem_reverse.1 he)).symm

/-- Of different keys each value is the last one. -/
theorem suppliedLast_iff_mem {entries : List (Text × α)} (h : (entries.map Prod.fst).Nodup)
    {k : Text} {v : α} : SuppliedLast entries k v ↔ (k, v) ∈ entries := by
  constructor
  · rintro ⟨before, after, rfl, -⟩
    simp
  · intro hmem
    obtain ⟨before, after, rfl⟩ := List.append_of_mem hmem
    refine ⟨before, after, rfl, fun e he hk => ?_⟩
    rw [List.map_append, List.map_cons, List.nodup_append] at h
    have hkey : e.1 ∈ after.map Prod.fst := List.mem_map_of_mem he
    exact (List.nodup_cons.1 h.2.1).1 (hk ▸ hkey)

theorem nodup_keys (t : Table α) : (t.toList.map Prod.fst).Nodup := by
  rw [List.Nodup, List.pairwise_map]
  refine t.ascending.imp fun hlt heq => ?_
  exact List.lt_irrefl _ (heq ▸ hlt)

/-- A table is made of its own entries. -/
theorem ofList_toList (t : Table α) : ofList t.toList = t := by
  refine ext_mem fun k v => ?_
  rw [mem_toList_ofList_iff, suppliedLast_iff_mem t.nodup_keys]

/-- Entries with different keys make the same table in any order. -/
theorem ofList_eq_of_perm {entries entries' : List (Text × α)} (h : entries.Perm entries')
    (hkeys : (entries.map Prod.fst).Nodup) : ofList entries' = ofList entries := by
  have hkeys' : (entries'.map Prod.fst).Nodup := (h.map Prod.fst).nodup_iff.1 hkeys
  refine ext_mem fun k v => ?_
  rw [mem_toList_ofList_iff, mem_toList_ofList_iff, suppliedLast_iff_mem hkeys',
    suppliedLast_iff_mem hkeys, h.mem_iff]

end Table

end ModuleRegistry
