import CaseAutomation.Framework.Dict

/-! # Tables and Dictionaries

    A table is the list of its rows, in the order in which they were inserted. Columns
    are functions of the row, so `select` and `update` are the statements with one
    condition on a column.

    `Mirrors` relates a table with a key column to a dictionary: the same keys in the same
    order, and rows that look alike through `view` on one side and `of` on the other. The
    operations of the two sides keep it.
-/

namespace CaseAutomation.Framework

variable {κ α β ρ : Type} [DecidableEq κ]

namespace Table

/-- `SELECT * WHERE column = k`, the first row. -/
def select (column : ρ → κ) (k : κ) (t : List ρ) : Option ρ := t.find? fun r => column r = k

/-- `UPDATE WHERE column = k`. -/
def update (column : ρ → κ) (k : κ) (f : ρ → ρ) (t : List ρ) : List ρ :=
  t.map fun r => if column r = k then f r else r

end Table

/-- The table holds the entries of the dictionary. -/
def Mirrors (column : ρ → κ) (view : ρ → β) (of : α → β) (d : Dict κ α) (t : List ρ) : Prop :=
  t.map (fun r => (column r, view r)) = d.entries.map fun e => (e.1, of e.2)

namespace Mirrors

variable {column : ρ → κ} {view : ρ → β} {of : α → β} {d : Dict κ α} {t : List ρ}

omit [DecidableEq κ] in
theorem empty : Mirrors column view of (∅ : Dict κ α) [] := rfl

omit [DecidableEq κ] in
/-- Rows and values correspond. -/
theorem views (h : Mirrors column view of d t) : t.map view = d.values.map of := by
  have hsnd := congrArg (List.map Prod.snd) h
  simpa [Dict.values, Function.comp_def] using hsnd

omit [DecidableEq κ] in
/-- Whatever can be told from the views selects corresponding rows. -/
theorem find (h : Mirrors column view of d t) {p : ρ → Bool} {q : α → Bool} (v : β → Bool)
    (hp : ∀ r, p r = v (view r)) (hq : ∀ a, q a = v (of a)) :
    (t.find? p).map view = (d.values.find? q).map of := by
  have hp' : p = v ∘ view := funext hp
  have hq' : q = v ∘ of := funext hq
  rw [hp', hq', ← List.find?_map, ← List.find?_map, h.views]

omit [DecidableEq κ] in
theorem filter (h : Mirrors column view of d t) {p : ρ → Bool} {q : α → Bool} (v : β → Bool)
    (hp : ∀ r, p r = v (view r)) (hq : ∀ a, q a = v (of a)) :
    (t.filter p).map view = (d.values.filter q).map of := by
  have hp' : p = v ∘ view := funext hp
  have hq' : q = v ∘ of := funext hq
  rw [hp', hq', ← List.filter_map, ← List.filter_map, h.views]

/-- Selecting by the key column is looking up the key. -/
theorem select (h : Mirrors column view of d t) (k : κ) :
    (Table.select column k t).map view = (d.get? k).map of := by
  have hkey : (t.map fun r => (column r, view r)).find? (fun e => e.1 = k) =
      (d.entries.map fun e => (e.1, of e.2)).find? fun e => e.1 = k := by rw [h]
  rw [List.find?_map, List.find?_map] at hkey
  have hview := congrArg (Option.map Prod.snd) hkey
  simpa [Table.select, Dict.get?, Function.comp_def] using hview

theorem select_none (h : Mirrors column view of d t) {k : κ} (hget : d.get? k = none) :
    Table.select column k t = none := by
  have hselect := h.select k
  rw [hget] at hselect
  simpa using hselect

theorem select_some (h : Mirrors column view of d t) {k : κ} {a : α} (hget : d.get? k = some a) :
    ∃ r, Table.select column k t = some r ∧ column r = k ∧ view r = of a := by
  have hselect := h.select k
  rw [hget] at hselect
  obtain ⟨r, hr, hview⟩ := Option.map_eq_some_iff.mp hselect
  refine ⟨r, hr, ?_, hview⟩
  simpa using List.find?_some hr

/-- A row inserted under a new key. -/
theorem insert (h : Mirrors column view of d t) {r : ρ} {a : α} (hnew : d.get? (column r) = none)
    (hview : view r = of a) : Mirrors column view of (d.set (column r) a) (t ++ [r]) := by
  have hkey : column r ∉ d.entries.map Prod.fst := Dict.get?_eq_none_iff.mp hnew
  unfold Mirrors at h ⊢
  simp only [Dict.set, Dict.setEntries, if_neg hkey, List.map_append, h, List.map_cons,
    List.map_nil, hview]

/-- A row updated under its key. -/
theorem update (h : Mirrors column view of d t) {k : κ} {a a' : α} {f : ρ → ρ}
    (hget : d.get? k = some a) (hcolumn : ∀ r, column r = k → column (f r) = k)
    (hview : ∀ r, column r = k → view r = of a → view (f r) = of a') :
    Mirrors column view of (d.set k a') (Table.update column k f t) := by
  have hkey : k ∈ d.entries.map Prod.fst := Dict.mem_keys_iff.mpr ⟨a, hget⟩
  have hentries : ∀ e ∈ d.entries, e.1 = k → e.2 = a := by
    intro e he hek
    have hfound := Dict.get?_of_mem_entries he
    rw [hek, hget] at hfound
    exact (Option.some.inj hfound).symm
  unfold Mirrors at h ⊢
  simp only [Dict.set, Dict.setEntries, if_pos hkey, Table.update, List.map_map]
  -- the rows and the entries are rewritten side by side
  generalize d.entries = entries at h hentries
  clear hkey hget
  induction t generalizing entries with
  | nil =>
    cases entries with
    | nil => rfl
    | cons e entries => cases h
  | cons r t ih =>
    cases entries with
    | nil => cases h
    | cons e entries =>
      simp only [List.map_cons, List.cons_eq_cons, Prod.mk.injEq] at h ⊢
      obtain ⟨⟨hcol, hv⟩, hrest⟩ := h
      refine ⟨?_, ih entries hrest fun e' he' => hentries e' (List.mem_cons_of_mem e he')⟩
      by_cases hr : column r = k
      · have he : e.1 = k := hcol.symm.trans hr
        have ha : e.2 = a := hentries e List.mem_cons_self he
        simp only [Function.comp_apply, if_pos hr, if_pos he, Prod.mk.injEq]
        exact ⟨hcolumn r hr, hview r hr (by rw [hv, ha])⟩
      · have he : e.1 ≠ k := fun he => hr (hcol.trans he)
        simp only [Function.comp_apply, if_neg hr, if_neg he, Prod.mk.injEq]
        exact ⟨hcol, hv⟩

end Mirrors

end CaseAutomation.Framework
