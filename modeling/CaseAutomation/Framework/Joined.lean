import Mathlib.Data.List.Basic

/-! # Fields Joined by a Separator

    A key is often built from several fields with a separator between them and nothing escaped.
    The text does not show which separators stand between two fields and which belong to a
    field. What it shows are the pieces between them:

    * `cuts`                : the pieces of all fields, from the first field to the last.
    * `intercalate_eq_iff`  : two lists of fields have one text exactly when they have the
      same pieces.
    * `cuts_inj`            : the pieces give the fields back, if it is known how many
      separators each field holds.
    * `joined_inj`          : the text gives back fields that are not empty and hold no separator.
-/

namespace CaseAutomation.Framework

variable {α : Type} [DecidableEq α] (sep : α)

/-- The pieces of all fields, one after the other. -/
def cuts (fields : List (List α)) : List (List α) := fields.flatMap (List.splitOn sep)

@[simp] theorem cuts_nil : cuts sep [] = [] := rfl

@[simp] theorem cuts_cons (field : List α) (rest : List (List α)) :
    cuts sep (field :: rest) = field.splitOn sep ++ cuts sep rest := rfl

/-- No piece has the separator. -/
theorem not_mem_of_mem_splitOn {xs piece : List α} (h : piece ∈ xs.splitOn sep) : sep ∉ piece := by
  induction xs generalizing piece with
  | nil =>
    rw [List.splitOn_nil, List.mem_singleton] at h
    rw [h]
    exact List.not_mem_nil
  | cons x xs ih =>
    rw [List.splitOn_cons_eq_if_modifyHead] at h
    by_cases hx : x = sep
    · rw [if_pos (beq_iff_eq.mpr hx)] at h
      rcases List.mem_cons.mp h with rfl | h
      · exact List.not_mem_nil
      · exact ih h
    · rw [if_neg (by simpa using hx)] at h
      cases hpieces : xs.splitOn sep with
      | nil =>
        rw [hpieces] at h
        cases h
      | cons first rest =>
        -- the character goes to the first piece
        rw [hpieces, List.modifyHead_cons] at h
        rcases List.mem_cons.mp h with rfl | h
        · have hfirst : sep ∉ first := ih (hpieces ▸ List.mem_cons_self)
          rw [List.mem_cons, not_or]
          exact ⟨Ne.symm hx, hfirst⟩
        · exact ih (hpieces ▸ List.mem_cons_of_mem _ h)

/-- To cut the joined text is to cut each field. -/
theorem splitOn_intercalate_eq {fields : List (List α)} (hne : fields ≠ []) :
    ([sep].intercalate fields).splitOn sep = cuts sep fields := by
  induction fields with
  | nil => exact absurd rfl hne
  | cons field rest ih =>
    cases rest with
    | nil => simp
    | cons next rest =>
      have hjoined : [sep].intercalate (field :: next :: rest) =
          field ++ sep :: [sep].intercalate (next :: rest) := by
        simp [List.intercalate_cons_cons]
      rw [hjoined, List.splitOn_append_cons_self, ih (List.cons_ne_nil next rest),
        cuts_cons sep field]

/-- **What a joined text shows**: the pieces of the fields, and nothing else. -/
theorem intercalate_eq_iff {xs ys : List (List α)} (hxs : xs ≠ []) (hys : ys ≠ []) :
    [sep].intercalate xs = [sep].intercalate ys ↔ cuts sep xs = cuts sep ys := by
  rw [← splitOn_intercalate_eq sep hxs, ← splitOn_intercalate_eq sep hys]
  constructor
  · intro h
    rw [h]
  · intro h
    have hback := congrArg [sep].intercalate h
    rwa [List.intercalate_splitOn, List.intercalate_splitOn] at hback

/-- Every separator makes one more piece. -/
theorem length_splitOn (xs : List α) : (xs.splitOn sep).length = xs.count sep + 1 := by
  induction xs with
  | nil => rfl
  | cons x xs ih =>
    rw [List.splitOn_cons_eq_if_modifyHead, List.count_cons]
    by_cases hx : x = sep
    · simp [hx, ih]
    · simp [hx, ih]

/-- **Fields with equally many separators** are given back by their pieces. -/
theorem cuts_inj {xs ys : List (List α)} (hcount : xs.map (List.count sep) = ys.map (List.count sep))
    (hcuts : cuts sep xs = cuts sep ys) : xs = ys := by
  induction xs generalizing ys with
  | nil => exact (List.map_eq_nil_iff.mp hcount.symm).symm
  | cons x xs ih =>
    cases ys with
    | nil => cases hcount
    | cons y ys =>
      obtain ⟨hhead, htail⟩ := List.cons.inj hcount
      -- the first fields are cut into equally many pieces
      have hlength : (x.splitOn sep).length = (y.splitOn sep).length := by
        rw [length_splitOn, length_splitOn, hhead]
      obtain ⟨hfirst, hrest⟩ := List.append_inj hcuts hlength
      have hfield := congrArg [sep].intercalate hfirst
      rw [List.intercalate_splitOn, List.intercalate_splitOn] at hfield
      rw [hfield, ih htail hrest]

/-- Fields of which none is empty have an empty text only if there are none. -/
theorem intercalate_eq_nil {β : Type} {s : List β} {xs : List (List β)} (hxs : ∀ x ∈ xs, x ≠ [])
    (h : s.intercalate xs = []) : xs = [] := by
  cases xs with
  | nil => rfl
  | cons x rest =>
    have hx : x ≠ [] := hxs x List.mem_cons_self
    cases rest with
    | nil => exact absurd (by simpa using h) hx
    | cons next rest =>
      rw [List.intercalate_cons_cons] at h
      exact absurd (List.append_eq_nil_iff.mp (List.append_eq_nil_iff.mp h).1).1 hx

/-- **Fields without separators** are given back by their text. -/
theorem joined_inj {xs ys : List (List α)} (hxs : ∀ x ∈ xs, x ≠ [] ∧ sep ∉ x)
    (hys : ∀ y ∈ ys, y ≠ [] ∧ sep ∉ y) (h : [sep].intercalate xs = [sep].intercalate ys) : xs = ys := by
  by_cases hempty : xs = []
  · subst hempty
    exact (intercalate_eq_nil (fun y hy => (hys y hy).1) h.symm).symm
  · have hnonempty : ys ≠ [] := by
      intro hnil
      rw [hnil] at h
      exact hempty (intercalate_eq_nil (fun x hx => (hxs x hx).1) h)
    calc xs = ([sep].intercalate xs).splitOn sep :=
          (List.splitOn_intercalate sep (fun x hx => (hxs x hx).2) hempty).symm
      _ = ([sep].intercalate ys).splitOn sep := by rw [h]
      _ = ys := List.splitOn_intercalate sep (fun y hy => (hys y hy).2) hnonempty

end CaseAutomation.Framework
