import Mathlib.Data.List.Infix

/-! # Pieces of a Text

    `InOrder pieces text`: the pieces occur in the text one after the other, in this order and
    without overlap. What is joined with a separator occurs in this way, and so does any
    selection of it (`inOrder_intercalate`).
-/

namespace CaseAutomation.Framework

variable {α : Type}

/-- The pieces occur one after the other. -/
def InOrder : List (List α) → List α → Prop
  | [], _ => True
  | piece :: rest, text => ∃ before after, text = before ++ piece ++ after ∧ InOrder rest after

namespace InOrder

variable {pieces joined : List (List α)} {text sep : List α}

/-- More text in front does not matter. -/
theorem append_left (before : List α) (h : InOrder pieces text) : InOrder pieces (before ++ text) := by
  cases pieces with
  | nil => trivial
  | cons piece rest =>
    obtain ⟨between, after, rfl, hrest⟩ := h
    exact ⟨before ++ between, after, by simp, hrest⟩

/-- Each piece occurs. -/
theorem infix_of_mem (h : InOrder pieces text) {piece : List α} (hmem : piece ∈ pieces) :
    piece <:+: text := by
  induction pieces generalizing text with
  | nil => cases hmem
  | cons first rest ih =>
    obtain ⟨before, after, rfl, hrest⟩ := h
    obtain rfl | hmem := List.mem_cons.mp hmem
    · exact ⟨before, after, rfl⟩
    · exact (ih hrest hmem).trans (List.suffix_append _ _).isInfix

end InOrder

/-- A selection of what is joined occurs in order. -/
theorem inOrder_intercalate {pieces joined : List (List α)} (sep : List α) (h : pieces.Sublist joined) :
    InOrder pieces (sep.intercalate joined) := by
  induction h with
  | slnil => trivial
  | @cons pieces joined piece h ih =>
    cases joined with
    | nil =>
      rw [List.sublist_nil.mp h]
      trivial
    | cons next rest =>
      rw [List.intercalate_cons_cons]
      exact ih.append_left _
  | @cons_cons pieces joined piece h ih =>
    cases joined with
    | nil =>
      rw [List.sublist_nil.mp h, List.intercalate_singleton]
      exact ⟨[], [], by simp, trivial⟩
    | cons next rest =>
      rw [List.intercalate_cons_cons]
      exact ⟨[], sep ++ sep.intercalate (next :: rest), by simp, ih.append_left _⟩

end CaseAutomation.Framework
