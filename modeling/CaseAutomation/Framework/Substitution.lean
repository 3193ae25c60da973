import Mathlib.Data.List.Infix

/-! # Substitution in a Text

    Matches are looked for from left to right, and the search goes on behind each match: what is put in
    their place is not looked at again.

    * `Matcher`  : reads a match at the front of a text.
    * `Scans`    : the pieces of a text, characters and matches. `Matcher.pieces` finds them
      (`Scans.pieces_of`), and together they are the text (`Scans.source`).
    * `Scans.hit`: a match that no earlier one reaches into is one of the pieces.
-/

namespace CaseAutomation.Framework

variable {α β : Type}

/-- What is read up to the first character that fails a test. -/
theorem takeWhile_stop {p : α → Bool} {xs ys : List α} (h : ∀ a ∈ xs, p a = true)
    (hstop : ∀ b ∈ ys.head?, p b = false) :
    (xs ++ ys).takeWhile p = xs ∧ (xs ++ ys).dropWhile p = ys := by
  rw [List.takeWhile_append_of_pos h, List.dropWhile_append_of_pos h]
  cases ys with
  | nil => simp
  | cons b rest =>
    have hb : p b = false := hstop b rfl
    simp [hb]

/-- A text has one part before the first such character. -/
theorem stop_unique {p : α → Bool} {xs xs' ys ys' : List α} (heq : xs ++ ys = xs' ++ ys')
    (h : ∀ a ∈ xs, p a = true) (hstop : ∀ b ∈ ys.head?, p b = false)
    (h' : ∀ a ∈ xs', p a = true) (hstop' : ∀ b ∈ ys'.head?, p b = false) : xs = xs' ∧ ys = ys' := by
  obtain ⟨hbefore, hafter⟩ := takeWhile_stop h hstop
  obtain ⟨hbefore', hafter'⟩ := takeWhile_stop h' hstop'
  rw [heq] at hbefore hafter
  exact ⟨hbefore.symm.trans hbefore', hafter.symm.trans hafter'⟩

/-- Reads a match at the front of a text: its value, and the rest of the text. -/
structure Matcher (α β : Type) where
  read : List α → Option (β × List α)
  consumes : ∀ {text x rest}, read text = some (x, rest) →
    ∃ source, source ≠ [] ∧ text = source ++ rest

/-- A character outside of all matches, or a match with its text. -/
inductive Piece (α β : Type) where
  | char (c : α)
  | found (x : β) (text : List α)

namespace Piece

/-- The text of a piece. -/
def source : Piece α β → List α
  | char c => [c]
  | found _ text => text

/-- The match, if it is one. -/
def match? : Piece α β → Option β
  | char _ => none
  | found x _ => some x

/-- What is put in its place. -/
def fill (value : β → List α) : Piece α β → List α
  | char c => [c]
  | found x _ => value x

/-- What is put in the place of all pieces, by a filling that may fail at a match. -/
def fill_all {ε : Type} (value : β → Except ε (List α)) : List (Piece α β) → Except ε (List α)
  | [] => .ok []
  | char c :: rest => do
    let filled ← fill_all value rest
    .ok (c :: filled)
  | found x _ :: rest => do
    let text ← value x
    let filled ← fill_all value rest
    .ok (text ++ filled)

theorem fill_all_ok {ε : Type} {value : β → Except ε (List α)} {shown : β → List α}
    {pieces : List (Piece α β)} (h : ∀ x ∈ pieces.filterMap match?, value x = .ok (shown x)) :
    fill_all value pieces = .ok (pieces.flatMap (fill shown)) := by
  induction pieces with
  | nil => rfl
  | cons piece rest ih =>
    cases piece with
    | char c =>
      rw [fill_all, ih h]
      rfl
    | found x source =>
      have hx : value x = .ok (shown x) := h x (by simp [match?])
      have hrest : ∀ y ∈ rest.filterMap match?, value y = .ok (shown y) := by
        intro y hy
        refine h y ?_
        rw [List.filterMap_cons]
        exact List.mem_cons_of_mem x hy
      rw [fill_all, hx, ih hrest]
      rfl

end Piece

/-- The pieces of a text, from left to right. -/
def Matcher.pieces (m : Matcher α β) : Nat → List α → List (Piece α β)
  | fuel + 1, c :: rest =>
    match m.read (c :: rest) with
    | some (x, after) =>
      .found x ((c :: rest).take ((c :: rest).length - after.length)) :: m.pieces fuel after
    | none => .char c :: m.pieces fuel rest
  | _, _ => []

section steps
variable {m : Matcher α β} {c : α} {rest after source : List α} {x : β} {fuel : Nat}

theorem Matcher.pieces_char (h : m.read (c :: rest) = none) :
    m.pieces (fuel + 1) (c :: rest) = .char c :: m.pieces fuel rest := by
  rw [Matcher.pieces, h]

theorem Matcher.pieces_found (h : m.read (c :: rest) = some (x, after)) (heq : c :: rest = source ++ after) :
    m.pieces (fuel + 1) (c :: rest) = .found x source :: m.pieces fuel after := by
  have hsource : (c :: rest).take ((c :: rest).length - after.length) = source := by
    rw [heq, List.length_append, Nat.add_sub_cancel, List.take_left]
  rw [Matcher.pieces, h, ← hsource]

end steps

/-- The text falls into these pieces. -/
inductive Scans (m : Matcher α β) : List α → List (Piece α β) → Prop where
  | nil : Scans m [] []
  | found {source rest : List α} {x : β} {pieces : List (Piece α β)} :
      m.read (source ++ rest) = some (x, rest) → Scans m rest pieces →
      Scans m (source ++ rest) (.found x source :: pieces)
  | char {c : α} {rest : List α} {pieces : List (Piece α β)} :
      m.read (c :: rest) = none → Scans m rest pieces → Scans m (c :: rest) (.char c :: pieces)

namespace Scans

variable {m : Matcher α β} {text before rest : List α} {x : β} {pieces pieces' : List (Piece α β)}

/-- There is no match at the end of a text. -/
theorem read_nil (m : Matcher α β) : m.read [] = none := by
  cases h : m.read [] with
  | none => rfl
  | some found =>
    obtain ⟨source, hne, heq⟩ := m.consumes h
    exact absurd (List.append_eq_nil_iff.mp heq.symm).1 hne

/-- Every text falls into pieces. -/
theorem pieces_of (m : Matcher α β) {fuel : Nat} {text : List α} (hfuel : text.length ≤ fuel) :
    Scans m text (m.pieces fuel text) := by
  induction fuel generalizing text with
  | zero =>
    obtain rfl := List.length_eq_zero_iff.mp (Nat.le_zero.mp hfuel)
    exact nil
  | succ fuel ih =>
    cases text with
    | nil => exact nil
    | cons c rest =>
      cases hread : m.read (c :: rest) with
      | none =>
        rw [Matcher.pieces_char hread]
        exact char hread (ih (Nat.le_of_succ_le_succ hfuel))
      | some found =>
        obtain ⟨x, after⟩ := found
        obtain ⟨source, hne, heq⟩ := m.consumes hread
        rw [Matcher.pieces_found hread heq]
        have hpos := List.length_pos_iff.mpr hne
        rw [heq, List.length_append] at hfuel
        rw [heq] at hread ⊢
        exact found hread (ih (by omega))

/-- Together the pieces are the text. -/
theorem source (h : Scans m text pieces) : pieces.flatMap Piece.source = text := by
  induction h with
  | nil => rfl
  | found _ _ ih =>
    rw [List.flatMap_cons, ih]
    rfl
  | char _ _ ih =>
    rw [List.flatMap_cons, ih]
    rfl

/-- What has been found was read there. -/
theorem found_read (h : Scans m text pieces) {match_text : List α}
    (hmem : Piece.found x match_text ∈ pieces) :
    ∃ rest, m.read (match_text ++ rest) = some (x, rest) := by
  induction h with
  | nil => cases hmem
  | found hread _ ih =>
    rcases List.mem_cons.mp hmem with heq | hmem
    · cases heq
      exact ⟨_, hread⟩
    · exact ih hmem
  | char _ _ ih =>
    rcases List.mem_cons.mp hmem with heq | hmem
    · cases heq
    · exact ih hmem

/-- **A match is found.** A match in a text is one of its pieces, if each match that begins before it
    also ends before it. -/
theorem hit (h : Scans m (before ++ text) pieces) (hread : m.read text = some (x, rest))
    (hclear : ∀ start, start <:+ before → start ≠ [] → ∀ y after,
      m.read (start ++ text) = some (y, after) → text <:+ after) :
    ∃ earlier match_text later, pieces = earlier ++ .found x match_text :: later ∧
      earlier.flatMap Piece.source = before ∧ match_text ++ rest = text ∧ Scans m rest later := by
  generalize hwhole : before ++ text = whole at h
  induction h generalizing before with
  | nil =>
    obtain ⟨-, rfl⟩ := List.append_eq_nil_iff.mp hwhole
    rw [read_nil] at hread
    cases hread
  | @found source after y pieces hfound hafter ih =>
    cases before with
    | nil =>
      -- this is the match
      rw [List.nil_append] at hwhole
      rw [← hwhole, hread] at hfound
      cases hfound
      exact ⟨[], source, pieces, rfl, rfl, hwhole.symm, hafter⟩
    | cons c cs =>
      obtain ⟨between, hbetween⟩ := hclear (c :: cs) (List.suffix_refl _) (List.cons_ne_nil _ _) y after
        (by rw [hwhole]; exact hfound)
      subst hbetween
      have hsplit : c :: cs = source ++ between := by
        rw [← List.append_assoc] at hwhole
        exact List.append_cancel_right hwhole
      have hsuffix : between <:+ c :: cs := by
        rw [hsplit]
        exact List.suffix_append _ _
      obtain ⟨earlier, match_text, later, rfl, hsource, hrest⟩ :=
        ih (fun start hstart => hclear start (hstart.trans hsuffix)) rfl
      refine ⟨.found y source :: earlier, match_text, later, rfl, ?_, hrest⟩
      rw [List.flatMap_cons, hsource, hsplit]
      rfl
  | @char c after pieces hnone hafter ih =>
    cases before with
    | nil =>
      rw [List.nil_append] at hwhole
      rw [← hwhole, hread] at hnone
      cases hnone
    | cons d ds =>
      obtain ⟨rfl, rfl⟩ := List.cons.inj hwhole
      have hsuffix : ds <:+ d :: ds := List.suffix_cons _ _
      obtain ⟨earlier, match_text, later, rfl, hsource, hrest⟩ :=
        ih (fun start hstart => hclear start (hstart.trans hsuffix)) rfl
      refine ⟨.char d :: earlier, match_text, later, rfl, ?_, hrest⟩
      rw [List.flatMap_cons, hsource]
      rfl

end Scans

end CaseAutomation.Framework
