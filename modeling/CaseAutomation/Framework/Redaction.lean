import CaseAutomation.Framework.Regex

/-! # Redaction

    Rules that each replace the matches of a pattern by one marker, one rule after another.

    Whether a pattern matches depends on the neighbours of the match, and these change when something
    next to it is replaced. `Redactable` says when this cannot matter: the match lies between
    two word boundaries and ends in a word character, the marker begins and ends with characters
    that are part of no match, and no match lies inside the marker.

    * `Substitutes.occurs`: what then occurs after a substitution has occurred before, at a place
      that the substitution has left alone.
    * `redact_clean`      : after all rules no pattern occurs.
-/

namespace CaseAutomation.Framework

variable {α : Type} {word : α → Bool}

open Regex Pattern

/-- What stands in the place of a match. -/
structure Marker (α : Type) where
  opening : α
  inner : List α
  closing : α

def Marker.text (m : Marker α) : List α := m.opening :: m.inner ++ [m.closing]

/-- The marker cannot make or hide a match of the pattern. -/
structure Redactable (m : Marker α) (r : Pattern α word) : Prop where
  /-- The surroundings matter at the two ends only. -/
  framed : ∃ body : List α → Prop, ∀ before text after,
    r.regex.Matches word before text after ↔
      at_boundary word before (text ++ after) = true ∧ body text ∧
        at_boundary word (text.reverse ++ before) after = true
  ends_in_word : ∀ {before text after}, r.regex.Matches word before text after →
    ∃ c, text.reverse.head? = some c ∧ word c = true
  avoids : ∀ {before text after}, r.regex.Matches word before text after →
    m.opening ∉ text ∧ m.closing ∉ text
  foreign : ∀ {before text after}, r.regex.Matches word before text after →
    ∃ c ∈ text, c ∉ m.text

theorem at_boundary_congr {before before' after after' : List α} (hbefore : before.head? = before'.head?)
    (hafter : after.head? = after'.head?) :
    at_boundary word before after = at_boundary word before' after' := by
  unfold at_boundary
  rw [hbefore, hafter]

/-- What is to be shown of a pattern between two word boundaries. -/
theorem Redactable.of_bounded {m : Marker α} {r : Pattern α word} {body : Regex α}
    (hregex : r.regex = Regex.bounded body) (hplain : body.is_plain = true)
    (hends : body.EndsIn fun c => word c = true)
    (hover : body.Over fun c => c ≠ m.opening ∧ c ≠ m.closing)
    (hmeets : body.Meets fun c => c ∉ m.text) : Redactable m r := by
  have hlanguage : ∀ {before text after}, r.regex.Matches word before text after → body.Language text := by
    intro before text after hmatch
    rw [hregex] at hmatch
    exact ((matches_bounded_iff hplain before text after).mp hmatch).2.1
  refine ⟨⟨body.Language, ?_⟩, fun hmatch => hends _ (hlanguage hmatch), fun hmatch => ⟨?_, ?_⟩,
    fun hmatch => hmeets _ (hlanguage hmatch)⟩
  · intro before text after
    rw [hregex]
    exact matches_bounded_iff hplain before text after
  · intro hmem
    exact (hover _ (hlanguage hmatch) _ hmem).1 rfl
  · intro hmem
    exact (hover _ (hlanguage hmatch) _ hmem).2 rfl

section substitution
variable {m : Marker α} {r q : Pattern α word} {before text out x after : List α}

theorem Redactable.start (h : Redactable m r) (hmatch : r.regex.Matches word before x after) :
    at_boundary word before (x ++ after) = true := by
  obtain ⟨body, hframed⟩ := h.framed
  exact ((hframed before x after).mp hmatch).1

theorem Redactable.stop (h : Redactable m r) (hmatch : r.regex.Matches word before x after) :
    at_boundary word (x.reverse ++ before) after = true := by
  obtain ⟨body, hframed⟩ := h.framed
  exact ((hframed before x after).mp hmatch).2.2

/-- The same text matches in other surroundings with the same boundaries. -/
theorem Redactable.moved (h : Redactable m r) {before' after' : List α}
    (hmatch : r.regex.Matches word before x after)
    (hstart : at_boundary word before' (x ++ after') = true)
    (hstop : at_boundary word (x.reverse ++ before') after' = true) :
    r.regex.Matches word before' x after' := by
  obtain ⟨body, hframed⟩ := h.framed
  exact (hframed before' x after').mpr ⟨hstart, ((hframed before x after).mp hmatch).2.1, hstop⟩

/-- Text without the first character of the marker was there before, and what came behind it either
    begins alike or was a match. -/
theorem Substitutes.kept_prefix (hr : Redactable m r) (h : Substitutes r m.text before text out)
    (hout : out = x ++ after) (hopening : m.opening ∉ x) :
    ∃ rest, text = x ++ rest ∧ (rest.head? = after.head? ∨
      after.head? = some m.opening ∧ at_boundary word (x.reverse ++ before) rest = true) := by
  induction h generalizing x with
  | nil =>
    obtain ⟨rfl, rfl⟩ := List.append_eq_nil_iff.mp hout.symm
    exact ⟨[], rfl, .inl rfl⟩
  | @found before y rest out hmatch _ ih =>
    cases x with
    | nil =>
      refine ⟨y ++ rest, rfl, .inr ⟨?_, hr.start hmatch⟩⟩
      rw [List.nil_append] at hout
      rw [← hout]
      rfl
    | cons c x =>
      -- the marker would begin in it
      have hhead : m.opening = c := (List.cons.inj hout).1
      rw [hhead] at hopening
      exact absurd List.mem_cons_self hopening
  | @kept before c rest out hnone _ ih =>
    cases x with
    | nil =>
      refine ⟨c :: rest, rfl, .inl ?_⟩
      rw [List.nil_append] at hout
      rw [← hout]
      rfl
    | cons d x =>
      obtain ⟨rfl, htail⟩ := List.cons.inj hout
      obtain ⟨rest', hrest, hnext⟩ := ih htail (fun hmem => hopening (List.mem_cons_of_mem _ hmem))
      refine ⟨rest', by rw [hrest]; rfl, ?_⟩
      rw [List.reverse_cons, List.append_assoc]
      exact hnext

/-- What stands before a place after the substitution, against what stood there before it: the same
    character, or the end of a marker instead of the end of a match. -/
def Seam (word : α → Bool) (m : Marker α) (before' before text : List α) : Prop :=
  before'.head? = before.head? ∨
    before'.head? = some m.closing ∧ at_boundary word before text = true ∧ before.head?.any word = true

theorem head?_append_of_ne_nil {xs : List α} (h : xs ≠ []) (ys : List α) :
    (xs ++ ys).head? = xs.head? := by
  cases xs with
  | nil => exact absurd rfl h
  | cons c xs => rfl

/-- A match that begins with a kept character has matched before. -/
theorem Substitutes.kept_match (hr : Redactable m r) (hq : Redactable m q) {before' : List α}
    (h : Substitutes r m.text before text out) (hseam : Seam word m before' before text)
    (hout : out = x ++ after) (hmatch : q.regex.Matches word before' x after) :
    ∃ rest, text = x ++ rest ∧ q.regex.Matches word before x rest := by
  obtain ⟨rest, htext, hnext⟩ := Substitutes.kept_prefix hr h hout (hq.avoids hmatch).1
  have hne : x ≠ [] := q.consumes hmatch
  have hne' : x.reverse ≠ [] := by simpa using hne
  refine ⟨rest, htext, hq.moved hmatch ?_ ?_⟩
  · rcases hseam with hsame | ⟨-, hboundary, -⟩
    · rw [← hq.start hmatch]
      refine at_boundary_congr hsame.symm ?_
      rw [head?_append_of_ne_nil hne, head?_append_of_ne_nil hne]
    · rw [← htext]
      exact hboundary
  · rcases hnext with hsame | ⟨-, hboundary⟩
    · rw [← hq.stop hmatch]
      refine at_boundary_congr ?_ hsame
      rw [head?_append_of_ne_nil hne', head?_append_of_ne_nil hne']
    · exact hboundary

/-- No match begins in the marker. -/
theorem behind_marker (hq : Redactable m q) {before' y : List α} (hout : m.text ++ out = y ++ (x ++ after))
    (hmatch : q.regex.Matches word before' x after) :
    ∃ z, y = m.text ++ z ∧ out = z ++ (x ++ after) := by
  rcases List.append_eq_append_iff.mp hout with ⟨z, hy, hrest⟩ | ⟨z, hmarker, hrest⟩
  · exact ⟨z, hy, hrest⟩
  · cases hz : z.getLast? with
    | none =>
      rw [List.getLast?_eq_none_iff.mp hz, List.append_nil] at hmarker
      rw [List.getLast?_eq_none_iff.mp hz, List.nil_append] at hrest
      exact ⟨[], by rw [List.append_nil, hmarker], hrest.symm⟩
    | some c =>
      -- the rest of the marker ends as the marker does, and is too long for the match
      have hclosing : m.closing ∈ z := by
        have hlast : m.text.getLast? = some m.closing := List.getLast?_concat
        rw [hmarker, List.getLast?_append, hz] at hlast
        cases hlast
        exact List.mem_of_getLast? hz
      rcases List.append_eq_append_iff.mp hrest with ⟨w, hinside, -⟩ | ⟨w, hacross, -⟩
      · obtain ⟨d, hd, hforeign⟩ := hq.foreign hmatch
        refine absurd ?_ hforeign
        rw [hmarker, hinside]
        exact List.mem_append_right _ (List.mem_append_left _ hd)
      · refine absurd ?_ (hq.avoids hmatch).2
        rw [hacross]
        exact List.mem_append_left _ hclosing

/-- **Nothing is made.** What occurs after a substitution has occurred before, where no match was
    replaced. -/
theorem Substitutes.occurs (hr : Redactable m r) (hq : Redactable m q) {before' y : List α}
    (h : Substitutes r m.text before text out) (hseam : Seam word m before' before text)
    (hout : out = y ++ (x ++ after)) (hmatch : q.regex.Matches word (y.reverse ++ before') x after) :
    ∃ z rest, text = z ++ (x ++ rest) ∧ q.regex.Matches word (z.reverse ++ before) x rest ∧
      ∀ x' rest', x ++ rest = x' ++ rest' → ¬ r.regex.Matches word (z.reverse ++ before) x' rest' := by
  have hne : x ≠ [] := q.consumes hmatch
  induction h generalizing before' y with
  | nil =>
    obtain ⟨-, hnil⟩ := List.append_eq_nil_iff.mp hout.symm
    exact absurd (List.append_eq_nil_iff.mp hnil).1 hne
  | @found before x₀ rest out hfound _ ih =>
    obtain ⟨z, rfl, hrest⟩ := behind_marker hq hout hmatch
    -- behind the marker, which ends a match
    have hseam' : Seam word m (m.text.reverse ++ before') (x₀.reverse ++ before) rest := by
      obtain ⟨c, hc, hword⟩ := hr.ends_in_word hfound
      refine .inr ⟨?_, hr.stop hfound, ?_⟩
      · simp [Marker.text]
      · rw [List.head?_append, hc]
        exact hword
    rw [List.reverse_append, List.append_assoc] at hmatch
    obtain ⟨z', rest', htext, hmatch', hnone⟩ := ih hseam' hrest hmatch
    refine ⟨x₀ ++ z', rest', by rw [htext, List.append_assoc], ?_, ?_⟩
    · rw [List.reverse_append, List.append_assoc]
      exact hmatch'
    · rw [List.reverse_append, List.append_assoc]
      exact hnone
  | @kept before c rest out hnone hrest ih =>
    cases y with
    | nil =>
      rw [List.nil_append] at hout
      obtain ⟨rest', htext, hmatch'⟩ := Substitutes.kept_match hr hq (.kept hnone hrest) hseam hout hmatch
      refine ⟨[], rest', htext, hmatch', ?_⟩
      intro x' after' hx'
      exact hnone x' after' (by rw [htext, hx'])
    | cons d y =>
      obtain ⟨rfl, htail⟩ := List.cons.inj hout
      have hseam' : Seam word m (c :: before') (c :: before) rest := .inl rfl
      rw [List.reverse_cons, List.append_assoc] at hmatch
      obtain ⟨z, rest', htext, hmatch', hnone'⟩ := ih hseam' htail hmatch
      refine ⟨c :: z, rest', by rw [htext]; rfl, ?_, ?_⟩
      · rw [List.reverse_cons, List.append_assoc]
        exact hmatch'
      · rw [List.reverse_cons, List.append_assoc]
        exact hnone'

end substitution

/-! ## Rules -/

/-- One rule after another. -/
def redact (m : Marker α) (rules : List (Pattern α word)) (text : List α) : List α :=
  rules.foldl (fun text r => r.sub m.text text) text

section rules
variable {m : Marker α} {r q : Pattern α word} {rules : List (Pattern α word)} {text : List α}

/-- A substitution is complete. -/
theorem search_sub_self (hr : Redactable m r) (text : List α) : r.search (r.sub m.text text) = false := by
  rw [search_eq_false_iff]
  rintro ⟨y, x, after, hout, hmatch⟩
  obtain ⟨z, rest, -, hmatch', hnone⟩ := Substitutes.occurs hr hr
    (r.sub_from_substitutes m.text [] text) (.inl rfl) hout hmatch
  exact hnone x rest rfl hmatch'

/-- A substitution makes no match of another pattern. -/
theorem search_sub (hr : Redactable m r) (hq : Redactable m q) (h : q.search text = false) :
    q.search (r.sub m.text text) = false := by
  rw [search_eq_false_iff] at h ⊢
  rintro ⟨y, x, after, hout, hmatch⟩
  obtain ⟨z, rest, htext, hmatch', -⟩ := Substitutes.occurs hr hq
    (r.sub_from_substitutes m.text [] text) (.inl rfl) hout hmatch
  exact h ⟨z, x, rest, htext, hmatch'⟩

/-- What did not occur does not occur after any number of rules. -/
theorem search_redact (hrules : ∀ r ∈ rules, Redactable m r) (hq : Redactable m q)
    (h : q.search text = false) : q.search (redact m rules text) = false := by
  induction rules generalizing text with
  | nil => exact h
  | cons r rules ih =>
    exact ih (fun r' hr' => hrules r' (List.mem_cons_of_mem r hr'))
      (search_sub (hrules r List.mem_cons_self) hq h)

/-- **Nothing is left.** -/
theorem redact_clean (hrules : ∀ r ∈ rules, Redactable m r) (text : List α) :
    ∀ r ∈ rules, r.search (redact m rules text) = false := by
  induction rules generalizing text with
  | nil => exact fun r hr => absurd hr List.not_mem_nil
  | cons r rules ih =>
    have hr := hrules r List.mem_cons_self
    have hlater : ∀ r' ∈ rules, Redactable m r' := fun r' hr' => hrules r' (List.mem_cons_of_mem r hr')
    intro r' hr'
    show r'.search (redact m rules (r.sub m.text text)) = false
    rcases List.mem_cons.mp hr' with rfl | hr'
    · exact search_redact hlater hr (search_sub_self hr text)
    · exact ih hlater (r.sub m.text text) r' hr'

end rules

end CaseAutomation.Framework
