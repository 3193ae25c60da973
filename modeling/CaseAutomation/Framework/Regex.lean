import Mathlib.Data.List.Basic

/-! # Regular Expressions

    Patterns of character classes, word boundaries, sequences and greedy repetitions, as a backtracking
    engine runs them: at each place the alternatives are tried in a fixed order, the longest
    repetition first, and the first one that succeeds is the match.

    A place in a text is given by what stands before it, the nearest character first, and by what stands
    after it. Which characters are word characters is a parameter.

    * `Regex.ends`    : the ends of the matches at a place, in the order in which they are tried.
    * `Regex.Matches` : which texts match in which surroundings. `mem_ends`: these are the ends.
    * `Regex.Language`: what a pattern without word boundaries matches, in any surroundings
      (`matches_iff`); `Over`, `EndsIn` and `Meets` say which characters occur in it.
    * `Pattern.sub`   : every match, from left to right, is replaced. `Substitutes` says what becomes
      of a text (`sub_from_substitutes`).
-/

namespace CaseAutomation.Framework

inductive Regex (α : Type) where
  | empty
  | one (p : α → Bool)
  /-- Between a word character and something else. -/
  | boundary
  | seq (r s : Regex α)
  /-- Greedy: with `r` if it can be. -/
  | opt (r : Regex α)
  /-- Greedy: as many characters as there are. -/
  | many (p : α → Bool)

/-- A place: what stands before it, backwards, and what stands after it. -/
abbrev Place (α : Type) : Type := List α × List α

variable {α : Type}

namespace Regex

/-! ## Repetitions -/

/-- `[…]{n}`. -/
def exactly (p : α → Bool) : Nat → Regex α
  | 0 => .empty
  | n + 1 => .seq (.one p) (exactly p n)

/-- `[…]{0,n}`. -/
def at_most (p : α → Bool) : Nat → Regex α
  | 0 => .empty
  | n + 1 => .opt (.seq (.one p) (at_most p n))

/-- `[…]{n,}`. -/
def at_least (p : α → Bool) (n : Nat) : Regex α := .seq (exactly p n) (.many p)

/-- `[…]{n,m}`. -/
def between (p : α → Bool) (n m : Nat) : Regex α := .seq (exactly p n) (at_most p (m - n))

/-- A pattern between two word boundaries. -/
def bounded (body : Regex α) : Regex α := .seq .boundary (.seq body .boundary)

/-! ## Matching -/

section matching
variable (word : α → Bool)

/-- Exactly one of the two neighbours is a word character. -/
def at_boundary (before after : List α) : Bool :=
  before.head?.any word != after.head?.any word

/-- The ends of a repetition, the longest first. -/
def many_ends (p : α → Bool) : List α → List α → List (Place α)
  | before, [] => [(before, [])]
  | before, c :: rest =>
    if p c then many_ends p (c :: before) rest ++ [(before, c :: rest)] else [(before, c :: rest)]

/-- The ends of the matches at a place, in the order in which they are tried. -/
def ends : Regex α → Place α → List (Place α)
  | .empty, place => [place]
  | .one p, (before, c :: rest) => if p c then [(c :: before, rest)] else []
  | .one _, (_, []) => []
  | .boundary, (before, after) => if at_boundary word before after then [(before, after)] else []
  | .seq r s, place => (r.ends place).flatMap s.ends
  | .opt r, place => r.ends place ++ [place]
  | .many p, (before, after) => many_ends p before after

/-- The text matches between what stands before and after it. -/
def Matches : Regex α → List α → List α → List α → Prop
  | .empty, _, text, _ => text = []
  | .one p, _, text, _ => ∃ c, text = [c] ∧ p c = true
  | .boundary, before, text, after => text = [] ∧ at_boundary word before after = true
  | .seq r s, before, text, after => ∃ left right, text = left ++ right ∧
      r.Matches before left (right ++ after) ∧ s.Matches (left.reverse ++ before) right after
  | .opt r, before, text, after => r.Matches before text after ∨ text = []
  | .many p, _, text, _ => ∀ c ∈ text, p c = true

end matching

variable {word : α → Bool} {p : α → Bool} {r s : Regex α} {before text after : List α} {place : Place α}

theorem mem_many_ends : place ∈ many_ends p before text ↔
    ∃ x, text = x ++ place.2 ∧ place.1 = x.reverse ++ before ∧ ∀ c ∈ x, p c = true := by
  induction text generalizing before with
  | nil =>
    rw [many_ends, List.mem_singleton]
    constructor
    · rintro rfl
      exact ⟨[], rfl, rfl, fun c hc => absurd hc List.not_mem_nil⟩
    · rintro ⟨x, hx, hbefore, -⟩
      obtain ⟨rfl, hafter⟩ := List.append_eq_nil_iff.mp hx.symm
      exact Prod.ext hbefore hafter
  | cons c rest ih =>
    have hhere : (∃ x, c :: rest = x ++ place.2 ∧ place.1 = x.reverse ++ before ∧ ∀ d ∈ x, p d = true) ↔
        (p c = true ∧ ∃ x, rest = x ++ place.2 ∧ place.1 = x.reverse ++ c :: before ∧
          ∀ d ∈ x, p d = true) ∨ place = (before, c :: rest) := by
      constructor
      · rintro ⟨x, hx, hbefore, hall⟩
        cases x with
        | nil => exact .inr (Prod.ext hbefore hx.symm)
        | cons d x =>
          obtain ⟨rfl, hrest⟩ := List.cons.inj hx
          refine .inl ⟨hall c List.mem_cons_self, x, hrest, ?_, ?_⟩
          · simpa using hbefore
          · exact fun d hd => hall d (List.mem_cons_of_mem c hd)
      · rintro (⟨hc, x, hx, hbefore, hall⟩ | rfl)
        · refine ⟨c :: x, by rw [hx]; rfl, by simpa using hbefore, ?_⟩
          intro d hd
          rcases List.mem_cons.mp hd with rfl | hd
          · exact hc
          · exact hall d hd
        · exact ⟨[], rfl, rfl, fun d hd => absurd hd List.not_mem_nil⟩
    rw [many_ends, hhere]
    by_cases hc : p c = true
    · simp [hc, ih]
    · simp [hc]

/-- **The engine finds the matches.** -/
theorem mem_ends : place ∈ r.ends word (before, text) ↔
    ∃ x, text = x ++ place.2 ∧ place.1 = x.reverse ++ before ∧ r.Matches word before x place.2 := by
  induction r generalizing before text place with
  | empty =>
    rw [ends, List.mem_singleton]
    constructor
    · rintro rfl
      exact ⟨[], rfl, rfl, rfl⟩
    · rintro ⟨x, hx, hbefore, rfl⟩
      exact Prod.ext hbefore hx.symm
  | one p =>
    cases text with
    | nil =>
      constructor
      · intro hmem
        cases hmem
      · rintro ⟨x, hx, -, c, rfl, -⟩
        cases hx
    | cons c rest =>
      rw [ends]
      constructor
      · intro hmem
        by_cases hc : p c = true
        · rw [if_pos hc, List.mem_singleton] at hmem
          rw [hmem]
          exact ⟨[c], rfl, rfl, c, rfl, hc⟩
        · rw [if_neg hc] at hmem
          cases hmem
      · rintro ⟨x, hx, hbefore, d, rfl, hd⟩
        obtain ⟨rfl, hrest⟩ := List.cons.inj hx
        rw [if_pos hd, List.mem_singleton]
        exact Prod.ext hbefore hrest.symm
  | boundary =>
    rw [ends]
    constructor
    · intro hmem
      by_cases hboundary : at_boundary word before text = true
      · rw [if_pos hboundary, List.mem_singleton] at hmem
        rw [hmem]
        exact ⟨[], rfl, rfl, rfl, hboundary⟩
      · rw [if_neg hboundary] at hmem
        cases hmem
    · rintro ⟨x, hx, hbefore, rfl, hboundary⟩
      rw [List.nil_append] at hx
      rw [hx, if_pos hboundary, List.mem_singleton]
      exact Prod.ext hbefore rfl
  | seq r s ihr ihs =>
    rw [ends, List.mem_flatMap]
    constructor
    · rintro ⟨middle, hleft, hright⟩
      obtain ⟨x, htext, hmiddle, hmatch⟩ := ihr.mp hleft
      obtain ⟨y, hrest, hplace, hmatch'⟩ := ihs.mp hright
      refine ⟨x ++ y, ?_, ?_, x, y, rfl, ?_, ?_⟩
      · rw [htext, hrest, List.append_assoc]
      · rw [hplace, hmiddle, List.reverse_append, List.append_assoc]
      · rw [← hrest]
        exact hmatch
      · rw [← hmiddle]
        exact hmatch'
    · rintro ⟨x, htext, hplace, left, right, rfl, hmatch, hmatch'⟩
      refine ⟨(left.reverse ++ before, right ++ place.2), ihr.mpr ⟨left, ?_, rfl, hmatch⟩,
        ihs.mpr ⟨right, rfl, ?_, hmatch'⟩⟩
      · rw [htext, List.append_assoc]
      · rw [hplace, List.reverse_append, List.append_assoc]
  | opt r ih =>
    rw [ends, List.mem_append, ih, List.mem_singleton]
    constructor
    · rintro (⟨x, htext, hplace, hmatch⟩ | rfl)
      · exact ⟨x, htext, hplace, .inl hmatch⟩
      · exact ⟨[], rfl, rfl, .inr rfl⟩
    · rintro ⟨x, htext, hplace, hmatch | rfl⟩
      · exact .inl ⟨x, htext, hplace, hmatch⟩
      · exact .inr (Prod.ext hplace htext.symm)
  | many p => exact mem_many_ends

/-- A match begins here. -/
theorem ends_ne_nil : r.ends word (before, text) ≠ [] ↔
    ∃ x rest, text = x ++ rest ∧ r.Matches word before x rest := by
  constructor
  · intro h
    obtain ⟨place, hplace⟩ := List.exists_mem_of_ne_nil _ h
    obtain ⟨x, htext, -, hmatch⟩ := mem_ends.mp hplace
    exact ⟨x, place.2, htext, hmatch⟩
  · rintro ⟨x, rest, htext, hmatch⟩
    have hplace : (x.reverse ++ before, rest) ∈ r.ends word (before, text) :=
      mem_ends.mpr ⟨x, htext, rfl, hmatch⟩
    exact List.ne_nil_of_mem hplace

/-- Whether a match begins somewhere. -/
def search (word : α → Bool) (r : Regex α) : List α → List α → Bool
  | before, [] => !(r.ends word (before, [])).isEmpty
  | before, c :: rest =>
    !(r.ends word (before, c :: rest)).isEmpty || search word r (c :: before) rest

/-- The text occurs, and matches where it does. -/
def Occurs (word : α → Bool) (r : Regex α) (before text : List α) : Prop :=
  ∃ y x rest, text = y ++ (x ++ rest) ∧ r.Matches word (y.reverse ++ before) x rest

theorem search_iff : r.search word before text = true ↔ r.Occurs word before text := by
  have hhere : ∀ before text : List α, (!(r.ends word (before, text)).isEmpty) = true ↔
      ∃ x rest, text = x ++ rest ∧ r.Matches word before x rest := by
    intro before text
    rw [← ends_ne_nil, Bool.not_eq_true', List.isEmpty_eq_false_iff]
  induction text generalizing before with
  | nil =>
    rw [search, hhere]
    constructor
    · rintro ⟨x, rest, htext, hmatch⟩
      exact ⟨[], x, rest, htext, hmatch⟩
    · rintro ⟨y, x, rest, htext, hmatch⟩
      obtain ⟨rfl, hnil⟩ := List.append_eq_nil_iff.mp htext.symm
      exact ⟨x, rest, hnil.symm, hmatch⟩
  | cons c text ih =>
    have hlater : r.search word (c :: before) text = true ↔ r.Occurs word (c :: before) text := ih
    rw [search, Bool.or_eq_true, hhere, hlater]
    constructor
    · rintro (⟨x, rest, htext, hmatch⟩ | ⟨y, x, rest, htext, hmatch⟩)
      · exact ⟨[], x, rest, htext, hmatch⟩
      · refine ⟨c :: y, x, rest, by rw [htext]; rfl, ?_⟩
        rw [List.reverse_cons, List.append_assoc]
        exact hmatch
    · rintro ⟨y, x, rest, htext, hmatch⟩
      cases y with
      | nil => exact .inl ⟨x, rest, htext, hmatch⟩
      | cons d y =>
        obtain ⟨rfl, hafter⟩ := List.cons.inj htext
        refine .inr ⟨y, x, rest, hafter, ?_⟩
        rw [List.reverse_cons, List.append_assoc] at hmatch
        exact hmatch

/-! ## Patterns without word boundaries -/

def is_plain : Regex α → Bool
  | .boundary => false
  | .seq r s => r.is_plain && s.is_plain
  | .opt r => r.is_plain
  | _ => true

@[simp] theorem is_plain_exactly (p : α → Bool) (n : Nat) : (exactly p n).is_plain = true := by
  induction n with
  | zero => rfl
  | succ n ih => exact ih

@[simp] theorem is_plain_at_most (p : α → Bool) (n : Nat) : (at_most p n).is_plain = true := by
  induction n with
  | zero => rfl
  | succ n ih => exact ih

/-- What matches, whatever the surroundings. -/
def Language : Regex α → List α → Prop
  | .empty, text => text = []
  | .one p, text => ∃ c, text = [c] ∧ p c = true
  | .boundary, text => text = []
  | .seq r s, text => ∃ left right, text = left ++ right ∧ r.Language left ∧ s.Language right
  | .opt r, text => r.Language text ∨ text = []
  | .many p, text => ∀ c ∈ text, p c = true

theorem matches_iff (h : r.is_plain = true) (before text after : List α) :
    r.Matches word before text after ↔ r.Language text := by
  induction r generalizing before text after with
  | boundary => cases h
  | seq r s ihr ihs =>
    obtain ⟨hr, hs⟩ := Bool.and_eq_true_iff.mp h
    simp only [Matches, Language, ihr hr, ihs hs]
  | opt r ih =>
    simp only [Matches, Language, ih h]
  | _ => rfl

/-- Between word boundaries. -/
theorem matches_bounded_iff {body : Regex α} (h : body.is_plain = true) (before text after : List α) :
    (bounded body).Matches word before text after ↔
      at_boundary word before (text ++ after) = true ∧ body.Language text ∧
        at_boundary word (text.reverse ++ before) after = true := by
  constructor
  · rintro ⟨x, y, rfl, ⟨rfl, hstart⟩, z, w, rfl, hbody, rfl, hstop⟩
    rw [matches_iff h] at hbody
    simp only [List.nil_append, List.append_nil, List.reverse_nil] at hstart hbody hstop ⊢
    exact ⟨hstart, hbody, hstop⟩
  · rintro ⟨hstart, hbody, hstop⟩
    refine ⟨[], text, rfl, ⟨rfl, hstart⟩, text, [], by rw [List.append_nil], ?_, rfl, hstop⟩
    exact (matches_iff h _ _ _).mpr hbody

section characters
variable {P : α → Prop} {n m : Nat}

/-- Only these characters occur. -/
def Over (P : α → Prop) (r : Regex α) : Prop := ∀ text, r.Language text → ∀ c ∈ text, P c

/-- Each match ends in such a character. -/
def EndsIn (P : α → Prop) (r : Regex α) : Prop :=
  ∀ text, r.Language text → ∃ c, text.reverse.head? = some c ∧ P c

/-- Each match has such a character. -/
def Meets (P : α → Prop) (r : Regex α) : Prop := ∀ text, r.Language text → ∃ c ∈ text, P c

theorem language_exactly : (exactly p n).Language text ↔ text.length = n ∧ ∀ c ∈ text, p c = true := by
  induction n generalizing text with
  | zero =>
    rw [exactly, Language, List.length_eq_zero_iff]
    constructor
    · rintro rfl
      exact ⟨rfl, fun c hc => absurd hc List.not_mem_nil⟩
    · exact And.left
  | succ n ih =>
    rw [exactly, Language]
    constructor
    · rintro ⟨left, right, rfl, ⟨c, rfl, hc⟩, hright⟩
      obtain ⟨hlength, hall⟩ := ih.mp hright
      refine ⟨by simp [hlength], ?_⟩
      intro d hd
      rcases List.mem_cons.mp hd with rfl | hd
      · exact hc
      · exact hall d hd
    · rintro ⟨hlength, hall⟩
      cases text with
      | nil => cases hlength
      | cons c text =>
        refine ⟨[c], text, rfl, ⟨c, rfl, hall c List.mem_cons_self⟩, ih.mpr ⟨?_, ?_⟩⟩
        · simpa using hlength
        · exact fun d hd => hall d (List.mem_cons_of_mem c hd)

theorem language_at_most (h : (at_most p n).Language text) : ∀ c ∈ text, p c = true := by
  induction n generalizing text with
  | zero =>
    rw [show text = [] from h]
    exact fun c hc => absurd hc List.not_mem_nil
  | succ n ih =>
    rcases h with ⟨left, right, rfl, ⟨c, rfl, hc⟩, hright⟩ | rfl
    · intro d hd
      rcases List.mem_cons.mp hd with rfl | hd
      · exact hc
      · exact ih hright d hd
    · exact fun c hc => absurd hc List.not_mem_nil

theorem Over.one (h : ∀ c, p c = true → P c) : (Regex.one p).Over P := by
  rintro text ⟨c, rfl, hc⟩ d hd
  rw [List.mem_singleton.mp hd]
  exact h c hc

theorem Over.many (h : ∀ c, p c = true → P c) : (Regex.many p).Over P :=
  fun _ htext c hc => h c (htext c hc)

theorem Over.seq (hr : r.Over P) (hs : s.Over P) : (Regex.seq r s).Over P := by
  rintro text ⟨left, right, rfl, hleft, hright⟩ c hc
  rcases List.mem_append.mp hc with hc | hc
  · exact hr left hleft c hc
  · exact hs right hright c hc

theorem Over.opt (hr : r.Over P) : (Regex.opt r).Over P := by
  rintro text (htext | rfl) c hc
  · exact hr text htext c hc
  · cases hc

theorem Over.exactly (h : ∀ c, p c = true → P c) : (Regex.exactly p n).Over P :=
  fun _ htext c hc => h c ((language_exactly.mp htext).2 c hc)

theorem Over.at_most (h : ∀ c, p c = true → P c) : (Regex.at_most p n).Over P :=
  fun _ htext c hc => h c (language_at_most htext c hc)

theorem Over.at_least (h : ∀ c, p c = true → P c) : (Regex.at_least p n).Over P :=
  (Over.exactly h).seq (Over.many h)

theorem Over.between (h : ∀ c, p c = true → P c) : (Regex.between p n m).Over P :=
  (Over.exactly h).seq (Over.at_most h)

theorem Meets.one (h : ∀ c, p c = true → P c) : (Regex.one p).Meets P := by
  rintro text ⟨c, rfl, hc⟩
  exact ⟨c, List.mem_cons_self, h c hc⟩

theorem Meets.left (hr : r.Meets P) : (Regex.seq r s).Meets P := by
  rintro text ⟨left, right, rfl, hleft, -⟩
  obtain ⟨c, hc, hP⟩ := hr left hleft
  exact ⟨c, List.mem_append_left _ hc, hP⟩

theorem Meets.right (hs : s.Meets P) : (Regex.seq r s).Meets P := by
  rintro text ⟨left, right, rfl, -, hright⟩
  obtain ⟨c, hc, hP⟩ := hs right hright
  exact ⟨c, List.mem_append_right _ hc, hP⟩

theorem Meets.exactly (h : ∀ c, p c = true → P c) : (Regex.exactly p (n + 1)).Meets P :=
  (Meets.one h).left

theorem EndsIn.right (hs : s.EndsIn P) : (Regex.seq r s).EndsIn P := by
  rintro text ⟨left, right, rfl, -, hright⟩
  obtain ⟨c, hc, hP⟩ := hs right hright
  refine ⟨c, ?_, hP⟩
  rw [List.reverse_append, List.head?_append, hc]
  rfl

/-- A pattern of such characters that matches no empty text. -/
theorem EndsIn.of_over (hr : r.Over P) (hmeets : r.Meets fun _ => True) : r.EndsIn P := by
  intro text htext
  obtain ⟨d, hd, -⟩ := hmeets text htext
  cases hlast : text.reverse.head? with
  | none =>
    rw [List.head?_eq_none_iff, List.reverse_eq_nil_iff] at hlast
    rw [hlast] at hd
    cases hd
  | some c => exact ⟨c, rfl, hr text htext c (List.mem_reverse.mp (List.mem_of_mem_head? hlast))⟩

end characters

end Regex

/-! ## Substitution -/

/-- A regular expression whose matches are not empty. -/
structure Pattern (α : Type) (word : α → Bool) where
  regex : Regex α
  consumes : ∀ {before text after : List α}, regex.Matches word before text after → text ≠ []

namespace Pattern

variable {word : α → Bool}

/-- A pattern between two word boundaries. -/
def bounded (body : Regex α) (hplain : body.is_plain = true) (hmeets : body.Meets fun _ => True) :
    Pattern α word where
  regex := .bounded body
  consumes := by
    intro before text after hmatch hnil
    obtain ⟨c, hc, -⟩ := hmeets text ((Regex.matches_bounded_iff hplain before text after).mp hmatch).2.1
    rw [hnil] at hc
    cases hc

/-- The rest of the text behind the match at a place, if there is one. -/
def match_here (r : Pattern α word) (before text : List α) : Option (List α) :=
  (r.regex.ends word (before, text)).head?.map Prod.snd

/-- The text with each match replaced, from left to right; of a match that is being replaced `skip`
    characters are still to come. -/
def sub_from (r : Pattern α word) (replacement : List α) : Nat → List α → List α → List α
  | _, _, [] => []
  | skip + 1, before, c :: rest => sub_from r replacement skip (c :: before) rest
  | 0, before, c :: rest =>
    match r.match_here before (c :: rest) with
    | some after =>
      replacement ++ sub_from r replacement (rest.length - after.length) (c :: before) rest
    | none => c :: sub_from r replacement 0 (c :: before) rest

/-- The text with each match replaced. -/
def sub (r : Pattern α word) (replacement text : List α) : List α := r.sub_from replacement 0 [] text

/-- A match occurs in the text. -/
def search (r : Pattern α word) (text : List α) : Bool := r.regex.search word [] text

section sub
variable {r : Pattern α word} {replacement before text rest out : List α} {c : α}

theorem match_here_some (h : r.match_here before text = some rest) :
    ∃ x, text = x ++ rest ∧ x ≠ [] ∧ r.regex.Matches word before x rest := by
  obtain ⟨place, hplace, rfl⟩ := Option.map_eq_some_iff.mp h
  obtain ⟨x, htext, -, hmatch⟩ := Regex.mem_ends.mp (List.mem_of_mem_head? hplace)
  exact ⟨x, htext, r.consumes hmatch, hmatch⟩

theorem match_here_none (h : r.match_here before text = none) (x : List α) (hx : text = x ++ rest) :
    ¬ r.regex.Matches word before x rest := by
  intro hmatch
  have hne := Regex.ends_ne_nil.mpr ⟨x, rest, hx, hmatch⟩
  rw [match_here, Option.map_eq_none_iff, List.head?_eq_none_iff] at h
  exact hne h

theorem sub_from_skip (x : List α) :
    r.sub_from replacement x.length before (x ++ text) =
      r.sub_from replacement 0 (x.reverse ++ before) text := by
  induction x generalizing before with
  | nil => rfl
  | cons c x ih =>
    rw [List.length_cons, List.cons_append, sub_from, ih, List.reverse_cons, List.append_assoc]
    rfl

/-- What becomes of a text. -/
inductive Substitutes (r : Pattern α word) (replacement : List α) : List α → List α → List α → Prop where
  | nil {before : List α} : Substitutes r replacement before [] []
  | found {before x rest out : List α} : r.regex.Matches word before x rest →
      Substitutes r replacement (x.reverse ++ before) rest out →
      Substitutes r replacement before (x ++ rest) (replacement ++ out)
  | kept {before : List α} {c : α} {rest out : List α} :
      (∀ x after, c :: rest = x ++ after → ¬ r.regex.Matches word before x after) →
      Substitutes r replacement (c :: before) rest out →
      Substitutes r replacement before (c :: rest) (c :: out)

theorem sub_from_substitutes (r : Pattern α word) (replacement before text : List α) :
    Substitutes r replacement before text (r.sub_from replacement 0 before text) := by
  induction hn : text.length using Nat.strongRecOn generalizing before text with
  | ind n ih =>
    subst hn
    cases text with
    | nil => exact .nil
    | cons c rest =>
      cases hmatch : r.match_here before (c :: rest) with
      | none =>
        rw [sub_from, hmatch]
        exact .kept (fun x after hx => match_here_none hmatch x hx)
          (ih rest.length (Nat.lt_succ_self _) (c :: before) rest rfl)
      | some after =>
        rw [sub_from, hmatch]
        obtain ⟨x, htext, hne, hx⟩ := match_here_some hmatch
        cases x with
        | nil => exact absurd rfl hne
        | cons d x =>
          obtain ⟨rfl, -⟩ := List.cons.inj htext
          have hrest : rest = x ++ after := (List.cons.inj htext).2
          have hskip : rest.length - after.length = x.length := by
            rw [hrest, List.length_append, Nat.add_sub_cancel]
          have hshorter : after.length < (c :: rest).length := by
            rw [List.length_cons, hrest, List.length_append]
            omega
          have hplace : x.reverse ++ c :: before = (c :: x).reverse ++ before := by
            rw [List.reverse_cons, List.append_assoc]
            rfl
          -- the rest of the match is skipped
          simp only
          rw [hskip, hrest, sub_from_skip, hplace]
          exact .found hx (ih after.length hshorter _ after rfl)

theorem search_eq_false_iff : r.search text = false ↔ ¬ r.regex.Occurs word [] text := by
  rw [search, ← Regex.search_iff, Bool.not_eq_true]

theorem sub_from_eq_self (h : ¬ r.regex.Occurs word before text) :
    r.sub_from replacement 0 before text = text := by
  induction text generalizing before with
  | nil => rfl
  | cons c rest ih =>
    cases hmatch : r.match_here before (c :: rest) with
    | some after =>
      obtain ⟨x, htext, -, hx⟩ := match_here_some hmatch
      exact absurd ⟨[], x, after, htext, hx⟩ h
    | none =>
      rw [sub_from, hmatch]
      simp only
      rw [ih]
      rintro ⟨y, x, after, htext, hx⟩
      refine h ⟨c :: y, x, after, by rw [htext]; rfl, ?_⟩
      rw [List.reverse_cons, List.append_assoc]
      exact hx

/-- Without a match nothing is replaced. -/
theorem sub_eq_self (h : r.search text = false) : r.sub replacement text = text :=
  sub_from_eq_self (search_eq_false_iff.mp h)

end sub

end Pattern

end CaseAutomation.Framework
