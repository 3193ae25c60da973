import Mathlib.Data.List.Basic

/-! # Text with Markup

    A document is read by a scanner with three modes: plain text, inside a tag, inside a quoted
    attribute value. Its *markup* is what stands inside tags, with the attribute values left
    out: two documents with the same markup have the same elements with the same attributes.

    A page is woven from literal pieces and values. If every value keeps the mode in which it
    stands, the markup is that of the pieces and of the values' own (`markup_weave`); outside of
    tags, a value without markup characters has none (`Markless.fits`).
    Escaping by character references is injective (`flatMap_code_injective`).
-/

namespace CaseAutomation.Framework

/-! ## The scanner -/

inductive Mode where
  | text
  | tag
  | quoted
  deriving DecidableEq, Repr

def Mode.next : Mode → Char → Mode
  | .text, c => if c = '<' then .tag else .text
  | .tag, c => if c = '>' then .text else if c = '"' then .quoted else .tag
  | .quoted, c => if c = '"' then .tag else .quoted

/-- The mode after a text. -/
def scan (mode : Mode) (cs : List Char) : Mode := cs.foldl Mode.next mode

@[simp] theorem scan_nil (mode : Mode) : scan mode [] = mode := rfl

@[simp] theorem scan_cons (mode : Mode) (c : Char) (cs : List Char) :
    scan mode (c :: cs) = scan (mode.next c) cs := rfl

/-- What stands inside tags; values of attributes are left out. -/
def markup : Mode → List Char → List Char
  | _, [] => []
  | mode, c :: cs =>
    if mode = .tag ∨ mode.next c = .tag then c :: markup (mode.next c) cs
    else markup (mode.next c) cs

@[simp] theorem scan_append (mode : Mode) (xs ys : List Char) :
    scan mode (xs ++ ys) = scan (scan mode xs) ys := List.foldl_append

@[simp] theorem markup_append (mode : Mode) (xs ys : List Char) :
    markup mode (xs ++ ys) = markup mode xs ++ markup (scan mode xs) ys := by
  induction xs generalizing mode with
  | nil => rfl
  | cons c cs ih =>
    simp only [List.cons_append, markup, scan_cons, ih (mode.next c)]
    split
    · rfl
    · rfl

/-- How the scanner reads a literal. -/
theorem scan_ofList (mode : Mode) (cs : List Char) :
    scan mode (String.ofList cs).toList = scan mode cs := by
  rw [String.toList_ofList]

theorem scan_concat (mode : Mode) (s t : String) :
    scan mode (s ++ t).toList = scan (scan mode s.toList) t.toList := by
  rw [String.toList_append, scan_append]

/-! ## Values in a document -/

/-- A value that keeps the mode in which it stands. -/
def Fits (mode : Mode) (value : List Char) : Prop := scan mode value = mode

/-- No markup characters. -/
def Markless (value : List Char) : Prop := ∀ c ∈ value, c ≠ '<' ∧ c ≠ '"'

theorem Markless.nil : Markless [] := by
  intro c hc
  simp at hc

/-- Outside of tags, a value without markup characters changes nothing. -/
theorem Markless.fits {mode : Mode} {value : List Char} (h : Markless value) (hmode : mode ≠ .tag) :
    Fits mode value ∧ markup mode value = [] := by
  induction value with
  | nil => exact ⟨rfl, rfl⟩
  | cons c cs ih =>
    have hc := h c List.mem_cons_self
    have hrest := ih fun d hd => h d (List.mem_cons_of_mem c hd)
    have hnext : mode.next c = mode := by
      cases mode with
      | text => simp [Mode.next, hc.1]
      | tag => exact absurd rfl hmode
      | quoted => simp [Mode.next, hc.2]
    constructor
    · show scan (mode.next c) cs = mode
      rw [hnext]
      exact hrest.1
    · simp [markup, hnext, hmode, hrest.2]

/-- Two values that can stand for each other: both fit, and they have the same markup. -/
structure Matches (mode : Mode) (value value' : String) : Prop where
  fits : Fits mode value.toList
  fits' : Fits mode value'.toList
  same : markup mode value.toList = markup mode value'.toList

/-- Outside of tags, values without markup characters can. -/
theorem Matches.markless {mode : Mode} {value value' : String} (hmode : mode ≠ .tag)
    (h : Markless value.toList) (h' : Markless value'.toList) : Matches mode value value' := by
  obtain ⟨hfits, hnone⟩ := h.fits hmode
  obtain ⟨hfits', hnone'⟩ := h'.fits hmode
  exact ⟨hfits, hfits', by rw [hnone, hnone']⟩

/-! ## Weaving -/

/-- Literal pieces with values between them. -/
def weave : List String → List String → String
  | piece :: pieces, value :: values => piece ++ value ++ weave pieces values
  | piece :: pieces, [] => piece ++ weave pieces []
  | [], _ => ""

/-- The modes in which the values stand. -/
def places (mode : Mode) : List String → List Mode
  | [] => []
  | piece :: pieces => scan mode piece.toList :: places (scan mode piece.toList) pieces

theorem places_cons {mode next : Mode} {piece : String} {pieces : List String} {modes : List Mode}
    (hpiece : scan mode piece.toList = next) (hrest : places next pieces = modes) :
    places mode (piece :: pieces) = next :: modes := by
  rw [places, hpiece, hrest]

/-- Without values, the mode after the page is that after its last piece. -/
theorem scan_weave_nil (mode : Mode) (pieces : List String) :
    scan mode (weave pieces []).toList = (places mode pieces).getLastD mode := by
  induction pieces generalizing mode with
  | nil => rfl
  | cons piece pieces ih =>
    rw [weave, String.toList_append, scan_append, ih, places]
    cases hrest : places (scan mode piece.toList) pieces with
    | nil => rfl
    | cons next rest => rfl

/-- Where each value fits, the pieces alone decide the mode after the page. -/
theorem scan_weave {mode : Mode} {pieces values : List String}
    (h : ∀ t ∈ (places mode pieces).zip values, Fits t.1 t.2.toList) :
    scan mode (weave pieces values).toList = scan mode (weave pieces []).toList := by
  induction pieces generalizing mode values with
  | nil => cases values <;> rfl
  | cons piece pieces ih =>
    cases values with
    | nil => rfl
    | cons value values =>
      have hfirst : scan (scan mode piece.toList) value.toList = scan mode piece.toList :=
        h (scan mode piece.toList, value) (by simp [places])
      have hrest : scan (scan mode piece.toList) (weave pieces values).toList = _ :=
        ih fun t ht => h t (by simp [places, ht])
      simp [weave, hfirst, hrest]

/-- Every value matches the value of the other page at its place. -/
def MatchAll (modes : List Mode) (values values' : List String) : Prop :=
  values.length = values'.length ∧
    ∀ t ∈ modes.zip (values.zip values'), Matches t.1 t.2.1 t.2.2

theorem MatchAll.nil (modes : List Mode) : MatchAll modes [] [] := by
  simp [MatchAll]

theorem MatchAll.cons {mode : Mode} {modes : List Mode} {value value' : String}
    {values values' : List String} (hfirst : Matches mode value value')
    (hrest : MatchAll modes values values') :
    MatchAll (mode :: modes) (value :: values) (value' :: values') := by
  refine ⟨by simp [hrest.1], ?_⟩
  intro t ht
  rw [List.zip_cons_cons, List.zip_cons_cons] at ht
  rcases List.mem_cons.mp ht with rfl | ht
  · exact hfirst
  · exact hrest.2 t ht

/-- **The markup of a page** is decided by its pieces and by the markup of its values. -/
theorem markup_weave {mode : Mode} {pieces values values' : List String}
    (h : MatchAll (places mode pieces) values values') :
    markup mode (weave pieces values).toList = markup mode (weave pieces values').toList := by
  obtain ⟨hlength, h⟩ := h
  induction pieces generalizing mode values values' with
  | nil => cases values <;> cases values' <;> rfl
  | cons piece pieces ih =>
    cases values with
    | nil =>
      obtain rfl : values' = [] := List.length_eq_zero_iff.mp hlength.symm
      rfl
    | cons value values =>
      cases values' with
      | nil => simp at hlength
      | cons value' values' =>
        have hmatches : Matches (scan mode piece.toList) value value' :=
          h (scan mode piece.toList, value, value') (by simp [places])
        have hrest : markup (scan mode piece.toList) (weave pieces values).toList =
            markup (scan mode piece.toList) (weave pieces values').toList :=
          ih (by simpa using hlength) fun t ht => h t (by simp [places, ht])
        have hfits : scan (scan mode piece.toList) value.toList = _ := hmatches.fits
        have hfits' : scan (scan mode piece.toList) value'.toList = _ := hmatches.fits'
        simp [weave, hmatches.same, hfits, hfits', hrest]

/-- A page that ends in the mode in which it began may itself be a value. -/
theorem Matches.weave {mode : Mode} {pieces values values' : List String}
    (hclosed : (places mode pieces).getLastD mode = mode)
    (h : MatchAll (places mode pieces) values values') :
    Matches mode (weave pieces values) (weave pieces values') := by
  have hends : ∀ vs : List String, (∀ t ∈ (places mode pieces).zip vs, Fits t.1 t.2.toList) →
      Fits mode (Framework.weave pieces vs).toList :=
    fun vs hvs => (scan_weave hvs).trans ((scan_weave_nil mode pieces).trans hclosed)
  refine ⟨hends values ?_, hends values' ?_, markup_weave h⟩
  · intro t ht
    obtain ⟨i, hi⟩ := List.mem_iff_getElem?.mp ht
    obtain ⟨hmode, hvalue⟩ := List.getElem?_zip_eq_some.mp hi
    obtain ⟨value', hvalue'⟩ : ∃ value', values'[i]? = some value' := by
      have hlt := (List.getElem?_eq_some_iff.mp hvalue).1
      rw [h.1] at hlt
      exact ⟨values'[i], List.getElem?_eq_getElem hlt⟩
    exact (h.2 (t.1, t.2, value') (List.mem_iff_getElem?.mpr ⟨i, List.getElem?_zip_eq_some.mpr
      ⟨hmode, List.getElem?_zip_eq_some.mpr ⟨hvalue, hvalue'⟩⟩⟩)).fits
  · intro t ht
    obtain ⟨i, hi⟩ := List.mem_iff_getElem?.mp ht
    obtain ⟨hmode, hvalue'⟩ := List.getElem?_zip_eq_some.mp hi
    obtain ⟨value, hvalue⟩ : ∃ value, values[i]? = some value := by
      have hlt := (List.getElem?_eq_some_iff.mp hvalue').1
      rw [← h.1] at hlt
      exact ⟨values[i], List.getElem?_eq_getElem hlt⟩
    exact (h.2 (t.1, value, t.2) (List.mem_iff_getElem?.mpr ⟨i, List.getElem?_zip_eq_some.mpr
      ⟨hmode, List.getElem?_zip_eq_some.mpr ⟨hvalue, hvalue'⟩⟩⟩)).fits'

/-! ## Codes -/

/-- Each character is written as a code, and no code continues into another one: the text can be
    read back. -/
theorem flatMap_code_injective {code : Char → List Char} (hne : ∀ c, code c ≠ [])
    (hcode : ∀ c d xs ys, code c ++ xs = code d ++ ys → c = d) :
    Function.Injective fun cs : List Char => cs.flatMap code := by
  intro xs ys h
  simp only at h
  induction xs generalizing ys with
  | nil =>
    cases ys with
    | nil => rfl
    | cons d ds =>
      rw [List.flatMap_nil, List.flatMap_cons] at h
      exact absurd (List.append_eq_nil_iff.mp h.symm).1 (hne d)
  | cons c cs ih =>
    cases ys with
    | nil =>
      rw [List.flatMap_nil, List.flatMap_cons] at h
      exact absurd (List.append_eq_nil_iff.mp h).1 (hne c)
    | cons d ds =>
      rw [List.flatMap_cons, List.flatMap_cons] at h
      obtain rfl := hcode c d _ _ h
      rw [ih (List.append_cancel_left h)]

end CaseAutomation.Framework
