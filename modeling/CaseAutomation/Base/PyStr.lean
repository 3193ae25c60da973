import CaseAutomation.Base.Errors

/-! # Strings with Surrogates

    A Python string is any sequence of code points, surrogates among them. One with a surrogate is no
    Unicode text, and `encode` raises `UnicodeEncodeError`.
-/

namespace CaseAutomation

/-- A code point: a character, or one of the surrogates from U+D800 on. -/
inductive CodePoint where
  | char (c : Char)
  | surrogate (n : Fin 0x800)
  deriving DecidableEq, Repr

namespace CodePoint

def is_char : CodePoint → Bool
  | .char _ => true
  | .surrogate _ => false

def char? : CodePoint → Option Char
  | .char c => some c
  | .surrogate _ => none

/-- `ord(c)`. -/
def ord : CodePoint → Nat
  | .char c => c.toNat
  | .surrogate n => 0xd800 + n

end CodePoint

/-- A Python string. -/
abbrev PyStr : Type := List CodePoint

namespace PyStr

/-- A text is a string without surrogates. -/
def of_text (s : String) : PyStr := s.toList.map .char

instance : Coe String PyStr := ⟨of_text⟩

/-- The characters of a string. -/
def text (s : PyStr) : String := String.ofList (s.filterMap CodePoint.char?)

/-- `s.isascii()`. -/
def is_ascii (s : PyStr) : Bool := s.all fun c => c.ord < 128

/-- What `encode` says of the first surrogates. -/
def encode_error (s : PyStr) : Exn :=
  let start := (s.takeWhile CodePoint.is_char).length
  let run := (s.drop start).takeWhile fun c => !c.is_char
  let where_ := match run with
    | [c] => "character '" ++ String.ofList (hex_escape 'u' 4 c.ord) ++ "' in position " ++ toString start
    | _ => "characters in position " ++ toString start ++ "-" ++ toString (start + run.length - 1)
  .other "UnicodeEncodeError" ("'utf-8' codec can't encode " ++ where_ ++ ": surrogates not allowed")

/-- `s.encode()`; the bytes are given by the text. -/
def encode (s : PyStr) : Except Exn String :=
  if s.all CodePoint.is_char then .ok s.text else .error s.encode_error

/-! ## Texts -/

@[simp] theorem of_text_append (s t : String) : of_text (s ++ t) = of_text s ++ of_text t := by
  simp [of_text]

@[simp] theorem text_of_text (s : String) : text (of_text s) = s := by
  have hchar : (CodePoint.char? ∘ CodePoint.char) = some := rfl
  rw [text, of_text, List.filterMap_map, hchar, List.filterMap_some, String.ofList_toList]

@[simp] theorem is_ascii_of_text (s : String) : is_ascii (of_text s) = CaseAutomation.is_ascii s := by
  unfold is_ascii of_text CaseAutomation.is_ascii
  rw [List.all_map]
  rfl

/-- The strings without surrogates are the texts. -/
theorem all_char_iff {s : PyStr} : s.all CodePoint.is_char = true ↔ ∃ t, s = of_text t := by
  constructor
  · intro h
    refine ⟨s.text, ?_⟩
    induction s with
    | nil => rfl
    | cons c cs ih =>
      cases c with
      | char c =>
        rw [List.all_cons, Bool.and_eq_true] at h
        have hrest := ih h.2
        simp only [of_text, text, String.toList_ofList] at hrest ⊢
        rw [List.filterMap_cons, CodePoint.char?, List.map_cons, ← hrest]
      | surrogate n => simp [CodePoint.is_char] at h
  · rintro ⟨t, rfl⟩
    simp [of_text, CodePoint.is_char]

@[simp] theorem encode_of_text (s : String) : encode (of_text s) = .ok s := by
  rw [encode, if_pos (all_char_iff.mpr ⟨s, rfl⟩), text_of_text]

/-- A string has an encoding exactly where it is a text. -/
theorem encode_ok {s : PyStr} {t : String} : s.encode = .ok t ↔ s = of_text t := by
  constructor
  · intro h
    unfold encode at h
    split at h
    · next hall =>
      obtain ⟨u, rfl⟩ := all_char_iff.mp hall
      rw [text_of_text] at h
      rw [Except.ok.inj h]
    · cases h
  · rintro rfl
    exact encode_of_text t

/-- Two lone surrogates in a row. -/
example : (PyStr.encode (of_text "a" ++ [.surrogate 0, .surrogate 1])) =
    .error (.other "UnicodeEncodeError"
      "'utf-8' codec can't encode characters in position 1-2: surrogates not allowed") := rfl

end PyStr

end CaseAutomation
