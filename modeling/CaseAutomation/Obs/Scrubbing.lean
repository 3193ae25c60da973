import CaseAutomation.Base.Text
import CaseAutomation.Framework.Redaction

/-! # Scrubbing

    `pii_scrub` of `obs/observability.py` and the compiled patterns of `packs/base.py` and of the immigration
    pack. Each pattern matches between two word boundaries and ends in a letter or a digit.

    * `pii_scrub_complete`: with the patterns of the engine no scrubbed text has a match left.
-/

namespace CaseAutomation.Obs

open Framework Regex

/-! ## Scrubbing -/

/-- A compiled pattern. -/
structure CompiledPattern where
  /-- `pattern.search(s)` finds a match. -/
  search : String → Bool
  /-- `pattern.sub(repl, s)`. -/
  sub : String → String → String
  sub_eq : ∀ repl s, search s = false → sub repl s = s

/-- `_REDACTED`. -/
def REDACTED : String := "[REDACTED]"

/-- `pii_scrub`, with the active patterns. -/
def pii_scrub (pii_patterns : List CompiledPattern) (value : String) : String :=
  pii_patterns.foldl (fun value pattern => pattern.sub REDACTED value) value

/-- A regular expression, compiled. -/
def compile {word : Char → Bool} (r : Pattern Char word) : CompiledPattern where
  search s := r.search s.toList
  sub repl s := String.ofList (r.sub repl.toList s.toList)
  sub_eq := by
    intro repl s h
    rw [Pattern.sub_eq_self h, String.ofList_toList]

/-! ## Characters -/

/-- The properties of characters that `\w` and `\d` read; `\s` is `is_space`. -/
structure Unicode where
  isalnum : Char → Bool
  isdecimal : Char → Bool
  isalnum_of_isdecimal : ∀ c, isdecimal c = true → isalnum c = true
  isalnum_ascii : ∀ c : Char, c.toNat < 128 → isalnum c = c.isAlphanum
  isdecimal_ascii : ∀ c : Char, c.toNat < 128 → isdecimal c = c.isDigit

/-- Nothing but ASCII letters and digits. -/
def Unicode.ascii : Unicode where
  isalnum := Char.isAlphanum
  isdecimal := Char.isDigit
  isalnum_of_isdecimal c h := by simp [Char.isAlphanum, h]
  isalnum_ascii _ _ := rfl
  isdecimal_ascii _ _ := rfl

variable (u : Unicode)

/-- `\w`. -/
def Unicode.is_word (c : Char) : Bool := u.isalnum c || c == '_'

/-- `REDACTED`, as a marker. -/
def redacted : Marker Char where
  opening := '['
  inner := "REDACTED".toList
  closing := ']'

/-! ## The patterns -/

/-- A character itself. -/
def lit (c : Char) : Regex Char := .one (· == c)

/-- `\d{n}`. -/
def digits (n : Nat) : Regex Char := .exactly u.isdecimal n

/-- `[\s.-]?`. -/
def separator : Regex Char := .opt (.one fun c => is_space c || c == '.' || c == '-')

/-- `[A-Za-z0-9._%+\-]`. -/
def is_local (c : Char) : Bool := c.isAlphanum || "._%+-".toList.contains c

/-- `[A-Za-z0-9.\-]`. -/
def is_domain (c : Char) : Bool := c.isAlphanum || c == '.' || c == '-'

/-- Three numbers of so many digits, with a character between them. -/
def three_numbers (c : Char) (n m k : Nat) : Regex Char :=
  .seq (digits u n) (.seq (lit c) (.seq (digits u m) (.seq (lit c) (digits u k))))

/-- `[A-Za-z0-9._%+\-]+@[A-Za-z0-9.\-]+\.[A-Za-z]{2,}`. -/
def email_body : Regex Char :=
  .seq (.at_least is_local 1) (.seq (lit '@') (.seq (.at_least is_domain 1)
    (.seq (lit '.') (.at_least Char.isAlpha 2))))

/-- `(\+?1[\s.-]?)?\(?\d{3}\)?[\s.-]?\d{3}[\s.-]?\d{4}`. -/
def phone_body : Regex Char :=
  .seq (.opt (.seq (.opt (lit '+')) (.seq (lit '1') separator)))
    (.seq (.opt (lit '(')) (.seq (digits u 3) (.seq (.opt (lit ')')) (.seq separator
      (.seq (digits u 3) (.seq separator (digits u 4)))))))

/-! ## Patterns that may stand beside the marker -/

/-- A pattern between word boundaries that ends in a word character, has no bracket in its matches, and has
    something that the marker has not. -/
structure PiiRule where
  /-- `pattern.pattern`. -/
  source : String
  body : Regex Char
  plain : body.is_plain = true
  ends_in_word : body.EndsIn fun c => u.is_word c = true
  no_bracket : body.Over fun c => c ≠ '[' ∧ c ≠ ']'
  foreign : body.Meets fun c => c ∉ REDACTED.toList

section characters
variable {u} {p : Char → Bool} {n : Nat}

theorem no_bracket_of (hopening : p '[' = false) (hclosing : p ']' = false) (c : Char) (hc : p c = true) :
    c ≠ '[' ∧ c ≠ ']' := by
  constructor
  · rintro rfl
    rw [hopening] at hc
    cases hc
  · rintro rfl
    rw [hclosing] at hc
    cases hc

theorem isdecimal_no_bracket (c : Char) (hc : u.isdecimal c = true) : c ≠ '[' ∧ c ≠ ']' := by
  refine no_bracket_of ?_ ?_ c hc
  · rw [u.isdecimal_ascii '[' (by decide)]
    decide
  · rw [u.isdecimal_ascii ']' (by decide)]
    decide

theorem is_word_of_isdecimal (c : Char) (hc : u.isdecimal c = true) : u.is_word c = true := by
  rw [Unicode.is_word, u.isalnum_of_isdecimal c hc]
  rfl

theorem is_word_of_isAlpha (c : Char) (hc : c.isAlpha = true) : u.is_word c = true := by
  have hascii : c.toNat < 128 := by
    delta Char.isAlpha Char.isUpper Char.isLower at hc
    simp only [Bool.or_eq_true, Bool.and_eq_true,
      decide_eq_true_eq, UInt32.le_iff_toNat_le] at hc
    have hupper : 'Z'.val.toNat = 90 := rfl
    have hlower : 'z'.val.toNat = 122 := rfl
    have hvalue : c.toNat = c.val.toNat := rfl
    omega
  rw [Unicode.is_word, u.isalnum_ascii c hascii, Char.isAlphanum, hc]
  rfl

/-- There is no digit in the marker. -/
theorem isdecimal_foreign (c : Char) (hc : u.isdecimal c = true) : c ∉ REDACTED.toList := by
  intro hmem
  have hascii : REDACTED.toList.all (fun c => decide (c.toNat < 128) && !c.isDigit) = true := by decide
  have hdigit := List.all_eq_true.mp hascii c hmem
  rw [Bool.and_eq_true, decide_eq_true_eq] at hdigit
  rw [u.isdecimal_ascii c hdigit.1] at hc
  rw [hc] at hdigit
  cases hdigit.2

theorem digits_end : (digits u (n + 1)).EndsIn fun c => u.is_word c = true :=
  .of_over (.exactly is_word_of_isdecimal) (.exactly fun _ _ => trivial)

theorem digits_no_bracket : (digits u n).Over fun c => c ≠ '[' ∧ c ≠ ']' := .exactly isdecimal_no_bracket

theorem digits_foreign : (digits u (n + 1)).Meets fun c => c ∉ REDACTED.toList := .exactly isdecimal_foreign

theorem lit_no_bracket {c : Char} (hopening : ('[' == c) = false) (hclosing : (']' == c) = false) :
    (lit c).Over fun c => c ≠ '[' ∧ c ≠ ']' := .one (no_bracket_of hopening hclosing)

theorem separator_no_bracket : separator.Over fun c => c ≠ '[' ∧ c ≠ ']' :=
  .opt (.one (no_bracket_of (by decide) (by decide)))

end characters

def three_numbers_rule (source : String) (c : Char) (n m k : Nat) (hopening : ('[' == c) = false)
    (hclosing : (']' == c) = false) : PiiRule u where
  source := source
  body := three_numbers u c (n + 1) m (k + 1)
  plain := by simp [three_numbers, digits, lit, is_plain, is_plain_exactly]
  ends_in_word := .right (.right (.right (.right digits_end)))
  no_bracket := digits_no_bracket.seq ((lit_no_bracket hopening hclosing).seq (digits_no_bracket.seq
    ((lit_no_bracket hopening hclosing).seq digits_no_bracket)))
  foreign := .left digits_foreign

def ssn : PiiRule u :=
  three_numbers_rule u "\\b\\d\x7b3\x7d-\\d\x7b2\x7d-\\d\x7b4\x7d\\b" '-' 2 2 3 rfl rfl

def iso_date : PiiRule u :=
  three_numbers_rule u "\\b\\d\x7b4\x7d-\\d\x7b2\x7d-\\d\x7b2\x7d\\b" '-' 3 2 1 rfl rfl

def us_date : PiiRule u :=
  three_numbers_rule u "\\b\\d\x7b2\x7d/\\d\x7b2\x7d/\\d\x7b4\x7d\\b" '/' 1 2 3 rfl rfl

def email : PiiRule u where
  source := "\\b[A-Za-z0-9._%+\\-]+@[A-Za-z0-9.\\-]+\\.[A-Za-z]\x7b2,\x7d\\b"
  body := email_body
  plain := rfl
  ends_in_word := .right (.right (.right (.right (.of_over (.at_least is_word_of_isAlpha)
    (.left (.exactly fun _ _ => trivial))))))
  no_bracket := (Over.at_least (no_bracket_of (by decide) (by decide))).seq ((lit_no_bracket rfl rfl).seq
    ((Over.at_least (no_bracket_of (by decide) (by decide))).seq ((lit_no_bracket rfl rfl).seq
      (.at_least (no_bracket_of (by decide) (by decide))))))
  foreign := .right (.left (.one fun c hc => by
    rw [eq_of_beq hc]
    decide))

def phone : PiiRule u where
  source := "\\b(\\+?1[\\s.-]?)?\\(?\\d\x7b3\x7d\\)?[\\s.-]?\\d\x7b3\x7d[\\s.-]?\\d\x7b4\x7d\\b"
  body := phone_body u
  plain := rfl
  ends_in_word := .right (.right (.right (.right (.right (.right (.right digits_end))))))
  no_bracket := (Over.opt ((Over.opt (lit_no_bracket rfl rfl)).seq ((lit_no_bracket rfl rfl).seq
    separator_no_bracket))).seq ((Over.opt (lit_no_bracket rfl rfl)).seq (digits_no_bracket.seq
      ((Over.opt (lit_no_bracket rfl rfl)).seq (separator_no_bracket.seq (digits_no_bracket.seq
        (separator_no_bracket.seq digits_no_bracket))))))
  foreign := .right (.right (.left digits_foreign))

/-- Letters, and a number of `n` to `m` digits. -/
def numbered (source : String) (letters : Regex Char) (n m : Nat)
    (hplain : letters.is_plain = true)
    (hletters : letters.Over fun c => c ≠ '[' ∧ c ≠ ']') : PiiRule u where
  source := source
  body := .seq letters (.between u.isdecimal (n + 1) m)
  plain := by simp [is_plain, between, is_plain_exactly, is_plain_at_most, hplain]
  ends_in_word := .right (.of_over (.between is_word_of_isdecimal) (.left (.exactly fun _ _ => trivial)))
  no_bracket := hletters.seq (.between isdecimal_no_bracket)
  foreign := .right (.left (.exactly isdecimal_foreign))

def a_number : PiiRule u :=
  numbered u "\\bA\\d\x7b8,9\x7d\\b" (lit 'A') 7 9 rfl (lit_no_bracket rfl rfl)

def passport : PiiRule u :=
  numbered u "\\b[A-Z]\x7b1,2\x7d\\d\x7b6,9\x7d\\b" (.between Char.isUpper 1 2) 5 9 rfl
    (.between (no_bracket_of (by decide) (by decide)))

namespace PiiRule

variable {u}

/-- `\b…\b`. -/
def pattern (rule : PiiRule u) : Pattern Char u.is_word :=
  .bounded rule.body rule.plain fun text htext => by
    obtain ⟨c, hc, -⟩ := rule.foreign text htext
    exact ⟨c, hc, trivial⟩

theorem redactable (rule : PiiRule u) : Redactable redacted rule.pattern :=
  .of_bounded rfl rule.plain rule.ends_in_word rule.no_bracket rule.foreign

end PiiRule

/-- `ENGINE_PII_BASELINE`. -/
def ENGINE_PII_BASELINE : List (PiiRule u) := [ssn u, iso_date u, us_date u, email u, phone u]

/-- `_PII_ADDITIONS` of the immigration pack. -/
def PII_ADDITIONS : List (PiiRule u) := [a_number u, passport u]

/-! ## Completeness -/

section complete
variable {u}

/-- The active patterns. -/
def compiled (rules : List (PiiRule u)) : List CompiledPattern := rules.map fun rule => compile rule.pattern

theorem pii_scrub_compiled (rules : List (PiiRule u)) (value : String) :
    pii_scrub (compiled rules) value =
      String.ofList (redact redacted (rules.map PiiRule.pattern) value.toList) := by
  induction rules generalizing value with
  | nil => exact (String.ofList_toList).symm
  | cons rule rules ih =>
    have hsub : (compile rule.pattern).sub REDACTED value =
        String.ofList (rule.pattern.sub redacted.text value.toList) := rfl
    show pii_scrub (compiled rules) ((compile rule.pattern).sub REDACTED value) = _
    rw [ih, hsub, String.toList_ofList]
    rfl

theorem redactable_rules (rules : List (PiiRule u)) :
    ∀ r ∈ rules.map PiiRule.pattern, Redactable redacted r := by
  intro r hr
  obtain ⟨rule, -, rfl⟩ := List.mem_map.mp hr
  exact rule.redactable

/-- No text with a match is left by such rules. -/
theorem search_pii_scrub (rules : List (PiiRule u)) (value : String) :
    ∀ pattern ∈ compiled rules, pattern.search (pii_scrub (compiled rules) value) = false := by
  intro pattern hpattern
  obtain ⟨rule, hrule, rfl⟩ := List.mem_map.mp hpattern
  rw [pii_scrub_compiled]
  show rule.pattern.search (String.ofList _).toList = false
  rw [String.toList_ofList]
  exact redact_clean (redactable_rules rules) value.toList rule.pattern (List.mem_map_of_mem hrule)

end complete

/-- A text in which no active pattern matches stays as it is. -/
theorem pii_scrub_eq_self {pii_patterns : List CompiledPattern} {value : String}
    (h : ∀ pattern ∈ pii_patterns, pattern.search value = false) : pii_scrub pii_patterns value = value := by
  induction pii_patterns with
  | nil => rfl
  | cons pattern rest ih =>
    rw [pii_scrub, List.foldl_cons, pattern.sub_eq REDACTED value (h pattern List.mem_cons_self)]
    exact ih fun p hp => h p (List.mem_cons_of_mem pattern hp)

/-- **Redaction with the engine's patterns is complete.** No scrubbed string has a match of any of
    them, and so scrubbing it again changes nothing. -/
theorem pii_scrub_complete (u : Unicode) (s : String) :
    (∀ pattern ∈ compiled (ENGINE_PII_BASELINE u),
      pattern.search (pii_scrub (compiled (ENGINE_PII_BASELINE u)) s) = false) ∧
    pii_scrub (compiled (ENGINE_PII_BASELINE u)) (pii_scrub (compiled (ENGINE_PII_BASELINE u)) s) =
      pii_scrub (compiled (ENGINE_PII_BASELINE u)) s := by
  have hclean := search_pii_scrub (ENGINE_PII_BASELINE u) s
  exact ⟨hclean, pii_scrub_eq_self hclean⟩

example : pii_scrub (compiled (ENGINE_PII_BASELINE .ascii)) "call (555) 123-4567, not a@b.co" =
    "call ([REDACTED], not [REDACTED]" := by decide +kernel

end CaseAutomation.Obs
