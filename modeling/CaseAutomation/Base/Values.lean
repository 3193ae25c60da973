import CaseAutomation.Base.Printable

/-! # Values of the Modelled Language

    Strings, JSON-like values and instants as the services exchange them.

    * `dict[str, Any]` payloads (run contexts, step outputs, audit inputs) are
      `JsonObj`. A float is known by its `repr`, which is exact.
    * Instants are exact integers: `datetime.now(tz=UTC)` and its `timestamp()`
      are only ever compared and shifted by whole seconds.
-/

namespace CaseAutomation

/-- An instant in microseconds since the epoch. -/
abbrev Time : Type := Int

/-- `timedelta(seconds=n)`. -/
def seconds (n : Int) : Time := n * 1000000

/-- The characters of a number. -/
def is_number_char (c : Char) : Bool :=
  c.isDigit || c == '-' || c == '+' || c == '.' || c == 'e'

/-- The shape that tells the `repr` of a finite float from that of an `int`: it starts
    like a number and has a point or an exponent. -/
def is_float_repr (cs : List Char) : Bool :=
  cs.all is_number_char && cs.any (fun c => c == '.' || c == 'e') &&
    cs.head?.any (fun c => c.isDigit || c == '-')

/-- A finite float. -/
structure PyFloat where
  repr : String
  repr_ok : is_float_repr repr.toList = true

theorem zero_repr_ok : is_float_repr "0.0".toList = true := by decide

theorem nine_tenths_repr_ok : is_float_repr "0.9".toList = true := by decide

theorem eight_tenths_repr_ok : is_float_repr "0.8".toList = true := by decide

theorem half_repr_ok : is_float_repr "0.5".toList = true := by decide

theorem one_repr_ok : is_float_repr "1.0".toList = true := by decide

/-- JSON values. -/
inductive Json where
  | null
  | bool (b : Bool)
  | int (n : Int)
  | float (x : PyFloat)
  | str (s : String)
  | arr (xs : List Json)
  | obj (fields : List (String × Json))

/-- A `dict[str, Any]`, in insertion order. -/
abbrev JsonObj : Type := List (String × Json)

/-- `s.startswith(p)`. -/
def startswith (s p : String) : Bool := p.toList.isPrefixOf s.toList

/-- `s[n:]`. -/
def slice_from (s : String) (n : Nat) : String := String.ofList (s.toList.drop n)

/-- `s[:n]`. -/
def slice_to (s : String) (n : Nat) : String := String.ofList (s.toList.take n)

/-- A hexadecimal escape with so many digits. -/
def hex_escape (letter : Char) (digits n : Nat) : List Char :=
  '\\' :: letter :: (List.range digits).reverse.map fun i => Nat.digitChar (n >>> (4 * i) % 16)

/-- The escape of a character that is not printable. -/
def code_escape (c : Char) : List Char :=
  if c.toNat ≤ 0xff then hex_escape 'x' 2 c.toNat
  else if c.toNat ≤ 0xffff then hex_escape 'u' 4 c.toNat
  else hex_escape 'U' 8 c.toNat

/-- One character of `repr(s)` inside the quotes `q`. -/
def repr_char (q c : Char) : List Char :=
  if c = '\\' ∨ c = q then ['\\', c]
  else if c = '\n' then ['\\', 'n']
  else if c = '\r' then ['\\', 'r']
  else if c = '\t' then ['\\', 't']
  else if is_printable c then [c]
  else code_escape c

/-- `repr(s)`: single quotes unless the string has a single and no double quote. -/
def repr_str (s : String) : String :=
  let q := if '\'' ∈ s.toList ∧ '"' ∉ s.toList then '"' else '\''
  String.ofList (q :: s.toList.flatMap (repr_char q) ++ [q])

theorem hex_escape_printable {letter : Char} (h : is_printable letter = true) (digits n : Nat) :
    ∀ c ∈ hex_escape letter digits n, is_printable c = true := by
  have hdigit : ∀ d < 16, is_printable (Nat.digitChar d) = true := by decide
  intro c hc
  rcases List.mem_cons.mp hc with rfl | hc
  · decide
  rcases List.mem_cons.mp hc with rfl | hc
  · exact h
  · obtain ⟨i, -, rfl⟩ := List.mem_map.mp hc
    exact hdigit _ (Nat.mod_lt _ (by omega))

theorem repr_char_printable {q : Char} (hq : is_printable q = true) (c : Char) :
    ∀ d ∈ repr_char q c, is_printable d = true := by
  have hslash : is_printable '\\' = true := by decide
  have hn : is_printable 'n' = true := by decide
  have hr : is_printable 'r' = true := by decide
  have ht : is_printable 't' = true := by decide
  unfold repr_char code_escape
  repeat' split
  · next h =>
    -- a backslash or the quote itself
    rcases h with rfl | rfl <;> simp [hslash, hq]
  · simp [hslash, hn]
  · simp [hslash, hr]
  · simp [hslash, ht]
  · next h => simpa using h
  · exact hex_escape_printable (by decide) _ _
  · exact hex_escape_printable (by decide) _ _
  · exact hex_escape_printable (by decide) _ _

/-- What `repr` writes is printable. -/
theorem repr_str_printable (s : String) : ∀ c ∈ (repr_str s).toList, is_printable c = true := by
  unfold repr_str
  have hquote : is_printable (if '\'' ∈ s.toList ∧ '"' ∉ s.toList then '"' else '\'') = true := by
    split <;> decide
  simp only [String.toList_ofList, List.cons_append, List.mem_cons, List.mem_append, List.mem_flatMap,
    List.not_mem_nil, or_false]
  intro c hc
  rcases hc with rfl | ⟨d, -, hc⟩ | rfl
  · exact hquote
  · exact repr_char_printable hquote d c hc
  · exact hquote

/-- `s.encode()`. -/
def encode_utf8 (s : String) : List UInt8 := s.toByteArray.data.toList

/-- `s.isascii()`. -/
def is_ascii (s : String) : Bool := s.toList.all fun c => c.toNat < 128

end CaseAutomation
