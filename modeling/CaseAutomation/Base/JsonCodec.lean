import Mathlib.Tactic.SplitIfs
import CaseAutomation.Base.Values

/-! # JSON Text

    `json.dumps` and `json.loads`. The writer is the standard one with
    `ensure_ascii`: every character outside the printable ASCII range is escaped, one
    beyond the basic plane as a pair of surrogates. `gap` is what stands after a
    comma or a colon: a blank with the standard separators, nothing with
    `separators=(",", ":")`.

    The reader accepts the texts that the writer produces; `read_text` is the
    round trip, and so no two values have the same text.
-/

namespace CaseAutomation.JsonCodec

/-! ## Writer -/

/-- Four hexadecimal digits. -/
def hex4 (n : Nat) : List Char :=
  [Nat.digitChar (n / 4096 % 16), Nat.digitChar (n / 256 % 16), Nat.digitChar (n / 16 % 16),
    Nat.digitChar (n % 16)]

/-- One UTF-16 code unit. -/
def unit_text (n : Nat) : List Char := '\\' :: 'u' :: hex4 n

/-- One character inside a JSON string. -/
def escape (c : Char) : List Char :=
  if c = '"' then ['\\', '"']
  else if c = '\\' then ['\\', '\\']
  else if c = '\n' then ['\\', 'n']
  else if c = '\r' then ['\\', 'r']
  else if c = '\t' then ['\\', 't']
  else if c.toNat = 0x0c then ['\\', 'f']
  else if c.toNat = 0x08 then ['\\', 'b']
  else if 0x20 ≤ c.toNat ∧ c.toNat ≤ 0x7e then [c]
  else if c.toNat < 0x10000 then unit_text c.toNat
  else
    unit_text (0xd800 + (c.toNat - 0x10000) / 0x400) ++
      unit_text (0xdc00 + (c.toNat - 0x10000) % 0x400)

/-- The body of a string with its closing quote. -/
def string_text (s : String) : List Char := s.toList.flatMap escape ++ ['"']

/-- Decimal text. -/
def int_text : Int → List Char
  | .ofNat n => Nat.toDigits 10 n
  | .negSucc n => '-' :: Nat.toDigits 10 (n + 1)

variable (gap : List Char)

mutual
/-- The text of a value. -/
def text : Json → List Char
  | .null => ['n', 'u', 'l', 'l']
  | .bool true => ['t', 'r', 'u', 'e']
  | .bool false => ['f', 'a', 'l', 's', 'e']
  | .int n => int_text n
  | .float x => x.repr.toList
  | .str s => '"' :: string_text s
  | .arr [] => ['[', ']']
  | .arr (x :: xs) => '[' :: (text x ++ items_text xs)
  | .obj [] => ['\x7b', '\x7d']
  | .obj ((k, v) :: fs) =>
    '\x7b' :: '"' :: (string_text k ++ ':' :: (gap ++ (text v ++ fields_text fs)))
/-- The remaining items of an array and its closing bracket. -/
def items_text : List Json → List Char
  | [] => [']']
  | x :: xs => ',' :: (gap ++ (text x ++ items_text xs))
/-- The remaining fields of an object and its closing brace. -/
def fields_text : List (String × Json) → List Char
  | [] => ['\x7d']
  | (k, v) :: fs =>
    ',' :: (gap ++ '"' :: (string_text k ++ ':' :: (gap ++ (text v ++ fields_text fs))))
end

/-- `json.dumps`. -/
def dumps (o : JsonObj) : String := String.ofList (text [' '] (.obj o))

/-! ## Reader -/

/-- Read past a fixed text. -/
def eat : List Char → List Char → Option (List Char)
  | [], cs => some cs
  | e :: es, c :: cs => if e = c then eat es cs else none
  | _ :: _, [] => none

/-- The value of a hexadecimal digit. -/
def hex_value (c : Char) : Nat := if c.isDigit then c.toNat - 48 else c.toNat - 87

/-- Read four hexadecimal digits. -/
def read_hex4 : List Char → Option (Nat × List Char)
  | a :: b :: c :: d :: cs =>
    some (hex_value a * 4096 + hex_value b * 256 + hex_value c * 16 + hex_value d, cs)
  | _ => none

/-- Read what follows a backslash. -/
def read_escape : List Char → Option (Char × List Char)
  | [] => none
  | d :: cs =>
    if d = 'u' then do
      let (u, rest) ← read_hex4 cs
      if 0xd800 ≤ u ∧ u < 0xdc00 then do
        let rest ← eat ['\\', 'u'] rest
        let (v, rest) ← read_hex4 rest
        some (Char.ofNat (0x10000 + ((u - 0xd800) * 0x400 + (v - 0xdc00))), rest)
      else some (Char.ofNat u, rest)
    else if d = 'n' then some ('\n', cs)
    else if d = 'r' then some ('\r', cs)
    else if d = 't' then some ('\t', cs)
    else if d = 'f' then some (Char.ofNat 0x0c, cs)
    else if d = 'b' then some (Char.ofNat 0x08, cs)
    else some (d, cs)

/-- Read one character of a string. -/
def read_char (c : Char) (cs : List Char) : Option (Char × List Char) :=
  if c = '\\' then read_escape cs else some (c, cs)

/-- The body of a string up to its closing quote; the first argument bounds its length. -/
def read_string : Nat → List Char → Option (List Char × List Char)
  | 0, _ => none
  | _ + 1, [] => none
  | fuel + 1, c :: cs =>
    if c = '"' then some ([], cs)
    else
      (read_char c cs).bind fun r => (read_string fuel r.2).map fun q => (r.1 :: q.1, q.2)

/-- A string literal after its opening quote. -/
def read_key (fuel : Nat) (cs : List Char) : Option (String × List Char) :=
  (read_string fuel cs).map fun r => (String.ofList r.1, r.2)

/-- `int(text)`. -/
def int_of : List Char → Int
  | '-' :: ds => .negSucc (Nat.ofDigitChars 10 ds 0 - 1)
  | ds => .ofNat (Nat.ofDigitChars 10 ds 0)

/-- The number that a run of number characters spells. -/
def number_of (cs : List Char) : Json :=
  if h : is_float_repr cs = true then
    .float ⟨String.ofList cs, by rw [String.toList_ofList]; exact h⟩
  else .int (int_of cs)

mutual
/-- Read one value; the first argument bounds the depth. -/
def read : Nat → List Char → Option (Json × List Char)
  | 0, _ => none
  | _ + 1, [] => none
  | fuel + 1, c :: cs =>
    if c.isDigit || c == '-' then
      some (number_of ((c :: cs).takeWhile is_number_char), (c :: cs).dropWhile is_number_char)
    else if c = 'n' then (eat ['u', 'l', 'l'] cs).map fun r => (.null, r)
    else if c = 't' then (eat ['r', 'u', 'e'] cs).map fun r => (.bool true, r)
    else if c = 'f' then (eat ['a', 'l', 's', 'e'] cs).map fun r => (.bool false, r)
    else if c = '"' then (read_key fuel cs).map fun r => (.str r.1, r.2)
    else if c = '[' then
      match eat [']'] cs with
      | some rest => some (.arr [], rest)
      | none => do
        let (x, rest) ← read fuel cs
        let (xs, rest) ← read_items fuel rest
        some (.arr (x :: xs), rest)
    else if c = '\x7b' then
      match eat ['\x7d'] cs with
      | some rest => some (.obj [], rest)
      | none => do
        let rest ← eat ['"'] cs
        let (k, rest) ← read_key fuel rest
        let rest ← eat (':' :: gap) rest
        let (v, rest) ← read fuel rest
        let (fs, rest) ← read_fields fuel rest
        some (.obj ((k, v) :: fs), rest)
    else none
/-- Read the remaining items of an array. -/
def read_items : Nat → List Char → Option (List Json × List Char)
  | 0, _ => none
  | fuel + 1, cs =>
    match eat [']'] cs with
    | some rest => some ([], rest)
    | none => do
      let rest ← eat (',' :: gap) cs
      let (x, rest) ← read fuel rest
      let (xs, rest) ← read_items fuel rest
      some (x :: xs, rest)
/-- Read the remaining fields of an object. -/
def read_fields : Nat → List Char → Option (List (String × Json) × List Char)
  | 0, _ => none
  | fuel + 1, cs =>
    match eat ['\x7d'] cs with
    | some rest => some ([], rest)
    | none => do
      let rest ← eat (',' :: gap) cs
      let rest ← eat ['"'] rest
      let (k, rest) ← read_key fuel rest
      let rest ← eat (':' :: gap) rest
      let (v, rest) ← read fuel rest
      let (fs, rest) ← read_fields fuel rest
      some ((k, v) :: fs, rest)
end

/-- `json.loads` of a text that holds an object. -/
def loads (s : String) : Option JsonObj :=
  match read [' '] s.toList.length s.toList with
  | some (.obj o, []) => some o
  | _ => none

/-! ## Strings read back -/

theorem eat_text (es rest : List Char) : eat es (es ++ rest) = some rest := by
  induction es with
  | nil => cases rest <;> rfl
  | cons e es ih => rw [List.cons_append, eat, if_pos rfl, ih]

theorem hex_value_digit : ∀ d < 16, hex_value (Nat.digitChar d) = d := by decide

theorem read_hex4_text {n : Nat} (h : n < 65536) (rest : List Char) :
    read_hex4 (hex4 n ++ rest) = some (n, rest) := by
  unfold hex4
  simp only [List.cons_append, List.nil_append, read_hex4]
  rw [hex_value_digit _ (by omega), hex_value_digit _ (by omega), hex_value_digit _ (by omega),
    hex_value_digit _ (by omega)]
  have hn : n / 4096 % 16 * 4096 + n / 256 % 16 * 256 + n / 16 % 16 * 16 + n % 16 = n := by omega
  rw [hn]

/-- A character of the basic plane, read back from its code unit. -/
theorem read_escape_unit {c : Char} (h : c.toNat < 0x10000) (rest : List Char) :
    read_escape ('u' :: (hex4 c.toNat ++ rest)) = some (c, rest) := by
  have hvalid := c.valid
  have hrange : ¬(0xd800 ≤ c.toNat ∧ c.toNat < 0xdc00) := by
    unfold UInt32.isValidChar Nat.isValidChar at hvalid
    unfold Char.toNat
    omega
  rw [read_escape, if_pos rfl, read_hex4_text h]
  simp only [Option.bind_eq_bind, Option.bind_some, if_neg hrange, Char.ofNat_toNat]

/-- A pair of surrogates is one character. -/
theorem read_escape_pair {u v : Nat} (hu : 0xd800 ≤ u ∧ u < 0xdc00) (hv : v < 65536)
    (rest : List Char) :
    read_escape ('u' :: (hex4 u ++ (unit_text v ++ rest))) =
      some (Char.ofNat (0x10000 + ((u - 0xd800) * 0x400 + (v - 0xdc00))), rest) := by
  have heat : ∀ cs : List Char, eat ['\\', 'u'] ('\\' :: 'u' :: cs) = some cs := eat_text ['\\', 'u']
  rw [read_escape, if_pos rfl, read_hex4_text (by omega)]
  simp only [Option.bind_eq_bind, Option.bind_some, if_pos hu, unit_text, List.cons_append, heat,
    read_hex4_text hv]

/-- A character beyond the basic plane, read back from its two surrogates. -/
theorem read_escape_surrogates {c : Char} (h : 0x10000 ≤ c.toNat) (rest : List Char) :
    read_escape ('u' :: (hex4 (0xd800 + (c.toNat - 0x10000) / 0x400) ++
      (unit_text (0xdc00 + (c.toNat - 0x10000) % 0x400) ++ rest))) = some (c, rest) := by
  have hvalid := c.valid
  have hmax : c.toNat < 0x110000 := by
    unfold UInt32.isValidChar Nat.isValidChar at hvalid
    unfold Char.toNat
    omega
  rw [read_escape_pair (by omega) (by omega)]
  have hchar : 0x10000 + ((0xd800 + (c.toNat - 0x10000) / 0x400 - 0xd800) * 0x400 +
      (0xdc00 + (c.toNat - 0x10000) % 0x400 - 0xdc00)) = c.toNat := by omega
  rw [hchar, Char.ofNat_toNat]

/-- One escaped character, read back. -/
theorem read_string_escape (c : Char) (fuel : Nat) (rest : List Char) :
    read_string (fuel + 1) (escape c ++ rest) =
      (read_string fuel rest).map fun r => (c :: r.1, r.2) := by
  have hslash : ∀ cs, read_escape cs = some (c, rest) →
      read_string (fuel + 1) ('\\' :: cs) =
        (read_string fuel rest).map fun r => (c :: r.1, r.2) := by
    intro cs hcs
    rw [read_string, if_neg (by decide), read_char, if_pos rfl, hcs, Option.bind_some]
  unfold escape
  split_ifs with h1 h2 h3 h4 h5 h6 h7 h8 h9
  · subst h1; exact hslash _ rfl
  · subst h2; exact hslash _ rfl
  · subst h3; exact hslash _ rfl
  · subst h4; exact hslash _ rfl
  · subst h5; exact hslash _ rfl
  · rw [← Char.ofNat_toNat c, h6] at hslash ⊢
    exact hslash _ rfl
  · rw [← Char.ofNat_toNat c, h7] at hslash ⊢
    exact hslash _ rfl
  · -- a printable character stands for itself
    rw [List.singleton_append, read_string, if_neg h1, read_char, if_neg h2, Option.bind_some]
  · exact hslash _ (read_escape_unit h9 rest)
  · rw [unit_text, List.cons_append, List.cons_append, List.cons_append, List.cons_append,
      List.append_assoc]
    exact hslash _ (read_escape_surrogates (by omega) rest)

theorem escape_ne_nil (c : Char) : escape c ≠ [] := by
  unfold escape unit_text
  split_ifs <;> simp

theorem read_string_text (cs rest : List Char) (fuel : Nat)
    (hfuel : (cs.flatMap escape ++ ['"']).length ≤ fuel) :
    read_string fuel (cs.flatMap escape ++ '"' :: rest) = some (cs, rest) := by
  induction cs generalizing fuel with
  | nil =>
    obtain ⟨fuel, rfl⟩ : ∃ n, fuel = n + 1 := ⟨fuel - 1, by simp at hfuel; omega⟩
    rfl
  | cons c cs ih =>
    have hpos := List.length_pos_iff.mpr (escape_ne_nil c)
    rw [List.flatMap_cons, List.append_assoc, List.length_append] at hfuel
    obtain ⟨fuel, rfl⟩ : ∃ n, fuel = n + 1 := ⟨fuel - 1, by omega⟩
    rw [List.flatMap_cons, List.append_assoc, read_string_escape, ih fuel (by omega)]
    rfl

theorem read_key_text (s : String) (rest : List Char) (fuel : Nat)
    (hfuel : (string_text s).length ≤ fuel) :
    read_key fuel (string_text s ++ rest) = some (s, rest) := by
  unfold read_key string_text
  rw [List.append_assoc, List.singleton_append, read_string_text _ _ _ hfuel]
  simp

/-! ## Numbers read back -/

/-- What follows a value never continues a number. -/
def NoNumber (rest : List Char) : Prop := ∀ c cs, rest = c :: cs → is_number_char c = false

theorem noNumber_nil : NoNumber [] := by
  intro c cs h
  cases h

theorem noNumber_cons {c : Char} {cs : List Char} (h : is_number_char c = false) :
    NoNumber (c :: cs) := by
  intro d ds hd
  cases hd
  exact h

/-- The text of a number: how it starts, what it is made of and what it spells. -/
structure NumberText (cs : List Char) (j : Json) : Prop where
  starts : ∃ c ds, cs = c :: ds ∧ (c.isDigit || c == '-') = true
  chars : ∀ c ∈ cs, is_number_char c = true
  spells : number_of cs = j

theorem NumberText.read {cs : List Char} {j : Json} (h : NumberText cs j) (fuel : Nat)
    {rest : List Char} (hrest : NoNumber rest) :
    JsonCodec.read gap (fuel + 1) (cs ++ rest) = some (j, rest) := by
  have htake : rest.takeWhile is_number_char = [] ∧ rest.dropWhile is_number_char = rest := by
    cases rest with
    | nil => exact ⟨rfl, rfl⟩
    | cons c ds =>
      have hc := hrest c ds rfl
      simp [hc]
  have hsplit : number_of ((cs ++ rest).takeWhile is_number_char) = j ∧
      (cs ++ rest).dropWhile is_number_char = rest := by
    rw [List.takeWhile_append_of_pos h.chars, List.dropWhile_append_of_pos h.chars, htake.1,
      htake.2, List.append_nil]
    exact ⟨h.spells, rfl⟩
  obtain ⟨c, ds, rfl, hc⟩ := h.starts
  rw [List.cons_append] at hsplit ⊢
  rw [JsonCodec.read, if_pos hc, hsplit.1, hsplit.2]

theorem digits_isDigit {n : Nat} {c : Char} (h : c ∈ Nat.toDigits 10 n) : c.isDigit = true :=
  Nat.isDigit_of_mem_toDigits (by decide) (by decide) h

theorem digits_numberChar {n : Nat} {c : Char} (h : c ∈ Nat.toDigits 10 n) :
    is_number_char c = true := by
  unfold is_number_char
  rw [digits_isDigit h]
  rfl

/-- Digits have no point and no exponent. -/
theorem digits_no_point (n : Nat) :
    (Nat.toDigits 10 n).any (fun c => c == '.' || c == 'e') = false := by
  rw [List.any_eq_false]
  intro c hc hpoint
  have hdigit := digits_isDigit hc
  rw [Bool.or_eq_true, beq_iff_eq, beq_iff_eq] at hpoint
  obtain rfl | rfl := hpoint
  · exact absurd hdigit (by decide)
  · exact absurd hdigit (by decide)

theorem int_number (n : Int) : NumberText (int_text n) (.int n) := by
  cases n with
  | ofNat n =>
    have hfloat : ¬is_float_repr (Nat.toDigits 10 n) = true := by
      simp [is_float_repr, digits_no_point]
    have hspell := Nat.ofDigitChars_ten_toDigits (n := n)
    have hdigit : ∀ c ∈ Nat.toDigits 10 n, c.isDigit = true := fun c hc => digits_isDigit hc
    have hchars : ∀ c ∈ Nat.toDigits 10 n, is_number_char c = true :=
      fun c hc => digits_numberChar hc
    rw [int_text]
    cases hd : Nat.toDigits 10 n with
    | nil => exact absurd hd Nat.toDigits_ne_nil
    | cons c ds =>
      rw [hd] at hfloat hspell hdigit hchars
      have hc : c.isDigit = true := hdigit c List.mem_cons_self
      have hminus : c ≠ '-' := by
        rintro rfl
        exact absurd hc (by decide)
      refine ⟨⟨c, ds, rfl, by rw [hc]; rfl⟩, hchars, ?_⟩
      have hint : int_of (c :: ds) = .ofNat n := by
        unfold int_of
        split
        · next heq =>
          cases heq
          exact absurd rfl hminus
        · rw [hspell]
      rw [number_of, dif_neg hfloat, hint]
  | negSucc n =>
    have hfloat : ¬is_float_repr ('-' :: Nat.toDigits 10 (n + 1)) = true := by
      simp [is_float_repr, digits_no_point]
    rw [int_text]
    refine ⟨⟨_, _, rfl, rfl⟩, ?_, ?_⟩
    · intro c hc
      obtain rfl | hc := List.mem_cons.mp hc
      · rfl
      · exact digits_numberChar hc
    · rw [number_of, dif_neg hfloat, int_of, Nat.ofDigitChars_ten_toDigits, Nat.add_sub_cancel]

/-- The decimal text of a number determines it. -/
theorem int_text_injective {m n : Int} (h : int_text m = int_text n) : m = n := by
  have hm := (int_number m).spells
  rw [h, (int_number n).spells] at hm
  exact (Json.int.inj hm).symm

theorem toList_toString_int (n : Int) : (toString n).toList = int_text n := by
  cases n with
  | ofNat n =>
    show (Nat.repr n).toList = _
    simp [Nat.repr, int_text]
  | negSucc n =>
    show (Int.repr (Int.negSucc n)).toList = _
    simp [Int.repr, int_text, Nat.repr]

theorem float_number (x : PyFloat) : NumberText x.repr.toList (.float x) := by
  have hrepr := x.repr_ok
  unfold is_float_repr at hrepr
  rw [Bool.and_eq_true, Bool.and_eq_true] at hrepr
  obtain ⟨⟨hall, -⟩, hhead⟩ := hrepr
  refine ⟨?_, fun c hc => List.all_eq_true.mp hall c hc, ?_⟩
  · cases hx : x.repr.toList with
    | nil => rw [hx] at hhead; cases hhead
    | cons c ds =>
      rw [hx] at hhead
      exact ⟨c, ds, rfl, hhead⟩
  · rw [number_of, dif_pos x.repr_ok]
    congr
    rw [String.ofList_toList]

/-! ## Round trip -/

/-- No value starts with a closing bracket. -/
theorem text_head (j : Json) : ∃ c cs, text gap j = c :: cs ∧ c ≠ ']' := by
  -- numbers start with a digit or a sign
  have hnumber : ∀ {cs : List Char}, NumberText cs j → ∃ c ds, cs = c :: ds ∧ c ≠ ']' := by
    intro cs h
    obtain ⟨c, ds, rfl, hc⟩ := h.starts
    refine ⟨c, ds, rfl, ?_⟩
    rintro rfl
    exact absurd hc (by decide)
  cases j with
  | null => exact ⟨_, _, rfl, by decide⟩
  | bool b => cases b <;> exact ⟨_, _, rfl, by decide⟩
  | int n =>
    rw [text]
    exact hnumber (int_number n)
  | float x =>
    rw [text]
    exact hnumber (float_number x)
  | str s => exact ⟨_, _, rfl, by decide⟩
  | arr xs => cases xs <;> exact ⟨_, _, by rw [text], by decide⟩
  | obj fs =>
    cases fs with
    | nil => exact ⟨_, _, by rw [text], by decide⟩
    | cons f fs => obtain ⟨k, v⟩ := f; exact ⟨_, _, by rw [text], by decide⟩

theorem eat_bracket_text (j : Json) (rest : List Char) : eat [']'] (text gap j ++ rest) = none := by
  obtain ⟨c, cs, htext, hne⟩ := text_head gap j
  rw [htext, List.cons_append, eat, if_neg (Ne.symm hne)]

theorem items_text_noNumber (xs : List Json) (rest : List Char) :
    NoNumber (items_text gap xs ++ rest) := by
  cases xs <;> (rw [items_text]; exact noNumber_cons (by decide))

theorem fields_text_noNumber (fs : List (String × Json)) (rest : List Char) :
    NoNumber (fields_text gap fs ++ rest) := by
  cases fs with
  | nil => rw [fields_text]; exact noNumber_cons (by decide)
  | cons f fs => obtain ⟨k, v⟩ := f; rw [fields_text]; exact noNumber_cons (by decide)

mutual
/-- The reader inverts the writer, given enough depth. -/
theorem read_text (j : Json) (fuel : Nat) (rest : List Char) (hfuel : (text gap j).length ≤ fuel)
    (hrest : NoNumber rest) : read gap fuel (text gap j ++ rest) = some (j, rest) := by
  obtain ⟨fuel, rfl⟩ : ∃ n, fuel = n + 1 := by
    obtain ⟨c, cs, htext, -⟩ := text_head gap j
    rw [htext, List.length_cons] at hfuel
    exact ⟨fuel - 1, by omega⟩
  cases j with
  | null => rfl
  | bool b => cases b <;> rfl
  | int n =>
    rw [text]
    exact (int_number n).read gap fuel hrest
  | float x =>
    rw [text]
    exact (float_number x).read gap fuel hrest
  | str s =>
    rw [text, List.length_cons] at hfuel
    rw [text, List.cons_append, read, if_neg (by decide), if_neg (by decide), if_neg (by decide),
      if_neg (by decide), if_pos rfl, read_key_text s rest fuel (by omega)]
    rfl
  | arr xs =>
    cases xs with
    | nil => rw [text]; rfl
    | cons x xs =>
      rw [text, List.length_cons, List.length_append] at hfuel
      have hx := read_text x fuel (items_text gap xs ++ rest) (by omega)
        (items_text_noNumber gap xs rest)
      have hxs := read_items_text xs fuel rest (by omega) hrest
      rw [text, List.cons_append, List.append_assoc, read, if_neg (by decide), if_neg (by decide),
        if_neg (by decide), if_neg (by decide), if_neg (by decide), if_pos rfl, eat_bracket_text]
      simp only [hx, Option.bind_eq_bind, Option.bind_some, hxs]
  | obj fs =>
    cases fs with
    | nil => rw [text]; rfl
    | cons f fs =>
      obtain ⟨k, v⟩ := f
      rw [text] at hfuel
      simp only [List.length_cons, List.length_append] at hfuel
      have hv := read_text v fuel (fields_text gap fs ++ rest) (by omega)
        (fields_text_noNumber gap fs rest)
      have hfs := read_fields_text fs fuel rest (by omega) hrest
      have hk := read_key_text k (':' :: (gap ++ (text gap v ++ (fields_text gap fs ++ rest)))) fuel
        (by omega)
      have hopen : ∀ cs : List Char, eat ['\x7d'] ('"' :: cs) = none := fun _ => rfl
      have hquote : ∀ cs : List Char, eat ['"'] ('"' :: cs) = some cs := eat_text ['"']
      have hcolon := eat_text (':' :: gap) (text gap v ++ (fields_text gap fs ++ rest))
      rw [List.cons_append] at hcolon
      rw [text, List.cons_append, read, if_neg (by decide), if_neg (by decide), if_neg (by decide),
        if_neg (by decide), if_neg (by decide), if_neg (by decide), if_pos rfl]
      simp only [List.append_assoc, List.cons_append, hopen, hquote, Option.bind_eq_bind,
        Option.bind_some, hk, hcolon, hv, hfs]
theorem read_items_text (xs : List Json) (fuel : Nat) (rest : List Char)
    (hfuel : (items_text gap xs).length ≤ fuel) (hrest : NoNumber rest) :
    read_items gap fuel (items_text gap xs ++ rest) = some (xs, rest) := by
  cases xs with
  | nil =>
    obtain ⟨fuel, rfl⟩ : ∃ n, fuel = n + 1 := ⟨fuel - 1, by simp [items_text] at hfuel; omega⟩
    rfl
  | cons x xs =>
    rw [items_text] at hfuel
    simp only [List.length_cons, List.length_append] at hfuel
    obtain ⟨fuel, rfl⟩ : ∃ n, fuel = n + 1 := ⟨fuel - 1, by omega⟩
    have hx := read_text x fuel (items_text gap xs ++ rest) (by omega)
      (items_text_noNumber gap xs rest)
    have hxs := read_items_text xs fuel rest (by omega) hrest
    have hclose : ∀ cs : List Char, eat [']'] (',' :: cs) = none := fun _ => rfl
    have hcomma := eat_text (',' :: gap) (text gap x ++ (items_text gap xs ++ rest))
    rw [List.cons_append] at hcomma
    rw [items_text, read_items]
    simp only [List.cons_append, List.append_assoc, hclose, hcomma, Option.bind_eq_bind,
      Option.bind_some, hx, hxs]
theorem read_fields_text (fs : List (String × Json)) (fuel : Nat) (rest : List Char)
    (hfuel : (fields_text gap fs).length ≤ fuel) (hrest : NoNumber rest) :
    read_fields gap fuel (fields_text gap fs ++ rest) = some (fs, rest) := by
  cases fs with
  | nil =>
    obtain ⟨fuel, rfl⟩ : ∃ n, fuel = n + 1 := ⟨fuel - 1, by simp [fields_text] at hfuel; omega⟩
    rfl
  | cons f fs =>
    obtain ⟨k, v⟩ := f
    rw [fields_text] at hfuel
    simp only [List.length_cons, List.length_append] at hfuel
    obtain ⟨fuel, rfl⟩ : ∃ n, fuel = n + 1 := ⟨fuel - 1, by omega⟩
    have hv := read_text v fuel (fields_text gap fs ++ rest) (by omega)
      (fields_text_noNumber gap fs rest)
    have hfs := read_fields_text fs fuel rest (by omega) hrest
    have hk := read_key_text k (':' :: (gap ++ (text gap v ++ (fields_text gap fs ++ rest)))) fuel
      (by omega)
    have hclose : ∀ cs : List Char, eat ['\x7d'] (',' :: cs) = none := fun _ => rfl
    have hcomma := eat_text (',' :: gap) ('"' :: (string_text k ++
      ':' :: (gap ++ (text gap v ++ (fields_text gap fs ++ rest)))))
    have hquote : ∀ cs : List Char, eat ['"'] ('"' :: cs) = some cs := eat_text ['"']
    have hcolon := eat_text (':' :: gap) (text gap v ++ (fields_text gap fs ++ rest))
    rw [List.cons_append] at hcomma hcolon
    rw [fields_text, read_fields]
    simp only [List.cons_append, List.append_assoc, hclose, hcomma, hquote, Option.bind_eq_bind,
      Option.bind_some, hk, hcolon, hv, hfs]
end

/-- **JSON round trip.** -/
theorem loads_dumps (o : JsonObj) : loads (dumps o) = some o := by
  have hread := read_text [' '] (.obj o) (text [' '] (.obj o)).length [] (Nat.le_refl _)
    noNumber_nil
  rw [List.append_nil] at hread
  unfold loads dumps
  rw [String.toList_ofList, hread]

/-- Different values have different texts. -/
theorem text_injective {j j' : Json} (h : text gap j = text gap j') : j = j' := by
  have hread := read_text gap j (text gap j).length [] (Nat.le_refl _) noNumber_nil
  rw [h, read_text gap j' _ [] (Nat.le_refl _) noNumber_nil] at hread
  cases hread
  rfl

/-- The reservation marker of the idempotency store is not JSON. -/
theorem loads_reserved : loads "reserved" = none := by decide

end CaseAutomation.JsonCodec
