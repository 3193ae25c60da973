import CaseAutomation.Base.PyValues
import CaseAutomation.Obs.Scrubbing

/-! # Logs and Traces

    The two traversals of `obs/observability.py`: `_pii_structlog_processor` scrubs the strings of an event
    itself, `_scrub_dict` also those of the dictionaries in it, and neither looks into a list.

    * `log_strings`, `trace_strings`: the strings that the two leave.
    * `redacted_everywhere_iff`     : when no signal has a match left and the two agree.
-/

namespace CaseAutomation.Obs

open PyValue

variable (pii_patterns : List CompiledPattern)

/-! ## The traversals -/

mutual
/-- What `_scrub_dict` puts in the place of a value. -/
def scrub_value : PyValue → PyValue
  | .str v => .str (pii_scrub pii_patterns v)
  | .dict v => .dict (scrub_dict v)
  | v => v
/-- `_scrub_dict`. -/
def scrub_dict : List (String × PyValue) → List (String × PyValue)
  | [] => []
  | (k, v) :: d => (k, scrub_value v) :: scrub_dict d
end

/-- One turn of the loop over an event. -/
def scrub_item : String × PyValue → String × PyValue
  | (key, .str value) =>
    let scrubbed := pii_scrub pii_patterns value
    if scrubbed ≠ value then (key, .str scrubbed) else (key, .str value)
  | item => item

/-- `_pii_structlog_processor`; the counter is left out. -/
def pii_structlog_processor (event_dict : PyDict) : PyDict := event_dict.map (scrub_item pii_patterns)

/-- `PIISpanProcessor.on_end`: the attributes of the span. -/
def on_end (attributes : PyDict) : PyDict :=
  if attributes.isEmpty then attributes else scrub_dict pii_patterns attributes

/-! ## The strings of a value -/

mutual
/-- The strings at any depth, each with whether it lies in a list. -/
def strings (in_list : Bool) : PyValue → List (Bool × String)
  | .str s => [(in_list, s)]
  | .list xs => item_strings xs
  | .dict fields => field_strings in_list fields
  | _ => []
def item_strings : List PyValue → List (Bool × String)
  | [] => []
  | x :: xs => strings true x ++ item_strings xs
def field_strings (in_list : Bool) : List (String × PyValue) → List (Bool × String)
  | [] => []
  | (_, x) :: fields => strings in_list x ++ field_strings in_list fields
end

/-- The string leaves of an event. -/
def leaves (d : PyDict) : List String := (field_strings false d).map Prod.snd

/-- The value is a string. -/
def is_str : PyValue → Bool
  | .str _ => true
  | _ => false

/-- The strings of an event itself. -/
def top_strings (d : PyDict) : List String := leaves (d.filter fun item => is_str item.2)

/-- What lies deeper: the strings in its dictionaries and lists. -/
def nested_strings (d : PyDict) : List (Bool × String) :=
  field_strings false (d.filter fun item => !is_str item.2)

/-- No active pattern matches. -/
def Clean (s : String) : Prop := ∀ pattern ∈ pii_patterns, pattern.search s = false

/-! ## What the traversals leave -/

section traversals
variable {pii_patterns}

mutual
theorem strings_in_list (x : PyValue) : ∀ leaf ∈ strings true x, leaf.1 = true := by
  intro leaf hleaf
  cases x with
  | str s => rw [List.mem_singleton.mp hleaf]
  | list xs => exact item_strings_in_list xs leaf hleaf
  | dict fields => exact field_strings_in_list fields leaf hleaf
  | _ => cases hleaf
theorem item_strings_in_list (xs : List PyValue) : ∀ leaf ∈ item_strings xs, leaf.1 = true := by
  intro leaf hleaf
  cases xs with
  | nil => cases hleaf
  | cons x xs =>
    rcases List.mem_append.mp hleaf with hleaf | hleaf
    · exact strings_in_list x leaf hleaf
    · exact item_strings_in_list xs leaf hleaf
theorem field_strings_in_list (fields : List (String × PyValue)) :
    ∀ leaf ∈ field_strings true fields, leaf.1 = true := by
  intro leaf hleaf
  cases fields with
  | nil => cases hleaf
  | cons f fields =>
    rcases List.mem_append.mp hleaf with hleaf | hleaf
    · exact strings_in_list f.2 leaf hleaf
    · exact field_strings_in_list fields leaf hleaf
end

/-- What becomes of a string: one in a list stays as it is. -/
def scrub_leaf (pii_patterns : List CompiledPattern) (leaf : Bool × String) : Bool × String :=
  if leaf.1 then leaf else (leaf.1, pii_scrub pii_patterns leaf.2)

theorem map_scrub_leaf {found : List (Bool × String)} (h : ∀ leaf ∈ found, leaf.1 = true) :
    found.map (scrub_leaf pii_patterns) = found := by
  refine List.map_congr_left (g := id) ?_ |>.trans (List.map_id _)
  intro leaf hleaf
  rw [scrub_leaf, if_pos (h leaf hleaf)]
  rfl

mutual
theorem strings_scrub_value (x : PyValue) :
    strings false (scrub_value pii_patterns x) = (strings false x).map (scrub_leaf pii_patterns) := by
  cases x with
  | list xs => exact (map_scrub_leaf (item_strings_in_list xs)).symm
  | dict fields => exact field_strings_scrub_dict fields
  | _ => rfl
theorem field_strings_scrub_dict (fields : List (String × PyValue)) :
    field_strings false (scrub_dict pii_patterns fields) =
      (field_strings false fields).map (scrub_leaf pii_patterns) := by
  cases fields with
  | nil => rfl
  | cons f fields =>
    rw [scrub_dict, field_strings, field_strings, List.map_append, strings_scrub_value f.2,
      field_strings_scrub_dict fields]
end

mutual
/-- A value that is scrubbed to itself. -/
theorem scrub_value_eq_self (x : PyValue) : scrub_value pii_patterns x = x ↔
    ∀ leaf ∈ strings false x, scrub_leaf pii_patterns leaf = leaf := by
  cases x with
  | str s => simp [scrub_value, strings, scrub_leaf]
  | list xs =>
    refine iff_of_true rfl ?_
    intro leaf hleaf
    rw [scrub_leaf, if_pos (item_strings_in_list xs leaf hleaf)]
  | dict fields => rw [scrub_value, PyValue.dict.injEq, scrub_dict_eq_self fields, strings]
  | _ => exact iff_of_true rfl fun leaf hleaf => absurd hleaf List.not_mem_nil
theorem scrub_dict_eq_self (fields : List (String × PyValue)) : scrub_dict pii_patterns fields = fields ↔
    ∀ leaf ∈ field_strings false fields, scrub_leaf pii_patterns leaf = leaf := by
  cases fields with
  | nil => exact iff_of_true rfl fun leaf hleaf => absurd hleaf List.not_mem_nil
  | cons f fields =>
    obtain ⟨k, v⟩ := f
    rw [scrub_dict, field_strings, List.cons.injEq, Prod.mk.injEq, List.forall_mem_append,
      scrub_value_eq_self v, scrub_dict_eq_self fields]
    simp
end

/-! ## Events -/

theorem scrub_item_eq (item : String × PyValue) : scrub_item pii_patterns item =
    if is_str item.2 then (item.1, scrub_value pii_patterns item.2) else item := by
  obtain ⟨key, value⟩ := item
  cases value with
  | str value =>
    show (if pii_scrub pii_patterns value ≠ value then _ else _) = (key, _)
    by_cases hsame : pii_scrub pii_patterns value = value
    · simp [hsame, scrub_value]
    · simp [hsame, scrub_value]
  | _ => rfl

theorem field_strings_eq (in_list : Bool) (fields : List (String × PyValue)) :
    field_strings in_list fields = fields.flatMap fun item => strings in_list item.2 := by
  induction fields with
  | nil => rfl
  | cons item fields ih =>
    rw [field_strings, ih]
    rfl

theorem forall_field_strings {P : Bool × String → Prop} {in_list : Bool} {fields : PyDict} :
    (∀ leaf ∈ field_strings in_list fields, P leaf) ↔
      ∀ item ∈ fields, ∀ leaf ∈ strings in_list item.2, P leaf := by
  rw [field_strings_eq, List.forall_mem_flatMap]

theorem forall_leaves {P : String → Prop} {d : PyDict} :
    (∀ s ∈ leaves d, P s) ↔ ∀ item ∈ d, ∀ leaf ∈ strings false item.2, P leaf.2 := by
  rw [leaves, List.forall_mem_map, forall_field_strings]

/-- When no string that the logs show has a match. -/
theorem log_strings_clean (d : PyDict) :
    (∀ s ∈ leaves (pii_structlog_processor pii_patterns d), Clean pii_patterns s) ↔
      (∀ s ∈ top_strings d, Clean pii_patterns (pii_scrub pii_patterns s)) ∧
        ∀ leaf ∈ nested_strings d, Clean pii_patterns leaf.2 := by
  rw [forall_leaves, pii_structlog_processor, List.forall_mem_map, top_strings, forall_leaves,
    nested_strings, forall_field_strings]
  simp only [List.mem_filter, and_imp, scrub_item_eq]
  have hitem : ∀ item : String × PyValue,
      (∀ leaf ∈ strings false (if is_str item.2 then (item.1, scrub_value pii_patterns item.2) else item).2,
        Clean pii_patterns leaf.2) ↔
      (is_str item.2 = true → ∀ leaf ∈ strings false item.2,
        Clean pii_patterns (pii_scrub pii_patterns leaf.2)) ∧
      ((!is_str item.2) = true → ∀ leaf ∈ strings false item.2, Clean pii_patterns leaf.2) := by
    intro item
    obtain ⟨key, value⟩ := item
    cases value with
    | str s => simp [is_str, scrub_value, strings]
    | _ => simp [is_str]
  simp only [hitem]
  exact ⟨fun h => ⟨fun item hmem => (h item hmem).1, fun item hmem => (h item hmem).2⟩,
    fun h item hmem => ⟨h.1 item hmem, h.2 item hmem⟩⟩

/-- When no string that the traces show has a match. -/
theorem trace_strings_clean (d : PyDict) :
    (∀ s ∈ leaves (scrub_dict pii_patterns d), Clean pii_patterns s) ↔
      ∀ leaf ∈ field_strings false d,
        Clean pii_patterns (if leaf.1 then leaf.2 else pii_scrub pii_patterns leaf.2) := by
  rw [leaves, field_strings_scrub_dict, List.forall_mem_map, List.forall_mem_map]
  have hleaf : ∀ leaf : Bool × String, (scrub_leaf pii_patterns leaf).2 =
      if leaf.1 then leaf.2 else pii_scrub pii_patterns leaf.2 := by
    intro leaf
    rw [scrub_leaf]
    split <;> rfl
  simp only [hleaf]

theorem scrub_dict_eq (d : PyDict) :
    scrub_dict pii_patterns d = d.map fun item => (item.1, scrub_value pii_patterns item.2) := by
  induction d with
  | nil => rfl
  | cons item d ih =>
    obtain ⟨k, v⟩ := item
    rw [scrub_dict, ih]
    rfl

theorem scrub_leaf_eq_self (leaf : Bool × String) : scrub_leaf pii_patterns leaf = leaf ↔
    (leaf.1 = false → pii_scrub pii_patterns leaf.2 = leaf.2) := by
  obtain ⟨in_list, s⟩ := leaf
  cases in_list with
  | true => exact iff_of_true rfl fun h => nomatch h
  | false => simp [scrub_leaf]

/-- When logs and traces agree: the strings in the dictionaries of the event, outside of lists, are as
    scrubbing leaves them. -/
theorem signals_agree (d : PyDict) :
    pii_structlog_processor pii_patterns d = scrub_dict pii_patterns d ↔
      ∀ leaf ∈ nested_strings d, leaf.1 = false → pii_scrub pii_patterns leaf.2 = leaf.2 := by
  rw [scrub_dict_eq, pii_structlog_processor, List.map_inj_left, nested_strings, forall_field_strings]
  simp only [List.mem_filter, and_imp]
  refine forall_congr' fun item => forall_congr' fun _ => ?_
  rw [scrub_item_eq]
  cases hstr : is_str item.2 with
  | true => simp
  | false =>
    have hself : scrub_value pii_patterns item.2 = item.2 ↔
        ∀ leaf ∈ strings false item.2, scrub_leaf pii_patterns leaf = leaf := scrub_value_eq_self item.2
    simp only [scrub_leaf_eq_self] at hself
    rw [if_neg Bool.false_ne_true, Prod.ext_iff]
    simp only [true_and, Bool.not_false, true_implies]
    rw [eq_comm, hself]

/-- **Redaction that reaches everything.** No string leaf that the logs or the traces show matches an active
    pattern, and they show the same. -/
structure RedactedEverywhere (pii_patterns : List CompiledPattern) (d : PyDict) : Prop where
  logs : ∀ s ∈ leaves (pii_structlog_processor pii_patterns d), Clean pii_patterns s
  traces : ∀ s ∈ leaves (on_end pii_patterns d), Clean pii_patterns s
  agree : pii_structlog_processor pii_patterns d = on_end pii_patterns d

theorem on_end_eq (d : PyDict) : on_end pii_patterns d = scrub_dict pii_patterns d := by
  cases d with
  | nil => rfl
  | cons item d => rfl

end traversals

/-- **When redaction reaches everything.** Exactly when no string in a dictionary or a list of the event
    matches an active pattern, and the strings of the event itself are scrubbed clean. The latter is always so
    with the patterns of the engine and of the immigration pack. -/
theorem redacted_everywhere_iff (pii_patterns : List CompiledPattern) (d : PyDict) :
    (RedactedEverywhere pii_patterns d ↔
      (∀ s ∈ top_strings d, Clean pii_patterns (pii_scrub pii_patterns s)) ∧
        ∀ leaf ∈ nested_strings d, Clean pii_patterns leaf.2) ∧
    ∀ (u : Unicode) (rules : List (PiiRule u)), pii_patterns = compiled rules →
      ∀ s ∈ top_strings d, Clean pii_patterns (pii_scrub pii_patterns s) := by
  constructor
  · rw [← log_strings_clean]
    constructor
    · exact RedactedEverywhere.logs
    · intro hlogs
      obtain ⟨-, hnested⟩ := (log_strings_clean d).mp hlogs
      have hagree : pii_structlog_processor pii_patterns d = on_end pii_patterns d := by
        rw [on_end_eq, signals_agree]
        intro leaf hleaf _
        exact pii_scrub_eq_self (hnested leaf hleaf)
      refine ⟨hlogs, ?_, hagree⟩
      rw [← hagree]
      exact hlogs
  · rintro u rules rfl s -
    exact search_pii_scrub rules s

/-- An event with a structured error and a list of recipients. -/
def nested_event : PyDict :=
  [("error", .dict [("detail", .str "SSN 123-45-6789")]), ("recipients", .list [.str "jane@lawfirm.com"])]

/-- **Redaction does not reach everything.** The number in the dictionary is logged, the address in the
    list is logged and traced, and the number is not traced. -/
theorem nested_event_leaks :
    "SSN 123-45-6789" ∈ leaves (pii_structlog_processor (compiled (ENGINE_PII_BASELINE .ascii)) nested_event) ∧
    "SSN 123-45-6789" ∉ leaves (on_end (compiled (ENGINE_PII_BASELINE .ascii)) nested_event) ∧
    "jane@lawfirm.com" ∈ leaves (pii_structlog_processor (compiled (ENGINE_PII_BASELINE .ascii)) nested_event) ∧
    "jane@lawfirm.com" ∈ leaves (on_end (compiled (ENGINE_PII_BASELINE .ascii)) nested_event) ∧
    ¬ Clean (compiled (ENGINE_PII_BASELINE .ascii)) "SSN 123-45-6789" ∧
    ¬ Clean (compiled (ENGINE_PII_BASELINE .ascii)) "jane@lawfirm.com" ∧
    ¬ RedactedEverywhere (compiled (ENGINE_PII_BASELINE .ascii)) nested_event := by
  have hmatch : ∀ s : String,
      (compiled (ENGINE_PII_BASELINE .ascii)).any (fun pattern => pattern.search s) = true →
        ¬ Clean (compiled (ENGINE_PII_BASELINE .ascii)) s := by
    intro s hany hclean
    obtain ⟨pattern, hpattern, hsearch⟩ := List.any_eq_true.mp hany
    rw [hclean pattern hpattern] at hsearch
    cases hsearch
  have hnumber := hmatch "SSN 123-45-6789" (by decide +kernel)
  have haddress := hmatch "jane@lawfirm.com" (by decide +kernel)
  have hlogged : "SSN 123-45-6789" ∈
      leaves (pii_structlog_processor (compiled (ENGINE_PII_BASELINE .ascii)) nested_event) := by
    decide +kernel
  refine ⟨hlogged, ?_, ?_, ?_, hnumber, haddress, fun h => hnumber (h.logs _ hlogged)⟩ <;> decide +kernel

end CaseAutomation.Obs
