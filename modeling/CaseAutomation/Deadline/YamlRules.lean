import CaseAutomation.Base.Errors
import CaseAutomation.Base.PyValues
import CaseAutomation.Deadline.Rules

/-! # Rules from YAML

    `RuleStore.load` and `_parse_and_validate` of `deadline/rules.py`. What `yaml.safe_load` returns is
    any value that it can make; the field types of pydantic are a parameter, as is the text of a
    value, which Python refuses for integers of too many digits.

    Two parts of the validation stand outside of every `try`: the loop over the reminders, with the
    look-up of the calendar before it, and the construction of the rule at the end
    (`fail_closed_iff`).
-/

namespace CaseAutomation.Deadline

open Framework Security

/-! ## YAML values -/

/-- What `yaml.safe_load` returns. -/
inductive YamlValue where
  | null
  | bool (b : Bool)
  | int (n : Int)
  | float (x : PyFloat)
  /-- An infinity or NaN. -/
  | nonfinite (repr : String)
  | str (s : String)
  | bytes (bs : List UInt8)
  | date (d : Date)
  | datetime (t : DateTime)
  | list (xs : List YamlValue)
  /-- An item of `!!pairs` or `!!omap`. -/
  | pair (key value : YamlValue)
  | set (xs : List YamlValue)
  | dict (items : List (YamlValue × YamlValue))

namespace YamlValue

/-- `bool(x)`. -/
def truthy : YamlValue → Bool
  | .null => false
  | .bool b => b
  | .int n => decide (n ≠ 0)
  | .float x => decide (x.value ≠ 0)
  | .nonfinite _ => true
  | .str s => decide (s ≠ "")
  | .bytes bs => !bs.isEmpty
  | .date _ => true
  | .datetime _ => true
  | .list xs => !xs.isEmpty
  | .pair _ _ => true
  | .set xs => !xs.isEmpty
  | .dict items => !items.isEmpty

/-- The name of the type in messages of the interpreter. -/
def type_name : YamlValue → String
  | .null => "NoneType"
  | .bool _ => "bool"
  | .int _ => "int"
  | .float _ => "float"
  | .nonfinite _ => "float"
  | .str _ => "str"
  | .bytes _ => "bytes"
  | .date _ => "datetime.date"
  | .datetime _ => "datetime.datetime"
  | .list _ => "list"
  | .pair _ _ => "tuple"
  | .set _ => "set"
  | .dict _ => "dict"

/-- The name of a type without a hash, which `hash(x)` comes upon. -/
def unhashable : YamlValue → Option String
  | .list _ => some "list"
  | .dict _ => some "dict"
  | .set _ => some "set"
  | .pair key value => (unhashable key).or (unhashable value)
  | _ => none

/-- What keeps `x in s` from being asked for a set `s` of strings: `x` has no hash, and is not itself
    a set. -/
def not_askable : YamlValue → Option String
  | .set _ => none
  | x => x.unhashable

/-- `x == s` for a string `s`. -/
def is_str (x : YamlValue) (s : String) : Bool :=
  match x with
  | .str s' => decide (s' = s)
  | _ => false

/-- `iter(x)`. -/
def iterate : YamlValue → Except Exn (List YamlValue)
  | .str s => .ok (s.toList.map fun c => .str (String.singleton c))
  | .bytes bs => .ok (bs.map fun b => .int b.toNat)
  | .list xs => .ok xs
  | .pair key value => .ok [key, value]
  | .set xs => .ok xs
  | .dict items => .ok (items.map Prod.fst)
  | x => .error (.type_error ("'" ++ x.type_name ++ "' object is not iterable"))

end YamlValue

/-- `raw.get(key)`. -/
def yaml_get (items : List (YamlValue × YamlValue)) (key : String) : Option YamlValue :=
  (items.find? fun item => item.1.is_str key).map Prod.snd

/-- `raw.get("rule_id")`. -/
def raw_rule_id (raw : List (YamlValue × YamlValue)) : YamlValue :=
  (yaml_get raw "rule_id").getD .null

/-- `raw.get("trigger")`. -/
def raw_trigger (raw : List (YamlValue × YamlValue)) : YamlValue :=
  (yaml_get raw "trigger").getD .null

/-- `raw.get("calendar_id", "us_federal")`. -/
def raw_calendar_id (raw : List (YamlValue × YamlValue)) : YamlValue :=
  (yaml_get raw "calendar_id").getD (.str "us_federal")

/-! ## Validation -/

/-- The libraries that loading rests on. -/
structure RuleLibrary where
  /-- `yaml.safe_load`. -/
  safe_load : String → Except Exn YamlValue
  /-- `str(x)`, if Python makes a text of it. -/
  to_str : YamlValue → Option String
  /-- `repr(x)`. -/
  to_repr : YamlValue → Option String
  /-- Pydantic's types of fields: what a value is taken for, if it is accepted. -/
  as_int : YamlValue → Option Int
  /-- The type of texts, for a value that is no text. -/
  to_text : YamlValue → Option String
  as_bool : YamlValue → Option Bool
  as_strs : YamlValue → Option (List String)
  /-- What a `ValidationError` of a model says about its arguments. -/
  error_text : String → List (YamlValue × YamlValue) → String

section validation
variable (lib : RuleLibrary)

/-- `ValidationError`. -/
def validation_error (model : String) (args : List (YamlValue × YamlValue)) : Exn :=
  .other "ValidationError" (lib.error_text model args)

/-- `RuleValidationError`, whose message needs the text of the rule id. -/
def rule_validation_error (rule_id : Option YamlValue) (reason : String) : Exn :=
  match (match rule_id with
    | none => some "None"
    | some x => lib.to_str x) with
  | some text => .other "RuleValidationError" ("Rule validation failed [" ++ text ++ "]: " ++ reason)
  | none => .value_error "Exceeds the limit (4300 digits) for integer string conversion"

/-- A field that has a default. -/
def field_or {α : Type} (items : List (YamlValue × YamlValue)) (key : String) (default : α)
    (parse : YamlValue → Option α) : Option α :=
  match yaml_get items key with
  | none => some default
  | some x => parse x

/-- Pydantic's `str`, which takes a text as it is. -/
def as_str : YamlValue → Option String
  | .str s => some s
  | x => lib.to_text x

/-- Pydantic's `str | None`. -/
def as_optional_str : YamlValue → Option (Option String)
  | .null => some none
  | x => (as_str lib x).map some

def as_unit : YamlValue → Option ReminderUnit
  | .str s => if s = "days" then some .days else if s = "business_days" then some .business_days else none
  | _ => none

def as_adjust : YamlValue → Option Adjust
  | .str s =>
    if s = "next_business_day" then some .next_business_day
    else if s = "previous_business_day" then some .previous_business_day
    else if s = "none" then some .none
    else none
  | _ => none

def as_trigger : YamlValue → Option EscalationTrigger
  | .str s =>
    if s = "reminder_missed" then some .reminder_missed
    else if s = "approaching" then some .approaching
    else if s = "after_due" then some .after_due
    else none
  | _ => none

/-- The keyword arguments of `Model(**x)`. -/
def keywords (model : String) : YamlValue → Except Exn (List (YamlValue × YamlValue))
  | .dict items =>
    if items.all fun item => match item.1 with
      | .str _ => true
      | _ => false
    then .ok items
    else .error (.type_error "keywords must be strings")
  | x => .error (.type_error ("cam.core.services.deadline.types." ++ model ++
      "() argument after ** must be a mapping, not " ++ x.type_name))

/-- The fields of an `Offset`. -/
def offset_fields (items : List (YamlValue × YamlValue)) : Option Offset := do
  let days ← field_or items "days" 0 lib.as_int
  let business_days ← field_or items "business_days" 0 lib.as_int
  let weeks ← field_or items "weeks" 0 lib.as_int
  let months ← field_or items "months" 0 lib.as_int
  let years ← field_or items "years" 0 lib.as_int
  some ⟨days, business_days, weeks, months, years⟩

/-- The fields of a `ReminderOffset`. -/
def reminder_fields (items : List (YamlValue × YamlValue)) : Option ReminderOffset := do
  let amount ← (yaml_get items "amount").bind lib.as_int
  let unit ← field_or items "unit" .days as_unit
  let label ← field_or items "label" none (as_optional_str lib)
  some ⟨amount, unit, label⟩

/-- A nested `ReminderOffset | None`. -/
def as_after : YamlValue → Option (Option ReminderOffset)
  | .null => some none
  | .dict items => (reminder_fields lib items).map some
  | _ => none

/-- The fields of an `EscalationLevel`. -/
def level_fields (items : List (YamlValue × YamlValue)) : Option EscalationLevel := do
  let trigger ← (yaml_get items "trigger").bind as_trigger
  let after ← field_or items "after" none (as_after lib)
  let recipients ← field_or items "recipients" [] lib.as_strs
  some ⟨trigger, after, recipients⟩

/-- `Model(**x)`. -/
def construct {α : Type} (model : String) (fields : List (YamlValue × YamlValue) → Option α)
    (x : YamlValue) : Except Exn α := do
  let items ← keywords model x
  match fields items with
  | some a => .ok a
  | none => .error (validation_error lib model items)

/-- The offset of a rule. -/
def offset_of (raw : List (YamlValue × YamlValue)) : Except Exn Offset :=
  match (yaml_get raw "offset").getD (.dict []) with
  | .dict items => construct lib "Offset" (offset_fields lib) (.dict items)
  | _ => .ok ⟨0, 0, 0, 0, 0⟩

/-- One reminder of a rule. -/
def reminder_of : YamlValue → Except Exn ReminderOffset
  | .dict items => construct lib "ReminderOffset" (reminder_fields lib) (.dict items)
  | x => construct lib "ReminderOffset" (reminder_fields lib)
      (.dict [(.str "amount", x), (.str "unit", .str "days")])

/-- What the loop over the reminders runs over. -/
def reminder_values (raw : List (YamlValue × YamlValue)) : Except Exn (List YamlValue) :=
  ((yaml_get raw "reminders").getD (.list [])).iterate

/-- The escalation levels of a rule. -/
def escalation_of (raw : List (YamlValue × YamlValue)) : Except Exn (List EscalationLevel) :=
  match (yaml_get raw "escalation").getD (.dict []) with
  | .dict esc_raw => do
    let levels ← ((yaml_get esc_raw "levels").getD (.list [])).iterate
    levels.mapM (construct lib "EscalationLevel" (level_fields lib))
  | x => .error (.other "AttributeError" ("'" ++ x.type_name ++ "' object has no attribute 'get'"))

/-- The fields of a `DeadlineRule` that are checked at the end. -/
def rule_fields (raw : List (YamlValue × YamlValue)) (rule_id trigger calendar_id : YamlValue)
    (offset : Offset) (reminders : List ReminderOffset) (escalation : List EscalationLevel) :
    Option DeadlineRule := do
  let rule_id ← as_str lib rule_id
  let jurisdiction ← as_str lib ((yaml_get raw "jurisdiction").getD (.str "US"))
  let practice_area ← as_optional_str lib ((yaml_get raw "practice_area").getD .null)
  let trigger ← as_str lib trigger
  let adjust ← as_adjust ((yaml_get raw "adjust").getD (.str "next_business_day"))
  let calendar_id ← as_str lib calendar_id
  let description ← as_str lib ((yaml_get raw "description").getD (.str ""))
  let assumption_unconfirmed ← lib.as_bool ((yaml_get raw "assumption_unconfirmed").getD (.bool true))
  some {
    rule_id := rule_id
    jurisdiction := jurisdiction
    practice_area := practice_area
    trigger := trigger
    offset := offset
    adjust := adjust
    calendar_id := calendar_id
    reminders := reminders
    escalation := escalation
    description := description
    assumption_unconfirmed := assumption_unconfirmed }

/-- `try: x except Exception as exc: raise RuleValidationError(rule_id, ...)`. -/
def or_invalid {α : Type} (rule_id : YamlValue) (what : String) (x : Except Exn α) : Except Exn α :=
  match x with
  | .ok a => .ok a
  | .error exc => .error (rule_validation_error lib (some rule_id) (what ++ ": " ++ exc.to_str))

/-- `_parse_and_validate` of a mapping, from the offset on. -/
def validate_parts (raw : List (YamlValue × YamlValue)) (rule_id trigger calendar_id : YamlValue) :
    Except Exn DeadlineRule := do
  let offset ← or_invalid lib rule_id "Invalid offset" (offset_of lib raw)
  let values ← reminder_values raw
  let reminders ← or_invalid lib rule_id "Invalid reminder" (values.mapM (reminder_of lib))
  let escalation ← or_invalid lib rule_id "Invalid escalation" (escalation_of lib raw)
  match rule_fields lib raw rule_id trigger calendar_id offset reminders escalation with
  | some rule => .ok rule
  | none => .error (validation_error lib "DeadlineRule" raw)

/-- `_parse_and_validate` of a mapping. -/
def validate_mapping (raw : List (YamlValue × YamlValue)) : Except Exn DeadlineRule :=
  let rule_id := raw_rule_id raw
  let trigger := raw_trigger raw
  let calendar_id := raw_calendar_id raw
  if !rule_id.truthy then .error (rule_validation_error lib none "rule_id is required.")
  else if !trigger.truthy then
    .error (rule_validation_error lib (some rule_id) "trigger field is required.")
  else
    match calendar_id.not_askable with
    | some name => .error (.type_error ("unhashable type: '" ++ name ++ "'"))
    | none =>
      if !calendar_id.is_str "us_federal" then
        match lib.to_repr calendar_id with
        | some text => .error (rule_validation_error lib (some rule_id)
            ("Unknown calendar_id " ++ text ++ "."))
        | none =>
          .error (.value_error "Exceeds the limit (4300 digits) for integer string conversion")
      else validate_parts lib raw rule_id trigger calendar_id

/-- `_parse_and_validate`. -/
def parse_and_validate (yaml_content : String) : Except Exn DeadlineRule :=
  match lib.safe_load yaml_content with
  | .error exc => .error (rule_validation_error lib none ("YAML parse error: " ++ exc.to_str))
  | .ok (.dict raw) => validate_mapping lib raw
  | .ok _ => .error (rule_validation_error lib none "Rule must be a YAML mapping.")

end validation

/-! ## Loading -/

/-- `_content_hash`. -/
def content_hash (yaml_content : String) : String :=
  slice_to (hexdigest (sha256 (encode_utf8 yaml_content))) 16

/-- `load`, with the store that it leaves. -/
def RuleStore.load (lib : RuleLibrary) (store : RuleStore) (yaml_content : String) :
    Except Exn DeadlineRule × RuleStore :=
  match parse_and_validate lib yaml_content with
  | .ok rule => (.ok rule, store.append (content_hash yaml_content) rule)
  | .error exc => (.error exc, store)

/-! ## Loading fails closed -/

/-- A load registers the rule that it returns, or raises `RuleValidationError` and registers
    nothing. -/
def FailClosed (lib : RuleLibrary) (store : RuleStore) (yaml_content : String) : Prop :=
  match store.load lib yaml_content with
  | (.ok rule, store') => (content_hash yaml_content, rule) ∈ store'.entries rule.rule_id
  | (.error exc, store') => exc.class_name = "RuleValidationError" ∧ store' = store

section confined
variable (lib : RuleLibrary)

/-- The mapping has a rule id and a trigger. -/
def Identified (raw : List (YamlValue × YamlValue)) : Prop :=
  (raw_rule_id raw).truthy = true ∧ (raw_trigger raw).truthy = true

/-- ... and the calendar is the supported one. -/
def Supported (raw : List (YamlValue × YamlValue)) : Prop :=
  Identified raw ∧ (raw_calendar_id raw).is_str "us_federal" = true

/-- What stands under `offset`, `reminders` and `escalation` is accepted. -/
def Nested (raw : List (YamlValue × YamlValue)) : Prop :=
  (∃ offset, offset_of lib raw = .ok offset) ∧
    (∃ values reminders, reminder_values raw = .ok values ∧
      values.mapM (reminder_of lib) = .ok reminders) ∧
    ∃ escalation, escalation_of lib raw = .ok escalation

/-- The fields that only the construction of the rule looks at are of their types. -/
structure Typed (raw : List (YamlValue × YamlValue)) : Prop where
  rule_id : (as_str lib (raw_rule_id raw)).isSome
  jurisdiction : (as_str lib ((yaml_get raw "jurisdiction").getD (.str "US"))).isSome
  practice_area : (as_optional_str lib ((yaml_get raw "practice_area").getD .null)).isSome
  trigger : (as_str lib (raw_trigger raw)).isSome
  adjust : (as_adjust ((yaml_get raw "adjust").getD (.str "next_business_day"))).isSome
  description : (as_str lib ((yaml_get raw "description").getD (.str ""))).isSome
  assumption_unconfirmed :
    (lib.as_bool ((yaml_get raw "assumption_unconfirmed").getD (.bool true))).isSome

/-- Nothing that the validation does to the mapping outside of its `try` statements raises. -/
structure Confined (raw : List (YamlValue × YamlValue)) : Prop where
  askable : Identified raw → (raw_calendar_id raw).not_askable = none
  /-- The message about an unsupported calendar can be made. -/
  calendar_text : Identified raw → ¬Supported raw → (lib.to_repr (raw_calendar_id raw)).isSome
  iterable : Supported raw → (∃ offset, offset_of lib raw = .ok offset) →
    ∃ values, reminder_values raw = .ok values
  typed : Supported raw → Nested lib raw → Typed lib raw
  /-- The message about a rule that has a rule id can be made. -/
  id_text : (raw_rule_id raw).truthy = true →
    ¬(Supported raw ∧ Nested lib raw) →
    (lib.to_str (raw_rule_id raw)).isSome

end confined

/-- The rule of a mapping. -/
def Describes (lib : RuleLibrary) (raw : List (YamlValue × YamlValue)) (rule : DeadlineRule) : Prop :=
  Supported raw ∧ ∃ offset values reminders escalation,
    offset_of lib raw = .ok offset ∧ reminder_values raw = .ok values ∧
      values.mapM (reminder_of lib) = .ok reminders ∧ escalation_of lib raw = .ok escalation ∧
      rule_fields lib raw (raw_rule_id raw) (raw_trigger raw) (raw_calendar_id raw) offset
        reminders escalation = some rule

/-- A rule is registered under the version only if this one is. -/
def Vacant (store : RuleStore) (version : String) (rule : DeadlineRule) : Prop :=
  (∃ rule', (version, rule') ∈ store.entries rule.rule_id) →
    (version, rule) ∈ store.entries rule.rule_id

/-! ## What escapes -/

/-- Whatever is raised is a `RuleValidationError`. -/
def Surfaced {α : Type} (x : Except Exn α) : Prop :=
  ∀ exc, x = .error exc → exc.class_name = "RuleValidationError"

section surfaced
variable {lib : RuleLibrary} {α : Type}

theorem surfaced_ok (a : α) : Surfaced (Except.ok a) := by
  intro exc h
  cases h

theorem surfaced_error_iff (exc : Exn) :
    Surfaced (Except.error exc : Except Exn α) ↔ exc.class_name = "RuleValidationError" := by
  constructor
  · intro h
    exact h exc rfl
  · intro h exc' heq
    cases heq
    exact h

/-- The message of a `RuleValidationError` needs the text of the rule id. -/
theorem rule_validation_error_iff (rule_id : YamlValue) (reason : String) :
    (rule_validation_error lib (some rule_id) reason).class_name = "RuleValidationError" ↔
      (lib.to_str rule_id).isSome := by
  unfold rule_validation_error
  simp only
  cases lib.to_str rule_id with
  | none => simp [Exn.class_name]
  | some text => simp [Exn.class_name]

theorem or_invalid_ok_iff (rule_id : YamlValue) (what : String) (x : Except Exn α) (a : α) :
    or_invalid lib rule_id what x = .ok a ↔ x = .ok a := by
  match x with
  | .ok _ => exact Iff.rfl
  | .error _ =>
    constructor
    · intro h
      cases h
    · intro h
      cases h

end surfaced

section fail_closed
variable {lib : RuleLibrary} {raw : List (YamlValue × YamlValue)}

theorem is_str_eq {x : YamlValue} {s : String} (h : x.is_str s = true) : x = .str s := by
  cases x with
  | str s' =>
    have : s' = s := of_decide_eq_true h
    rw [this]
  | _ => cases h

/-- A rule comes out of fields of the right types. -/
theorem rule_fields_iff (offset : Offset) (reminders : List ReminderOffset)
    (escalation : List EscalationLevel) :
    (∃ rule, rule_fields lib raw (raw_rule_id raw) (raw_trigger raw) (.str "us_federal") offset
      reminders escalation = some rule) ↔ Typed lib raw := by
  have hcal : as_str lib (.str "us_federal") = some "us_federal" := rfl
  constructor
  · rintro ⟨rule, h⟩
    unfold rule_fields at h
    simp only [hcal, Option.bind_eq_bind, Option.bind_eq_some_iff] at h
    obtain ⟨id, hid, jur, hjur, area, harea, trig, htrig, adj, hadj, _, _, des, hdes, un, hun, _⟩ := h
    constructor <;> simp only [*, Option.isSome_some]
  · intro h
    obtain ⟨id, hid⟩ := Option.isSome_iff_exists.mp h.rule_id
    obtain ⟨jur, hjur⟩ := Option.isSome_iff_exists.mp h.jurisdiction
    obtain ⟨area, harea⟩ := Option.isSome_iff_exists.mp h.practice_area
    obtain ⟨trig, htrig⟩ := Option.isSome_iff_exists.mp h.trigger
    obtain ⟨adj, hadj⟩ := Option.isSome_iff_exists.mp h.adjust
    obtain ⟨des, hdes⟩ := Option.isSome_iff_exists.mp h.description
    obtain ⟨un, hun⟩ := Option.isSome_iff_exists.mp h.assumption_unconfirmed
    unfold rule_fields
    rw [hid, hjur, harea, htrig, hadj, hdes, hun]
    exact ⟨_, rfl⟩

/-- Only what can be iterated over gets to the loop over the reminders. -/
theorem reminder_values_class {exc : Exn} (h : reminder_values raw = .error exc) :
    exc.class_name ≠ "RuleValidationError" := by
  unfold reminder_values YamlValue.iterate at h
  split at h
  case h_7 =>
    cases h
    simp [Exn.class_name]
  all_goals cases h

/-- The part of the validation that follows the three checks at its start. -/
theorem surfaced_validate_parts_iff (hsup : Supported raw) :
    Surfaced (validate_parts lib raw (raw_rule_id raw) (raw_trigger raw) (raw_calendar_id raw)) ↔
      ((∃ offset, offset_of lib raw = .ok offset) → ∃ values, reminder_values raw = .ok values) ∧
      (Nested lib raw → Typed lib raw) ∧
      (¬Nested lib raw → (lib.to_str (raw_rule_id raw)).isSome) := by
  rw [is_str_eq hsup.2]
  unfold validate_parts
  cases hoff : offset_of lib raw with
  | error exc =>
    have hnested : ¬Nested lib raw := by
      rintro ⟨⟨offset, h⟩, _⟩
      rw [hoff] at h
      cases h
    simp only [or_invalid, bind, Except.bind]
    rw [surfaced_error_iff, rule_validation_error_iff]
    simp [hnested]
  | ok offset =>
    cases hvalues : reminder_values raw with
    | error exc =>
      -- the `for` statement itself raises
      simp only [or_invalid, bind, Except.bind]
      rw [surfaced_error_iff]
      simp [reminder_values_class hvalues]
    | ok values =>
      cases hrem : values.mapM (reminder_of lib) with
      | error exc =>
        have hnested : ¬Nested lib raw := by
          rintro ⟨_, ⟨values', reminders, h, h'⟩, _⟩
          cases hvalues.symm.trans h
          cases hrem.symm.trans h'
        simp only [or_invalid, bind, Except.bind]
        rw [hrem]
        rw [surfaced_error_iff, rule_validation_error_iff]
        simp [hnested]
      | ok reminders =>
        cases hesc : escalation_of lib raw with
        | error exc =>
          have hnested : ¬Nested lib raw := by
            rintro ⟨_, _, escalation, h⟩
            cases hesc.symm.trans h
          simp only [or_invalid, bind, Except.bind]
          rw [hrem]
          simp only
          rw [surfaced_error_iff, rule_validation_error_iff]
          simp [hnested]
        | ok escalation =>
          have hnested : Nested lib raw :=
            ⟨⟨offset, hoff⟩, ⟨values, reminders, hvalues, hrem⟩, escalation, hesc⟩
          simp only [or_invalid, bind, Except.bind]
          rw [hrem]
          simp only
          have hfields := @rule_fields_iff lib raw offset reminders escalation
          cases hrule : rule_fields lib raw (raw_rule_id raw) (raw_trigger raw)
              (.str "us_federal") offset reminders escalation with
          | some rule =>
            have htyped : Typed lib raw := hfields.mp ⟨rule, hrule⟩
            simp [surfaced_ok, hnested, htyped]
          | none =>
            -- pydantic's own exception
            have htyped : ¬Typed lib raw := by
              intro h
              obtain ⟨rule, h⟩ := hfields.mpr h
              cases hrule.symm.trans h
            simp only
            rw [surfaced_error_iff]
            simp [hnested, htyped, validation_error, Exn.class_name]

theorem surfaced_validate_mapping_iff :
    Surfaced (validate_mapping lib raw) ↔ Confined lib raw := by
  unfold validate_mapping
  simp only
  -- the checks in the order of the source; what is left open by the first that fails does not matter
  by_cases hid : (raw_rule_id raw).truthy = true
  case neg =>
    have hidentified : ¬Identified raw := fun h => hid h.1
    have hsup : ¬Supported raw := fun h => hidentified h.1
    simp only [hid]
    refine iff_of_true ((surfaced_error_iff _).mpr rfl) ?_
    exact ⟨fun h => absurd h hidentified, fun h => absurd h hidentified, fun h => absurd h hsup,
      fun h => absurd h hsup, fun h => absurd h hid⟩
  by_cases htrig : (raw_trigger raw).truthy = true
  case neg =>
    have hidentified : ¬Identified raw := fun h => htrig h.2
    have hsup : ¬Supported raw := fun h => hidentified h.1
    simp only [hid, htrig]
    show Surfaced (Except.error _) ↔ _
    rw [surfaced_error_iff, rule_validation_error_iff]
    constructor
    · intro h
      exact ⟨fun h => absurd h hidentified, fun h => absurd h hidentified, fun h => absurd h hsup,
        fun h => absurd h hsup, fun _ _ => h⟩
    · intro h
      exact h.id_text hid fun h => hsup h.1
  have hidentified : Identified raw := ⟨hid, htrig⟩
  by_cases hask : (raw_calendar_id raw).not_askable = none
  case neg =>
    -- `in` asks for a hash
    obtain ⟨name, hname⟩ := Option.ne_none_iff_exists'.mp hask
    simp only [hid, htrig, hname]
    refine iff_of_false ?_ fun h => hask (h.askable hidentified)
    show ¬Surfaced (Except.error _)
    rw [surfaced_error_iff]
    simp [Exn.class_name]
  by_cases hcal : (raw_calendar_id raw).is_str "us_federal" = true
  case neg =>
    have hsup : ¬Supported raw := fun h => hcal h.2
    simp only [hid, htrig, hask, hcal]
    show Surfaced (match lib.to_repr _ with
      | some text => Except.error _
      | none => Except.error _) ↔ _
    -- the message shows the calendar id first, then the rule id
    cases hrepr : lib.to_repr (raw_calendar_id raw) with
    | none =>
      refine iff_of_false ?_ fun h => ?_
      · simp only
        rw [surfaced_error_iff]
        simp [Exn.class_name]
      · have := h.calendar_text hidentified hsup
        rw [hrepr] at this
        cases this
    | some text =>
      simp only
      rw [surfaced_error_iff, rule_validation_error_iff]
      constructor
      · intro h
        exact ⟨fun _ => hask, fun _ _ => by rw [hrepr]; rfl, fun h => absurd h hsup,
          fun h => absurd h hsup, fun _ _ => h⟩
      · intro h
        exact h.id_text hid fun h => hsup h.1
  have hsup : Supported raw := ⟨hidentified, hcal⟩
  simp only [hid, htrig, hask, hcal]
  show Surfaced (validate_parts lib raw _ _ _) ↔ _
  rw [surfaced_validate_parts_iff hsup]
  constructor
  · rintro ⟨hiter, htyped, htext⟩
    exact ⟨fun _ => hask, fun _ h => absurd hsup h, fun _ => hiter, fun _ => htyped,
      fun _ h => htext fun hnested => h ⟨hsup, hnested⟩⟩
  · intro h
    exact ⟨h.iterable hsup, h.typed hsup, fun hnested => h.id_text hid fun h => hnested h.2⟩

/-- What is returned is the rule of the mapping. -/
theorem validate_mapping_ok_iff (rule : DeadlineRule) :
    validate_mapping lib raw = .ok rule ↔ Describes lib raw rule := by
  unfold validate_mapping
  simp only
  constructor
  · intro h
    split at h
    · cases h
    split at h
    · cases h
    split at h
    · cases h
    split at h
    · split at h
      · cases h
      · cases h
    case isFalse hid htrig _ _ hcal =>
    have hsup : Supported raw := ⟨⟨by simpa using hid, by simpa using htrig⟩, by simpa using hcal⟩
    unfold validate_parts at h
    obtain ⟨offset, hoff, h⟩ := ok_of_bind h
    obtain ⟨values, hvalues, h⟩ := ok_of_bind h
    obtain ⟨reminders, hrem, h⟩ := ok_of_bind h
    obtain ⟨escalation, hesc, h⟩ := ok_of_bind h
    split at h
    case h_2 => cases h
    case h_1 found hfields =>
    cases h
    exact ⟨hsup, offset, values, reminders, escalation, (or_invalid_ok_iff _ _ _ _).mp hoff, hvalues,
      (or_invalid_ok_iff _ _ _ _).mp hrem, (or_invalid_ok_iff _ _ _ _).mp hesc, hfields⟩
  · rintro ⟨hsup, offset, values, reminders, escalation, hoff, hvalues, hrem, hesc, hfields⟩
    have hask : (raw_calendar_id raw).not_askable = none := by
      rw [is_str_eq hsup.2]
      rfl
    simp only [hsup.1.1, hsup.1.2, hask, hsup.2]
    show validate_parts lib raw _ _ _ = .ok rule
    unfold validate_parts
    simp only [or_invalid, hoff, hvalues, bind, Except.bind]
    rw [hrem]
    simp only [hesc]
    rw [hfields]

/-- Loading raises nothing but `RuleValidationError` if and only if the mapping is confined. -/
theorem surfaced_parse_iff (yaml_content : String) :
    Surfaced (parse_and_validate lib yaml_content) ↔
      ∀ raw, lib.safe_load yaml_content = .ok (.dict raw) → Confined lib raw := by
  unfold parse_and_validate
  split
  case h_1 exc hload =>
    refine iff_of_true ((surfaced_error_iff _).mpr rfl) ?_
    intro raw h
    cases hload.symm.trans h
  case h_2 raw hload =>
    rw [surfaced_validate_mapping_iff]
    constructor
    · intro h raw' heq
      cases hload.symm.trans heq
      exact h
    · intro h
      exact h raw hload
  case h_3 value hvalue hload =>
    refine iff_of_true ((surfaced_error_iff _).mpr rfl) ?_
    intro raw h
    cases hload.symm.trans h
    exact absurd rfl (hvalue raw)

theorem parse_ok_iff (yaml_content : String) (rule : DeadlineRule) :
    parse_and_validate lib yaml_content = .ok rule ↔
      ∃ raw, lib.safe_load yaml_content = .ok (.dict raw) ∧ Describes lib raw rule := by
  unfold parse_and_validate
  constructor
  · intro h
    split at h
    · cases h
    case h_2 raw hload => exact ⟨raw, hload, (validate_mapping_ok_iff rule).mp h⟩
    · cases h
  · rintro ⟨raw, hload, h⟩
    rw [hload]
    exact (validate_mapping_ok_iff rule).mpr h

end fail_closed

/-- A rule is registered after an append if and only if its version was vacant. -/
theorem RuleStore.mem_append_iff (store : RuleStore) (version : String) (rule : DeadlineRule) :
    (version, rule) ∈ (store.append version rule).entries rule.rule_id ↔ Vacant store version rule := by
  rw [entries_append]
  by_cases hnew : ∀ entry ∈ store.entries rule.rule_id, entry.1 ≠ version
  · rw [if_pos ⟨rfl, hnew⟩]
    refine iff_of_true (by simp) ?_
    rintro ⟨rule', hmem⟩
    exact absurd rfl (hnew _ hmem)
  · rw [if_neg (fun h => hnew h.2)]
    push Not at hnew
    obtain ⟨⟨version', rule'⟩, hmem, heq⟩ := hnew
    cases heq
    constructor
    · intro h _
      exact h
    · intro h
      exact h ⟨rule', hmem⟩

/-- A load of rules fails closed exactly if nothing raises outside of the validation's `try`
    statements, and no other rule is registered under the hash of the text. -/
theorem fail_closed_iff (lib : RuleLibrary) (store : RuleStore) (yaml_content : String) :
    FailClosed lib store yaml_content ↔
      ∀ raw, lib.safe_load yaml_content = .ok (.dict raw) →
        Confined lib raw ∧
          ∀ rule, Describes lib raw rule → Vacant store (content_hash yaml_content) rule := by
  have hsplit : FailClosed lib store yaml_content ↔
      Surfaced (parse_and_validate lib yaml_content) ∧
        ∀ rule, parse_and_validate lib yaml_content = .ok rule →
          Vacant store (content_hash yaml_content) rule := by
    unfold FailClosed RuleStore.load
    cases hparse : parse_and_validate lib yaml_content with
    | ok rule =>
      show (content_hash yaml_content, rule) ∈ _ ↔ _
      rw [RuleStore.mem_append_iff]
      constructor
      · intro h
        refine ⟨surfaced_ok rule, ?_⟩
        intro rule' heq
        cases heq
        exact h
      · intro h
        exact h.2 rule rfl
    | error exc =>
      show exc.class_name = _ ∧ store = store ↔ _
      rw [surfaced_error_iff]
      simp
  rw [hsplit, surfaced_parse_iff]
  simp only [parse_ok_iff]
  constructor
  · rintro ⟨hconfined, hvacant⟩ raw hload
    exact ⟨hconfined raw hload, fun rule h => hvacant rule ⟨raw, hload, h⟩⟩
  · intro h
    refine ⟨fun raw hload => (h raw hload).1, ?_⟩
    rintro rule ⟨raw, hload, hdesc⟩
    exact (h raw hload).2 rule hdesc

/-- A rule with an empty list of reminders, as one might write it. -/
def no_reminders_yaml : String := "rule_id: answer\ntrigger: filing_date\nreminders:\n"

/-- Libraries that know this text and plain values. -/
def plain_rules : RuleLibrary where
  safe_load text :=
    if text = no_reminders_yaml then
      .ok (.dict [(.str "rule_id", .str "answer"), (.str "trigger", .str "filing_date"),
        (.str "reminders", .null)])
    else .error (.other "ScannerError" "while scanning")
  to_str x := match x with
    | .str s => some s
    | _ => none
  to_repr x := match x with
    | .str s => some (repr_str s)
    | _ => none
  as_int x := match x with
    | .int n => some n
    | _ => none
  to_text _ := none
  as_bool x := match x with
    | .bool b => some b
    | _ => none
  as_strs _ := none
  error_text model _ := "1 validation error for " ++ model

/-- `for r in None` is a `TypeError`. -/
theorem null_reminders :
    ¬∀ (lib : RuleLibrary) (store : RuleStore) (yaml_content : String),
      FailClosed lib store yaml_content := by
  intro h
  have hload : RuleStore.load plain_rules ∅ no_reminders_yaml =
      (.error (.type_error "'NoneType' object is not iterable"), ∅) := by
    rfl
  have hclosed := h plain_rules ∅ no_reminders_yaml
  unfold FailClosed at hclosed
  rw [hload] at hclosed
  exact absurd hclosed.1 (by decide)

end CaseAutomation.Deadline
