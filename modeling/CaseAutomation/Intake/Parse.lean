import CaseAutomation.Intake.Types

/-! # The Step `parse_lead`

    `intake/parse.py`: the raw lead and the extraction proposal become `IntakeFields`, with a gap for each required
    field that is missing or below the confidence threshold.

    `parse_lead_blocks`: a gap blocks exactly when a required field of the case type is missing.
-/

namespace CaseAutomation.Intake

open Framework Workflows

/-- What the language, its libraries and the active pack provide. -/
structure Platform where
  pydantic : Pydantic
  /-- The `a_number` pattern of the active pack. -/
  a_number : Option (String → Bool)
  /-- `f"{x:.2f}"`. -/
  fixed2 : PyFloat → String
  /-- `s.upper()`. -/
  upper : String → String
  /-- `str(uuid.uuid5(namespace, name))`. -/
  uuid5 : String → String → String
  /-- What `getattr` finds on `IntakeFields` under a name that is no field, such as the method `copy`:
      its `str`, or `null` where it is `None` or nothing. -/
  class_attribute : String → PyValue

/-! ## Mapping -/

/-- `d.get(key) is None`. -/
def lacks (d : PyDict) (key : String) : Bool :=
  match d.lookup key with
  | none => true
  | some .null => true
  | some _ => false

/-- A proposed field fills the raw field of its last name, if that one is missing. -/
def merge_field (raw : PyDict) (f : ExtractedField) : PyDict :=
  let simple_key := ((split_on '.' f.key).getLast?).getD f.key
  if simple_key ∈ IntakeFields.model_fields ∧ lacks raw simple_key = true then
    Dict.setEntries raw simple_key f.value
  else raw

/-- `_get`. -/
def get (raw : PyDict) (key : String) : PyValue := (raw.lookup key).getD .null

/-- The arguments of `IntakeFields(...)`. -/
def field_arguments (raw : PyDict) (case_type_hint : PyValue) (confidence : Dict String PyFloat) :
    PyDict :=
  [("full_name", (get raw "full_name").or (get raw "name")),
    ("dob", (get raw "dob").or (get raw "date_of_birth")),
    ("preferred_language", get raw "preferred_language"),
    ("email", get raw "email"),
    ("phone", get raw "phone"),
    ("address", get raw "address"),
    ("country_of_origin", get raw "country_of_origin"),
    ("a_number", get raw "a_number"),
    ("current_status", get raw "current_status"),
    ("case_type", (get raw "case_type").or case_type_hint),
    ("prior_filings", (get raw "prior_filings").or (.list [])),
    ("lead_source", get raw "lead_source"),
    ("description", get raw "description"),
    ("field_confidence", .dict (confidence.entries.map fun e => (e.1, .float e.2)))]

/-! ## Required fields -/

/-- `value is None or str(value).strip() == ""`: only a string can be blank. -/
def missing : PyValue → Bool
  | .null => true
  | .str s => decide (strip s = "")
  | _ => false

/-- The gap of a required field. -/
def required_gap (platform : Platform) (cfg : IntakeConfig) (fields : IntakeFields)
    (confidence : Dict String PyFloat) (req_field : String) : Option IntakeGap :=
  let field_conf := (confidence.get? req_field).getD ⟨"1.0", one_repr_ok⟩
  if missing (fields.getattr platform.class_attribute req_field) then
    some ⟨req_field, "Required field " ++ repr_str req_field ++ " is missing.", .block⟩
  else if (field_conf.value : FloatValue) < cfg.confidence_threshold.value then
    some ⟨req_field, "Field " ++ repr_str req_field ++ " confidence " ++ platform.fixed2 field_conf ++
      " below threshold.", .warn⟩
  else none

/-- The case type is not known. -/
def IntakeFields.unclassified (fields : IntakeFields) : Bool := decide (fields.case_type.getD "" = "")

/-- The fields with the case type resolved. -/
def resolve_case_type (cfg : IntakeConfig) (fields : IntakeFields) : IntakeFields :=
  if fields.unclassified then { fields with case_type := some cfg.default_case_type } else fields

/-- The gap of a case type that nothing determines. -/
def case_type_gaps (fields : IntakeFields) : PyValue → List IntakeGap
  | .null =>
    if fields.unclassified then
      [⟨"case_type", "Case type could not be determined from lead data.", .warn⟩]
    else []
  | _ => []

/-- `parse_lead`. -/
def parse_lead (platform : Platform) (lead : LeadPayload) (proposal : Option ExtractionProposal)
    (case_type_hint : PyValue) (cfg : IntakeConfig) : Except Exn (IntakeFields × List IntakeGap) := do
  let proposed := (proposal.map ExtractionProposal.fields).getD []
  let raw := proposed.foldl merge_field lead.raw
  let confidence := proposed.foldl (fun d f => d.set f.key f.confidence) ∅
  let fields ← construct "IntakeFields" (IntakeFields.read platform.pydantic platform.a_number)
    (.dict (field_arguments raw case_type_hint confidence))
  let resolved := resolve_case_type cfg fields
  let case_cfg ← cfg.get_case_type (some (text_or fields.case_type cfg.default_case_type))
  return (resolved, case_type_gaps fields case_type_hint ++
    case_cfg.required_fields.filterMap (required_gap platform cfg resolved confidence))

/-! ## When a gap blocks -/

/-- A required field of the case type is missing. -/
def required_missing (platform : Platform) (cfg : IntakeConfig) (fields : IntakeFields) : Bool :=
  match cfg.get_case_type fields.case_type with
  | .ok case_cfg => case_cfg.required_fields.any fun name =>
      missing (fields.getattr platform.class_attribute name)
  | .error _ => false

section blocks
variable {platform : Platform} {cfg : IntakeConfig} {fields : IntakeFields}

theorem blocking_append (gaps gaps' : List IntakeGap) :
    blocking (gaps ++ gaps') = (blocking gaps || blocking gaps') := List.any_append

theorem case_type_gaps_warn (fields : IntakeFields) (hint : PyValue) :
    blocking (case_type_gaps fields hint) = false := by
  unfold case_type_gaps
  split
  · split
    · rfl
    · rfl
  · rfl

/-- The gap of a required field blocks when the field is missing; low confidence is a warning. -/
theorem required_gap_severity (platform : Platform) (cfg : IntakeConfig) (fields : IntakeFields)
    (confidence : Dict String PyFloat) (name : String) :
    (required_gap platform cfg fields confidence name).any (fun g => decide (g.severity = .block)) =
      missing (fields.getattr platform.class_attribute name) := by
  unfold required_gap
  by_cases hmissing : missing (fields.getattr platform.class_attribute name) = true
  · simp [hmissing]
  · rw [if_neg hmissing]
    by_cases hlow : (((confidence.get? name).getD ⟨"1.0", one_repr_ok⟩).value : FloatValue) <
        cfg.confidence_threshold.value
    · simp [hlow, hmissing]
    · simp [hlow, hmissing]

/-- Only a missing field blocks. -/
theorem required_gap_blocks (confidence : Dict String PyFloat) (names : List String) :
    blocking (names.filterMap (required_gap platform cfg fields confidence)) =
      names.any fun name => missing (fields.getattr platform.class_attribute name) := by
  induction names with
  | nil => rfl
  | cons name rest ih =>
    have hname := required_gap_severity platform cfg fields confidence name
    rw [List.any_cons, ← ih, ← hname, List.filterMap_cons]
    cases required_gap platform cfg fields confidence name with
    | none => simp
    | some gap => simp [blocking]

/-- The case type is looked up under its resolved name. -/
theorem get_case_type_resolved (cfg : IntakeConfig) (fields : IntakeFields) :
    cfg.get_case_type (resolve_case_type cfg fields).case_type =
      cfg.get_case_type (some (text_or fields.case_type cfg.default_case_type)) := by
  have hname : text_or (resolve_case_type cfg fields).case_type cfg.default_case_type =
      text_or (some (text_or fields.case_type cfg.default_case_type)) cfg.default_case_type := by
    cases hcase : fields.case_type with
    | none =>
      by_cases hdefault : cfg.default_case_type = ""
      · simp [resolve_case_type, IntakeFields.unclassified, hcase, text_or, hdefault]
      · simp [resolve_case_type, IntakeFields.unclassified, hcase, text_or, hdefault]
    | some s =>
      by_cases hs : s = ""
      · simp [resolve_case_type, IntakeFields.unclassified, hcase, text_or, hs]
      · simp [resolve_case_type, IntakeFields.unclassified, hcase, text_or, hs]
  unfold IntakeConfig.get_case_type
  rw [hname]

/-- **When the lead has a blocking gap.** Exactly when a required field of its case type is
    missing. -/
theorem parse_lead_blocks {lead : LeadPayload} {proposal : Option ExtractionProposal} {hint : PyValue}
    {gaps : List IntakeGap} (h : parse_lead platform lead proposal hint cfg = .ok (fields, gaps)) :
    blocking gaps = required_missing platform cfg fields := by
  unfold parse_lead at h
  simp only [bind, Except.bind, pure, Except.pure] at h
  split at h
  · cases h
  next parsed _ =>
  split at h
  · cases h
  next case_cfg hcfg =>
  cases h
  rw [blocking_append, case_type_gaps_warn, Bool.false_or, required_gap_blocks, required_missing,
    get_case_type_resolved, hcfg]

end blocks

end CaseAutomation.Intake
