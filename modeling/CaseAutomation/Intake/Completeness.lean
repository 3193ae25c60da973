import CaseAutomation.Intake.Parse

/-! # Mapping Completeness of `parse_lead`

    The docstring of `parse_lead` calls it an invariant that every required field which is missing or
    of low confidence has a gap. Confidence is kept under the whole key of an extracted field, the
    last one of that key, and asked for under the plain name of the required field; the value comes
    from the first field whose key ends in that name. And a required field that the model does not have
    is looked for among the methods of its class (`mapping_complete_iff`).
-/

namespace CaseAutomation.Intake

open Framework Workflows

/-! ## Where a value comes from -/

def is_null : PyValue → Bool
  | .null => true
  | _ => false

/-- The last part of a dotted key. -/
def simple_key (f : ExtractedField) : String := ((split_on '.' f.key).getLast?).getD f.key

/-- The fields that give way to something else when what was found is falsy. -/
def with_fallback : List String := ["full_name", "dob", "case_type", "prior_filings"]

/-- The extracted field that provides a field of the lead: the first one with a value, where the lead
    has none. -/
def source_of (raw : PyDict) (proposed : List ExtractedField) (name : String) :
    Option ExtractedField :=
  if name ∈ IntakeFields.model_fields ∧ name ≠ "field_confidence" ∧ lacks raw name = true then
    (proposed.find? fun f => decide (simple_key f = name) && !is_null f.value).filter fun f =>
      f.value.truthy || decide (name ∉ with_fallback)
  else none

/-- The confidence that the check of a required field finds: that of the last field with exactly
    this key. -/
def key_confidence (proposed : List ExtractedField) (name : String) : PyFloat :=
  ((proposed.filter fun f => decide (f.key = name)).getLast?.map ExtractedField.confidence).getD
    ⟨"1.0", one_repr_ok⟩

/-- What the model makes of a value; only an address is rewritten. -/
def taken (platform : Platform) (name : String) (x : PyValue) : PyValue :=
  if name = "email" then .optional (read_email platform.pydantic x) else x

/-- The case type that a lead resolves to. -/
def resolved_case_type (lead : LeadPayload) (proposed : List ExtractedField)
    (case_type_hint : PyValue) (cfg : IntakeConfig) : String :=
  text_or (read_str ((get (proposed.foldl merge_field lead.raw) "case_type").or case_type_hint))
    cfg.default_case_type

/-! ## Complete mappings -/

/-- A required field has a value of enough confidence, or a gap. -/
def Accounted (cfg : IntakeConfig) (raw : PyDict) (proposed : List ExtractedField)
    (fields : IntakeFields) (gaps : List IntakeGap) (name : String) : Prop :=
  (missing (fields.value name) = false ∧
    ∀ f, source_of raw proposed name = some f →
      cfg.confidence_threshold.value ≤ f.confidence.value) ∨
  ∃ g ∈ gaps, g.field = name ∧ (missing (fields.value name) = true → g.severity = .block)

/-- Every required field of the case type is accounted for. -/
def MappingComplete (cfg : IntakeConfig) (raw : PyDict) (proposed : List ExtractedField)
    (fields : IntakeFields) (gaps : List IntakeGap) : Prop :=
  ∀ case_cfg, cfg.get_case_type fields.case_type = .ok case_cfg →
    ∀ name ∈ case_cfg.required_fields, Accounted cfg raw proposed fields gaps name

/-- A value whose confidence is not enough is blank, or its plain name has a low confidence as well. -/
def Noticed (platform : Platform) (cfg : IntakeConfig) (proposed : List ExtractedField)
    (name : String) (f : ExtractedField) : Prop :=
  ¬ cfg.confidence_threshold.value ≤ f.confidence.value →
    missing (taken platform name f.value) = true ∨
      ((key_confidence proposed name).value : FloatValue) < cfg.confidence_threshold.value

/-- The required field is not one of the names that the class has besides its fields. -/
def NotShadowed (platform : Platform) (name : String) : Prop :=
  name ∉ IntakeFields.model_fields → missing (platform.class_attribute name) = true

/-! ## Merging -/

theorem lacks_eq (d : PyDict) (key : String) : lacks d key = is_null (get d key) := by
  unfold lacks get
  cases d.lookup key with
  | none => rfl
  | some x => cases x <;> rfl

theorem is_null_iff {x : PyValue} : is_null x = true ↔ x = .null := by
  cases x <;> simp [is_null]

theorem get_setEntries (d : PyDict) (key name : String) (v : PyValue) :
    get (Dict.setEntries d key v) name = if name = key then v else get d name := by
  unfold get
  rw [Dict.lookup_setEntries]
  split
  · rfl
  · rfl

/-- What the merge leaves under a name. -/
theorem get_merged (proposed : List ExtractedField) (raw : PyDict) (name : String) :
    get (proposed.foldl merge_field raw) name =
      if name ∈ IntakeFields.model_fields ∧ lacks raw name = true then
        ((proposed.find? fun f => decide (simple_key f = name) && !is_null f.value).map
          ExtractedField.value).getD .null
      else get raw name := by
  induction proposed generalizing raw with
  | nil =>
    rw [List.foldl_nil]
    split
    case isTrue h =>
      rw [lacks_eq, is_null_iff] at h
      exact h.2
    · rfl
  | cons f rest ih =>
    have hstep : merge_field raw f =
        if simple_key f ∈ IntakeFields.model_fields ∧ lacks raw (simple_key f) = true then
          Dict.setEntries raw (simple_key f) f.value
        else raw := rfl
    rw [List.foldl_cons, ih, hstep, List.find?_cons]
    by_cases hname : simple_key f = name
    · subst hname
      by_cases hset : simple_key f ∈ IntakeFields.model_fields ∧ lacks raw (simple_key f) = true
      · rw [if_pos hset, if_pos hset, lacks_eq, get_setEntries, if_pos rfl]
        by_cases hnull : is_null f.value = true
        · simp [hnull, hset.1]
        · simp [hnull]
      · rw [if_neg hset, if_neg hset, if_neg hset]
    · -- a field of another name leaves this one alone
      have hget : get (if simple_key f ∈ IntakeFields.model_fields ∧
            lacks raw (simple_key f) = true then
          Dict.setEntries raw (simple_key f) f.value else raw) name = get raw name := by
        split
        · rw [get_setEntries, if_neg (Ne.symm hname)]
        · rfl
      rw [lacks_eq, hget, ← lacks_eq]
      simp [hname]

/-! ## The arguments of the model -/

/-- What a field that was not found, or is falsy, gives way to. -/
def fallback (raw : PyDict) (case_type_hint : PyValue) (name : String) : PyValue :=
  if name = "full_name" then get raw "name"
  else if name = "dob" then get raw "date_of_birth"
  else if name = "case_type" then case_type_hint
  else .list []

section arguments
variable (raw : PyDict) (hint : PyValue) (confidence : Dict String PyFloat) {name : String}

theorem lookup_arguments (hname : name ∈ IntakeFields.model_fields) (hne : name ≠ "field_confidence") :
    (field_arguments raw hint confidence).lookup name =
      some (if name ∈ with_fallback then (get raw name).or (fallback raw hint name)
        else get raw name) := by
  simp only [IntakeFields.model_fields, List.mem_cons, List.not_mem_nil, or_false] at hname
  rcases hname with rfl | rfl | rfl | rfl | rfl | rfl | rfl | rfl | rfl | rfl | rfl | rfl | rfl | rfl
  all_goals first
    | rfl
    | exact absurd rfl hne

/-- An extracted field is the source of an argument, or the argument is that of the lead alone. -/
theorem argument_of_source (proposed : List ExtractedField)
    (hname : name ∈ IntakeFields.model_fields) (hne : name ≠ "field_confidence") :
    get (field_arguments (proposed.foldl merge_field raw) hint confidence) name =
      match source_of raw proposed name with
      | some f => f.value
      | none => get (field_arguments raw hint confidence) name := by
  have hfallback : fallback (proposed.foldl merge_field raw) hint name = fallback raw hint name := by
    have hkeep : ∀ key, key ∉ IntakeFields.model_fields →
        get (proposed.foldl merge_field raw) key = get raw key := by
      intro key hkey
      rw [get_merged, if_neg (fun h => hkey h.1)]
    unfold fallback
    rw [hkeep "name" (by decide), hkeep "date_of_birth" (by decide)]
  have harg : ∀ raw', get (field_arguments raw' hint confidence) name =
      if name ∈ with_fallback then (get raw' name).or (fallback raw' hint name)
      else get raw' name := by
    intro raw'
    rw [get, lookup_arguments raw' hint confidence hname hne]
    rfl
  by_cases hlacks : lacks raw name = true
  case neg =>
    have hget : get (proposed.foldl merge_field raw) name = get raw name := by
      rw [get_merged, if_neg (fun h => hlacks h.2)]
    have hsource : source_of raw proposed name = none := if_neg (fun h => hlacks h.2.2)
    rw [harg, harg, hfallback, hget, hsource]
  have hnull : get raw name = .null := is_null_iff.mp (by rw [← lacks_eq]; exact hlacks)
  have hget := get_merged proposed raw name
  have hsource : source_of raw proposed name = _ := if_pos ⟨hname, hne, hlacks⟩
  rw [if_pos ⟨hname, hlacks⟩] at hget
  rw [harg, harg, hfallback, hget, hsource, hnull]
  cases proposed.find? fun f => decide (simple_key f = name) && !is_null f.value with
  | none => rfl
  | some f =>
    simp only [Option.map_some, Option.getD_some, Option.filter_some]
    by_cases hfall : name ∈ with_fallback
    · by_cases htruthy : f.value.truthy = true
      · simp [PyValue.or, htruthy, hfall]
      · -- a falsy value gives way, as a missing one does
        have hnone : PyValue.truthy .null = false := rfl
        simp only [Bool.not_eq_true] at htruthy
        simp [PyValue.or, htruthy, hfall, hnone]
    · simp [hfall]

end arguments

/-! ## Reading the model -/

section reading
variable {p : Pydantic} {data : PyDict} {name : String}

theorem optional_of_text {x : PyValue} {o : Option String}
    (h : read_nullable read_str x = some o) : PyValue.optional o = x := by
  cases x with
  | null =>
    cases h
    rfl
  | str s =>
    cases h
    rfl
  | _ => cases h

theorem optional_of_address {x : PyValue} {o : Option String}
    (h : read_nullable (read_email p) x = some o) :
    PyValue.optional o = PyValue.optional (read_email p x) := by
  cases x with
  | null =>
    cases h
    rfl
  | str s =>
    obtain ⟨address, haddress, heq⟩ := Option.map_eq_some_iff.mp h
    rw [haddress, heq]
  | _ => cases h

theorem optional_of_number {pattern : Option (String → Bool)} {x : PyValue} {o : Option String}
    (h : read_nullable (IntakeFields.read_a_number pattern) x = some o) :
    PyValue.optional o = x := by
  cases x with
  | null =>
    cases h
    rfl
  | str s =>
    obtain ⟨number, hnumber, heq⟩ := Option.map_eq_some_iff.mp h
    obtain ⟨hread, -⟩ := Option.filter_eq_some_iff.mp hnumber
    cases hread
    cases heq
    rfl
  | _ => cases h

theorem list_of_filings {x : PyValue} {filings : List String}
    (h : read_list read_str x = some filings) : PyValue.list (filings.map .str) = x := by
  cases x with
  | list xs =>
    have hxs : xs.mapM read_str = some filings := h
    have hmap : ∀ (xs : List PyValue) (filings : List String), xs.mapM read_str = some filings →
        filings.map PyValue.str = xs := by
      intro xs
      induction xs with
      | nil =>
        intro filings h
        cases h
        rfl
      | cons x xs ih =>
        intro filings h
        rw [List.mapM_cons] at h
        obtain ⟨s, hs, h⟩ := Option.bind_eq_some_iff.mp h
        obtain ⟨rest, hrest, heq⟩ := Option.bind_eq_some_iff.mp h
        cases heq
        rw [List.map_cons, ih rest hrest]
        cases x with
        | str _ =>
          cases hs
          rfl
        | _ => cases hs
    rw [hmap xs filings hxs]
  | _ => cases h

/-- A field of the model holds its argument. -/
theorem value_read {pattern : Option (String → Bool)} {fields : IntakeFields} {x : PyValue}
    (h : IntakeFields.read p pattern data = some fields)
    (hname : name ∈ IntakeFields.model_fields) (hne : name ≠ "field_confidence")
    (hdata : data.lookup name = some x) :
    fields.value name = if name = "email" then .optional (read_email p x) else x := by
  have hfield : ∀ {α : Type} (read : PyValue → Option α) (default : Option α),
      field data name read default = read x := by
    intro α read default
    unfold field
    rw [hdata]
  unfold IntakeFields.read at h
  obtain ⟨full_name, hfull_name, h⟩ := Option.bind_eq_some_iff.mp h
  obtain ⟨dob, hdob, h⟩ := Option.bind_eq_some_iff.mp h
  obtain ⟨preferred_language, hpreferred_language, h⟩ := Option.bind_eq_some_iff.mp h
  obtain ⟨email, hemail, h⟩ := Option.bind_eq_some_iff.mp h
  obtain ⟨phone, hphone, h⟩ := Option.bind_eq_some_iff.mp h
  obtain ⟨address, haddress, h⟩ := Option.bind_eq_some_iff.mp h
  obtain ⟨country_of_origin, hcountry_of_origin, h⟩ := Option.bind_eq_some_iff.mp h
  obtain ⟨a_number, ha_number, h⟩ := Option.bind_eq_some_iff.mp h
  obtain ⟨current_status, hcurrent_status, h⟩ := Option.bind_eq_some_iff.mp h
  obtain ⟨case_type, hcase_type, h⟩ := Option.bind_eq_some_iff.mp h
  obtain ⟨prior_filings, hprior_filings, h⟩ := Option.bind_eq_some_iff.mp h
  obtain ⟨lead_source, hlead_source, h⟩ := Option.bind_eq_some_iff.mp h
  obtain ⟨description, hdescription, h⟩ := Option.bind_eq_some_iff.mp h
  obtain ⟨field_confidence, -, h⟩ := Option.bind_eq_some_iff.mp h
  cases h
  simp only [IntakeFields.model_fields, List.mem_cons, List.not_mem_nil, or_false] at hname
  rcases hname with rfl | rfl | rfl | rfl | rfl | rfl | rfl | rfl | rfl | rfl | rfl | rfl | rfl | rfl
  · exact optional_of_text ((hfield _ _).symm.trans hfull_name)
  · exact optional_of_text ((hfield _ _).symm.trans hdob)
  · exact optional_of_text ((hfield _ _).symm.trans hpreferred_language)
  · exact optional_of_address ((hfield _ _).symm.trans hemail)
  · exact optional_of_text ((hfield _ _).symm.trans hphone)
  · exact optional_of_text ((hfield _ _).symm.trans haddress)
  · exact optional_of_text ((hfield _ _).symm.trans hcountry_of_origin)
  · exact optional_of_number ((hfield _ _).symm.trans ha_number)
  · exact optional_of_text ((hfield _ _).symm.trans hcurrent_status)
  · exact optional_of_text ((hfield _ _).symm.trans hcase_type)
  · exact list_of_filings ((hfield _ _).symm.trans hprior_filings)
  · exact optional_of_text ((hfield _ _).symm.trans hlead_source)
  · exact optional_of_text ((hfield _ _).symm.trans hdescription)
  · exact absurd rfl hne

end reading

/-! ## The gaps -/

/-- Confidence is kept under the whole key, the last one of a key winning. -/
theorem get?_confidence (proposed : List ExtractedField) (name : String) :
    ((proposed.foldl (fun d f => d.set f.key f.confidence) (∅ : Dict String PyFloat)).get?
      name).getD ⟨"1.0", one_repr_ok⟩ = key_confidence proposed name := by
  unfold key_confidence
  rw [Dict.get?_foldl_set, List.getLast?_filter, Dict.get?_empty, Option.or_none]

section gaps
variable {platform : Platform} {cfg : IntakeConfig} {lead : LeadPayload} {hint : PyValue}
  {proposal : Option ExtractionProposal} {fields : IntakeFields} {gaps : List IntakeGap}

/-- What the proposal proposes. -/
def proposed_fields (proposal : Option ExtractionProposal) : List ExtractedField :=
  (proposal.map ExtractionProposal.fields).getD []

/-- What a parse that returns has done. -/
theorem parse_lead_ok (h : parse_lead platform lead proposal hint cfg = .ok (fields, gaps)) :
    ∃ (confidence : Dict String PyFloat) (parsed : IntakeFields) (case_cfg : CaseTypeConfig),
      (∀ name, (confidence.get? name).getD ⟨"1.0", one_repr_ok⟩ =
        key_confidence (proposed_fields proposal) name) ∧
      IntakeFields.read platform.pydantic platform.a_number
        (field_arguments ((proposed_fields proposal).foldl merge_field lead.raw) hint confidence) =
          some parsed ∧
      fields = resolve_case_type cfg parsed ∧
      cfg.get_case_type fields.case_type = .ok case_cfg ∧
      gaps = case_type_gaps parsed hint ++
        case_cfg.required_fields.filterMap (required_gap platform cfg fields confidence) := by
  unfold parse_lead at h
  obtain ⟨parsed, hparsed, h⟩ := ok_of_bind h
  obtain ⟨case_cfg, hcfg, h⟩ := ok_of_bind h
  cases h
  refine ⟨_, parsed, case_cfg, get?_confidence (proposed_fields proposal), ?_, rfl, ?_, rfl⟩
  · unfold construct at hparsed
    simp only at hparsed
    split at hparsed
    case h_1 read hread =>
      cases hparsed
      exact hread
    · cases hparsed
  · rw [get_case_type_resolved]
    exact hcfg

/-- The case type is the resolved one. -/
theorem case_type_of_read {p : Pydantic} {pattern : Option (String → Bool)} {raw : PyDict}
    {confidence : Dict String PyFloat} {parsed : IntakeFields}
    (h : IntakeFields.read p pattern (field_arguments raw hint confidence) = some parsed) :
    parsed.case_type = read_str ((get raw "case_type").or hint) := by
  have hread : PyValue.optional parsed.case_type = (get raw "case_type").or hint :=
    value_read h (by decide) (by decide)
      (lookup_arguments raw hint confidence (by decide : "case_type" ∈ _) (by decide))
  rw [← hread]
  cases parsed.case_type with
  | none => rfl
  | some s => rfl

/-- Only the case type changes when it is resolved, and only where there was none. -/
theorem value_resolve (cfg : IntakeConfig) (parsed : IntakeFields) (name : String)
    (h : name = "case_type" → parsed.unclassified = false) :
    (resolve_case_type cfg parsed).value name = parsed.value name := by
  unfold resolve_case_type
  split
  case isTrue hclass =>
    have hname : name ≠ "case_type" := by
      intro heq
      rw [h heq] at hclass
      cases hclass
    have hbeq : (name == "case_type") = false := by simp [hname]
    unfold IntakeFields.value IntakeFields.dump
    simp only [List.lookup_cons, hbeq]
  · rfl

/-- A value that an extracted field provides is in the field of its name. -/
theorem value_of_source {p : Pydantic} {pattern : Option (String → Bool)} {raw : PyDict}
    {proposed : List ExtractedField} {confidence : Dict String PyFloat} {parsed : IntakeFields}
    {name : String} {f : ExtractedField}
    (h : IntakeFields.read p pattern
      (field_arguments (proposed.foldl merge_field raw) hint confidence) = some parsed)
    (hsource : source_of raw proposed name = some f) :
    (parsed.value name = if name = "email" then .optional (read_email p f.value) else f.value) ∧
      (name = "case_type" → parsed.unclassified = false) := by
  have hfield : name ∈ IntakeFields.model_fields ∧ name ≠ "field_confidence" := by
    unfold source_of at hsource
    split at hsource
    case isTrue hc => exact ⟨hc.1, hc.2.1⟩
    · cases hsource
  have harg := argument_of_source raw hint confidence proposed hfield.1 hfield.2
  have hlookup := lookup_arguments (proposed.foldl merge_field raw) hint confidence hfield.1 hfield.2
  rw [hsource, get, hlookup, Option.getD_some] at harg
  have hvalue := value_read h hfield.1 hfield.2 hlookup
  rw [harg] at hvalue
  refine ⟨hvalue, ?_⟩
  rintro rfl
  -- the case type gives way when it is falsy
  have htruthy : f.value.truthy = true := by
    unfold source_of at hsource
    split at hsource
    · have := (Option.filter_eq_some_iff.mp hsource).2
      simpa [with_fallback] using this
    · cases hsource
  have hcase : PyValue.optional parsed.case_type = f.value := hvalue
  rw [← hcase] at htruthy
  unfold IntakeFields.unclassified
  cases hs : parsed.case_type with
  | none =>
    rw [hs] at htruthy
    cases htruthy
  | some s =>
    rw [hs] at htruthy
    have hne : s ≠ "" := of_decide_eq_true htruthy
    simpa using hne

/-- `getattr` finds a field first. -/
theorem getattr_field (class_attribute : String → PyValue) (fields : IntakeFields) {name : String}
    (h : name ∈ IntakeFields.model_fields) :
    fields.getattr class_attribute name = fields.value name := by
  simp only [IntakeFields.model_fields, List.mem_cons, List.not_mem_nil, or_false] at h
  rcases h with rfl | rfl | rfl | rfl | rfl | rfl | rfl | rfl | rfl | rfl | rfl | rfl | rfl | rfl
  all_goals rfl

/-- Under another name it finds what the class has. -/
theorem getattr_other (class_attribute : String → PyValue) (fields : IntakeFields) {name : String}
    (h : name ∉ IntakeFields.model_fields) :
    fields.getattr class_attribute name = class_attribute name ∧ fields.value name = .null := by
  have hnone : fields.dump.lookup name = none := by
    rw [List.lookup_eq_none_iff]
    intro e he
    have hkey : e.1 ∈ IntakeFields.model_fields := List.mem_map_of_mem (f := Prod.fst) he
    have hne : name ≠ e.1 := by
      rintro rfl
      exact h hkey
    simpa using hne
  unfold IntakeFields.getattr IntakeFields.value
  rw [hnone]
  exact ⟨rfl, rfl⟩

/-- Unless the case type is in question, a gap of a required field is that of the check. -/
theorem mem_gaps_iff {cfg : IntakeConfig} {parsed : IntakeFields} {case_cfg : CaseTypeConfig}
    {confidence : Dict String PyFloat} {name : String} {low : PyFloat}
    (hname : name ∈ case_cfg.required_fields)
    (hlow : (confidence.get? name).getD ⟨"1.0", one_repr_ok⟩ = low)
    (hclass : name = "case_type" → parsed.unclassified = false)
    (hpresent : missing (fields.getattr platform.class_attribute name) = false) :
    (∃ g ∈ case_type_gaps parsed hint ++
        case_cfg.required_fields.filterMap (required_gap platform cfg fields confidence),
      g.field = name) ↔ (low.value : FloatValue) < cfg.confidence_threshold.value := by
  constructor
  · rintro ⟨g, hg, hfield⟩
    rcases List.mem_append.mp hg with hcase | hreq
    · -- such a gap is about the case type
      unfold case_type_gaps at hcase
      split at hcase
      · split at hcase
        case isTrue hun =>
          cases List.mem_singleton.mp hcase
          rw [hclass hfield.symm] at hun
          cases hun
        · cases hcase
      · cases hcase
    · obtain ⟨name', hname', hgap⟩ := List.mem_filterMap.mp hreq
      unfold required_gap at hgap
      simp only at hgap
      split at hgap
      case isTrue hmissing =>
        cases hgap
        have hsame : name' = name := hfield
        rw [hsame, hpresent] at hmissing
        cases hmissing
      · split at hgap
        case isTrue hless =>
          cases hgap
          have hsame : name' = name := hfield
          rw [hsame, hlow] at hless
          exact hless
        · cases hgap
  · intro hless
    have hgap : required_gap platform cfg fields confidence name =
        some ⟨name, "Field " ++ repr_str name ++ " confidence " ++
          platform.fixed2 ((confidence.get? name).getD ⟨"1.0", one_repr_ok⟩) ++ " below threshold.",
          .warn⟩ := by
      unfold required_gap
      rw [hpresent, hlow]
      simp only
      rw [if_neg (by decide), if_pos hless]
    exact ⟨_, List.mem_append_right _ (List.mem_filterMap.mpr ⟨name, hname, hgap⟩), rfl⟩

/-- Under a name that is no field there is no value, and the gap that blocks is there unless the class has
    something under it. -/
theorem accounted_other {cfg : IntakeConfig} {parsed : IntakeFields} {case_cfg : CaseTypeConfig}
    {confidence : Dict String PyFloat} {raw : PyDict} {proposed : List ExtractedField} {name : String}
    (hfield : name ∉ IntakeFields.model_fields)
    (hblocked : missing (fields.getattr platform.class_attribute name) = true →
      ∃ g ∈ case_type_gaps parsed hint ++
          case_cfg.required_fields.filterMap (required_gap platform cfg fields confidence),
        g.field = name ∧ (missing (fields.value name) = true → g.severity = .block)) :
    Accounted cfg raw proposed fields (case_type_gaps parsed hint ++
        case_cfg.required_fields.filterMap (required_gap platform cfg fields confidence)) name ↔
      NotShadowed platform name ∧
        ∀ f, source_of raw proposed name = some f → Noticed platform cfg proposed name f := by
  obtain ⟨hget, hvalue⟩ := getattr_other platform.class_attribute fields hfield
  have hnull : missing (fields.value name) = true := by
    rw [hvalue]
    rfl
  have hsource : source_of raw proposed name = none := if_neg fun h => hfield h.1
  unfold Accounted NotShadowed
  rw [hsource, hnull]
  simp only [hfield, not_false_iff, forall_const, Bool.true_eq_false, false_or, reduceCtorEq,
    false_implies, implies_true, and_true]
  constructor
  · rintro ⟨g, hg, rfl, hblock⟩
    rcases List.mem_append.mp hg with hcase | hreq
    · -- the other gaps are about the case type, which is a field
      unfold case_type_gaps at hcase
      split at hcase
      · split at hcase
        · cases List.mem_singleton.mp hcase
          exact absurd (by decide) hfield
        · cases hcase
      · cases hcase
    · obtain ⟨name', -, hgap⟩ := List.mem_filterMap.mp hreq
      unfold required_gap at hgap
      simp only at hgap
      split at hgap
      · next hmissing =>
        cases hgap
        rw [← hget]
        exact hmissing
      · split at hgap
        · cases hgap
          cases hblock
        · cases hgap
  · intro hmissing
    rw [← hget] at hmissing
    obtain ⟨g, hg, hname, hblock⟩ := hblocked hmissing
    exact ⟨g, hg, hname, hblock hnull⟩

/-- **When the mapping is complete.** Exactly when the class has nothing else under the name of a required
    field, and the plain name of each required field that a value of low confidence fills has
    a low confidence as well. -/
theorem mapping_complete_iff (h : parse_lead platform lead proposal hint cfg = .ok (fields, gaps)) :
    MappingComplete cfg lead.raw (proposed_fields proposal) fields gaps ↔
      ∀ case_cfg, cfg.get_case_type
          (some (resolved_case_type lead (proposed_fields proposal) hint cfg)) = .ok case_cfg →
        ∀ name ∈ case_cfg.required_fields, NotShadowed platform name ∧
          ∀ f, source_of lead.raw (proposed_fields proposal) name = some f →
            Noticed platform cfg (proposed_fields proposal) name f := by
  obtain ⟨confidence, parsed, case_cfg, hconfidence, hread, rfl, hcfg, rfl⟩ := parse_lead_ok h
  have hresolved : cfg.get_case_type
      (some (resolved_case_type lead (proposed_fields proposal) hint cfg)) = .ok case_cfg := by
    rw [resolved_case_type, ← case_type_of_read hread, ← get_case_type_resolved]
    exact hcfg
  unfold MappingComplete
  rw [hcfg, hresolved]
  simp only [Except.ok.injEq, forall_eq']
  refine forall₂_congr fun name hname => ?_
  -- a field that `getattr` does not find has a blocking gap
  have hblocked : missing ((resolve_case_type cfg parsed).getattr platform.class_attribute name) = true →
      ∃ g ∈ case_type_gaps parsed hint ++ case_cfg.required_fields.filterMap
          (required_gap platform cfg (resolve_case_type cfg parsed) confidence),
        g.field = name ∧ (missing ((resolve_case_type cfg parsed).value name) = true →
          g.severity = .block) := by
    intro hmissing
    have hgap : required_gap platform cfg (resolve_case_type cfg parsed) confidence name =
        some ⟨name, "Required field " ++ repr_str name ++ " is missing.", .block⟩ := by
      unfold required_gap
      rw [hmissing]
      rfl
    exact ⟨_, List.mem_append_right _ (List.mem_filterMap.mpr ⟨name, hname, hgap⟩), rfl, fun _ => rfl⟩
  by_cases hfield : name ∈ IntakeFields.model_fields
  case neg => exact accounted_other hfield hblocked
  have hget := getattr_field platform.class_attribute (resolve_case_type cfg parsed) hfield
  rw [hget] at hblocked
  have hshadow : NotShadowed platform name := fun hnot => absurd hfield hnot
  have hvalue : ∀ f, source_of lead.raw (proposed_fields proposal) name = some f →
      (resolve_case_type cfg parsed).value name = taken platform name f.value ∧
        (name = "case_type" → parsed.unclassified = false) := by
    intro f hsource
    obtain ⟨hvalue, hclass⟩ := value_of_source hread hsource
    rw [value_resolve cfg parsed name hclass]
    exact ⟨hvalue, hclass⟩
  rw [and_iff_right hshadow]
  unfold Accounted Noticed
  by_cases hmissing : missing ((resolve_case_type cfg parsed).value name) = true
  case pos =>
    refine iff_of_true (.inr (hblocked hmissing)) ?_
    intro f hsource _
    rw [(hvalue f hsource).1] at hmissing
    exact .inl hmissing
  simp only [Bool.not_eq_true] at hmissing
  simp only [hmissing, true_and, Bool.false_eq_true, false_implies, and_true]
  cases hsource : source_of lead.raw (proposed_fields proposal) name with
  | none => simp
  | some f =>
    obtain ⟨htaken, hclass⟩ := hvalue f hsource
    rw [mem_gaps_iff hname (hconfidence name) hclass (by rw [hget]; exact hmissing)]
    simp only [Option.some.injEq, forall_eq', ← htaken, hmissing, Bool.false_eq_true, false_or]
    constructor
    · rintro (henough | hgap) hlow
      · exact absurd henough hlow
      · exact hgap
    · intro hgap
      by_cases henough : cfg.confidence_threshold.value ≤ f.confidence.value
      · exact .inl henough
      · exact .inr (hgap henough)

end gaps

/-! ## Two leads without a name -/

section leads

def plain_platform : Platform where
  pydantic := ⟨fun _ => none, fun x => match x with
    | .float x => some x
    | _ => none, fun _ => none, some⟩
  a_number := none
  fixed2 x := x.repr
  upper s := s
  uuid5 _ name := name
  class_attribute name :=
    if name ∈ ["copy", "dict", "json"] then .str ("<bound method BaseModel." ++ name ++ ">") else .null

/-- The configuration before a pack is applied. -/
def neutral_config : IntakeConfig where
  case_type_configs := (∅ : Dict String CaseTypeConfig).set "default"
    ⟨"default", ["full_name", "email"], [⟨"Open matter in case system", "staff", none, 1⟩], [],
      "default_welcome"⟩
  default_case_type := "default"
  confidence_threshold := .finite ⟨"0.8", by decide⟩

/-- A lead that comes with an address only. -/
def address_only : LeadPayload where
  source_channel := "email"
  received_at := 0
  raw := [("email", .str "jane@example.com")]
  attachments := []
  provider_event_id := none

/-- A name that the extraction is not sure of, under the given key. -/
def unsure_name (key : String) : ExtractionProposal := ⟨[⟨key, .str "Jane Roe", ⟨"0.3", by decide⟩⟩]⟩

/-- Under its plain key, the name has a gap. -/
theorem plain_key_noticed :
    ∃ fields gaps, parse_lead plain_platform address_only (some (unsure_name "full_name")) .null
        neutral_config = .ok (fields, gaps) ∧
      MappingComplete neutral_config address_only.raw (unsure_name "full_name").fields fields gaps := by
  have hparse : (parse_lead plain_platform address_only (some (unsure_name "full_name")) .null
      neutral_config).toOption.isSome = true := by
    decide +kernel
  obtain ⟨⟨fields, gaps⟩, hsome⟩ := Option.isSome_iff_exists.mp hparse
  cases hresult : parse_lead plain_platform address_only (some (unsure_name "full_name")) .null
    neutral_config with
  | error exc =>
    rw [hresult] at hsome
    cases hsome
  | ok result =>
    refine ⟨result.1, result.2, rfl, (mapping_complete_iff hresult).mpr ?_⟩
    intro case_cfg hcfg name hname
    cases hcfg
    have hrequired : name ∈ ["full_name", "email"] := hname
    simp only [List.mem_cons, List.not_mem_nil, or_false] at hrequired
    rcases hrequired with rfl | rfl
    · refine ⟨fun hnot => absurd (by decide) hnot, ?_⟩
      intro f hsource
      cases hsource
      intro _
      exact .inr (by decide +kernel)
    · refine ⟨fun hnot => absurd (by decide) hnot, ?_⟩
      intro f hsource
      cases hsource

/-- Under a dotted key, it has none. -/
theorem dotted_key_unnoticed :
    ¬∀ (platform : Platform) (lead : LeadPayload) (proposal : Option ExtractionProposal)
      (hint : PyValue) (cfg : IntakeConfig) (fields : IntakeFields) (gaps : List IntakeGap),
      parse_lead platform lead proposal hint cfg = .ok (fields, gaps) →
        MappingComplete cfg lead.raw (proposed_fields proposal) fields gaps := by
  intro h
  have hgaps : (parse_lead plain_platform address_only (some (unsure_name "contact.full_name")) .null
      neutral_config).toOption.map (fun result => (result.1.case_type,
        result.2.all fun g => decide (g.field ≠ "full_name"))) = some (some "default", true) := by
    decide +kernel
  obtain ⟨⟨fields, gaps⟩, hresult, hnone⟩ := ok_of_toOption_map hgaps
  simp only [Prod.mk.injEq] at hnone
  have hcomplete := h plain_platform address_only (some (unsure_name "contact.full_name")) .null
    neutral_config fields gaps hresult
  have hcfg : neutral_config.get_case_type fields.case_type = .ok ⟨"default", ["full_name", "email"],
      [⟨"Open matter in case system", "staff", none, 1⟩], [], "default_welcome"⟩ := by
    rw [hnone.1]
    rfl
  rcases hcomplete _ hcfg "full_name" (by decide) with hpresent | ⟨g, hg, hfield, -⟩
  · have henough := hpresent.2 ⟨"contact.full_name", .str "Jane Roe", ⟨"0.3", by decide⟩⟩ rfl
    exact absurd henough (by decide +kernel)
  · have hother := List.all_eq_true.mp hnone.2 g hg
    exact absurd hfield (of_decide_eq_true hother)

end leads

end CaseAutomation.Intake
