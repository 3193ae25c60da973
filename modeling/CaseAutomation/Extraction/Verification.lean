import CaseAutomation.Base.PyValues
import CaseAutomation.Extraction.Recovered

/-! # Which Fields Must Be Verified

    The fields of a proposal: the validator of `ExtractedField` (`types.py`), `normalise_fields`
    (`llm.py`), `FieldMapper` and `apply_threshold` (`mapper.py`), and `ExtractionService.extract` from
    the call of the client on.

    A provider's field passes through three loops: its confidence is normalised, its key is mapped, and
    the threshold is applied. The first would flag a confidence that it had to clamp, but the validator
    has clamped it before; the second knows which keys are sensitive, and flags nothing. So the
    threshold is what is left (`verification_exact_iff`).
-/

namespace CaseAutomation.Extraction

open Framework

/-! ## Fields and profiles -/

inductive TargetType where
  | Contact
  | Matter
  | Document
  | Deadline
  | Communication
  | Task
  deriving DecidableEq, Repr

/-- One entry in a mapping profile. -/
structure FieldMapping where
  source_key : String
  domain_key : String
  target_type : TargetType
  sensitive : Bool

structure MappingProfile where
  name : String
  fields : List FieldMapping
  confidence_threshold : ℚ

/-- `mapping_by_source`. -/
def MappingProfile.mapping_by_source (profile : MappingProfile) : Dict String FieldMapping :=
  profile.fields.foldl (fun mapping m => mapping.set m.source_key m) ∅

/-- A confidence, which is in [0, 1]. -/
structure Confidence where
  value : ℚ
  nonneg : 0 ≤ value
  le_one : value ≤ 1
  deriving DecidableEq

/-- `max(0.0, min(1.0, f))`. -/
def clamp (f : ℚ) : Confidence where
  value := max 0 (min 1 f)
  nonneg := le_max_left _ _
  le_one := max_le zero_le_one (min_le_left _ _)

/-- What `float` makes of a confidence. -/
inductive ProviderConfidence where
  | number (q : ℚ)
  | nan
  | infinite (negative : Bool)
  /-- Not a number: `float` raises. It is given by its `repr`. -/
  | other (repr : String)

/-- The arguments with which a client builds a field. -/
structure ProviderField where
  key : String
  target_type : TargetType
  value : PyValue
  confidence : ProviderConfidence
  requires_verification : Bool

structure ExtractedField where
  key : String
  target_type : TargetType
  value : PyValue
  confidence : Confidence
  requires_verification : Bool

/-- `clamp_confidence`, the validator. -/
def clamp_confidence : ProviderConfidence → Confidence
  | .number q => clamp q
  | .nan => clamp 0
  | .infinite _ => clamp 0
  | .other _ => clamp 0

/-- `ExtractedField(...)`. -/
def ProviderField.extracted (given : ProviderField) : ExtractedField where
  key := given.key
  target_type := given.target_type
  value := given.value
  confidence := clamp_confidence given.confidence
  requires_verification := given.requires_verification

/-! ## Normalising -/

def clamp_warning (kind repr : String) : String :=
  "Provider returned " ++ kind ++ " confidence " ++ repr ++ "; clamped to 0."

/-- `normalise_confidence`, with its warnings. -/
def normalise_confidence : ProviderConfidence → Confidence × List String
  | .number q => (clamp q, [])
  | .nan => (clamp 0, [clamp_warning "non-finite" "nan"])
  | .infinite negative =>
    (clamp 0, [clamp_warning "non-finite" (if negative then "-inf" else "inf")])
  | .other repr => (clamp 0, [clamp_warning "non-numeric" repr])

/-- One round of `normalise_fields`. -/
def normalise_field (f : ExtractedField) : ExtractedField :=
  let clamped := (normalise_confidence (.number f.confidence.value)).1
  if clamped ≠ f.confidence then { f with confidence := clamped, requires_verification := true } else f

/-- `normalise_fields`, with its warnings. -/
def normalise_fields (fields : List ExtractedField) : List ExtractedField × List String :=
  (fields.map normalise_field,
    fields.flatMap fun f => (normalise_confidence (.number f.confidence.value)).2)

/-! ## Mapping -/

def drop_warning (profile : MappingProfile) (key : String) : String :=
  "Unmapped key " ++ repr_str key ++ " dropped (not in profile " ++ repr_str profile.name ++ ")."

/-- The field under its rule. -/
def mapped (rule : FieldMapping) (field : ExtractedField) : ExtractedField :=
  { field with key := rule.domain_key, target_type := rule.target_type }

/-- `FieldMapper.to_domain`, with its warnings. -/
def to_domain (profile : MappingProfile) :
    List ExtractedField → List ExtractedField × List String
  | [] => ([], [])
  | field :: rest =>
    let (result, warnings) := to_domain profile rest
    match profile.mapping_by_source.get? field.key with
    | none => (result, drop_warning profile field.key :: warnings)
    | some rule => (mapped rule field :: result, warnings)

/-! ## The threshold -/

/-- One round of `apply_threshold`. -/
def gated (threshold : ℚ) (field : ExtractedField) : ExtractedField :=
  if field.confidence.value < threshold ∧ field.requires_verification = false then
    { field with requires_verification := true }
  else field

/-- `apply_threshold`. -/
def apply_threshold (fields : List ExtractedField) (threshold : ℚ) : List ExtractedField :=
  fields.map (gated threshold)

/-! ## Extraction -/

/-- The exceptions of the structuring stage. -/
inductive StructuringError where
  /-- `ResidencyError`. -/
  | residency (endpoint : String)
  /-- `ProviderUnavailableError`. -/
  | provider_unavailable (provider : String)
  | other (e : Exn)
  deriving DecidableEq

/-- `LLMStructuringClient`. -/
structure LLMStructuringClient where
  provider_id : String
  endpoint : String
  /-- `structure`, by the arguments of the fields that it builds; the prompt is a text made of the
      profile. -/
  structure_text : String → MappingProfile →
    Except StructuringError (List ProviderField)

inductive StructuringStatus where
  | ok
  | unavailable
  | skipped
  deriving DecidableEq, Repr

structure ExtractionProposal where
  fields : List ExtractedField
  page_coverage : PageCoverage
  structuring_status : StructuringStatus
  provider : Option String
  deterministic : Bool
  warnings : List String

/-- `ExtractionService`, with its client and profiles. -/
structure Extractor extends ExtractionService where
  client : LLMStructuringClient
  profiles : Dict String MappingProfile

/-- `ExtractInput`, with what the later stages read. -/
structure ExtractRequest extends ExtractInput where
  mapping_profile : Option String
  threshold : Option ℚ

/-- `_DEFAULT_PROFILE`; the threshold is the float `0.80`. -/
def DEFAULT_PROFILE : MappingProfile := ⟨"default", [], 3602879701896397 / 4503599627370496⟩

def unavailable_warning : String := "LLM provider unavailable; structuring skipped."

namespace Extractor

/-- The profile of a request. -/
def profile (service : Extractor) (request : ExtractRequest) : MappingProfile :=
  let name := (request.mapping_profile.filter (· ≠ "")).getD "default"
  (service.profiles.get? name).getD DEFAULT_PROFILE

def threshold (service : Extractor) (request : ExtractRequest) : ℚ :=
  request.threshold.getD (service.profile request).confidence_threshold

/-- The answer of the client, if it is called. -/
def structured (service : Extractor) (request : ExtractRequest) (recovered : Recovered) :
    Option (Except StructuringError (List ProviderField)) :=
  (service.text_given request.toExtractInput recovered).map fun text =>
    service.client.structure_text text (service.profile request)

/-- A proposal without fields. -/
def no_fields (recovered : Recovered) (status : StructuringStatus) (warnings : List String) :
    ExtractionProposal where
  fields := []
  page_coverage := recovered.coverage
  structuring_status := status
  provider := none
  deterministic := true
  warnings := recovered.warnings ++ warnings

/-- A proposal with the fields of the provider. -/
def propose (service : Extractor) (request : ExtractRequest) (recovered : Recovered)
    (raw_fields : List ProviderField) : ExtractionProposal :=
  let (normalised, clamp_warnings) := normalise_fields (raw_fields.map ProviderField.extracted)
  let (mapped, drop_warnings) := to_domain (service.profile request) normalised
  { fields := apply_threshold mapped (service.threshold request)
    page_coverage := recovered.coverage
    structuring_status := .ok
    provider := some service.client.provider_id
    deterministic := false
    warnings := recovered.warnings ++ clamp_warnings ++ drop_warnings }

/-- `extract`. -/
def extract (service : Extractor) (request : ExtractRequest) (content : List UInt8) :
    Except StructuringError ExtractionProposal :=
  match service.recover request.toExtractInput content with
  | .error e => .error (.other e)
  | .ok recovered =>
    match service.structured request recovered with
    | none => .ok (no_fields recovered .skipped [])
    | some (.ok raw_fields) => .ok (service.propose request recovered raw_fields)
    | some (.error (.provider_unavailable _)) =>
      .ok (no_fields recovered .unavailable [unavailable_warning])
    | some (.error e) => .error e

/-- The fields as the provider builds them; none where it is not called, or raises. -/
def raw_fields (service : Extractor) (request : ExtractRequest) (content : List UInt8) :
    List ProviderField :=
  match service.recover request.toExtractInput content with
  | .error _ => []
  | .ok recovered =>
    match service.structured request recovered with
    | some (.ok raw_fields) => raw_fields
    | _ => []

end Extractor

/-! ## What the flag should say -/

/-- The rule of a source key: the last one that is listed for it. -/
def MappingProfile.rule_for (profile : MappingProfile) (key : String) : Option FieldMapping :=
  profile.fields.reverse.find? fun m => decide (m.source_key = key)

/-- The confidence is not a number from 0 to 1. -/
def Clamped : ProviderConfidence → Prop
  | .number q => ¬ (0 ≤ q ∧ q ≤ 1)
  | _ => True

/-- What the code sees: a confidence below the threshold, or the flag of the provider. -/
def Flagged (threshold : ℚ) (given : ProviderField) : Prop :=
  (clamp_confidence given.confidence).value < threshold ∨ given.requires_verification = true

/-- A field of a proposal stands for one of the provider's, and its flag says what it should. -/
structure Stands (profile : MappingProfile) (threshold : ℚ) (given : ProviderField)
    (field : ExtractedField) (rule : FieldMapping) : Prop where
  found : profile.rule_for given.key = some rule
  key : field.key = rule.domain_key
  target_type : field.target_type = rule.target_type
  value : field.value = given.value
  confidence : field.confidence = clamp_confidence given.confidence
  flag : field.requires_verification = true ↔ field.confidence.value < threshold ∨
    given.requires_verification = true ∨ Clamped given.confidence ∨ rule.sensitive = true

/-- The fields of the proposal are those of the provider whose keys are mapped, each with an exact flag; and
    for each of the others there is one warning, after those of the earlier stages. -/
structure VerificationExact (service : Extractor) (request : ExtractRequest) (content : List UInt8)
    (proposal : ExtractionProposal) : Prop where
  fields : List.Forall₂
    (fun given field => ∃ rule,
      Stands (service.profile request) (service.threshold request) given field rule)
    ((service.raw_fields request content).filter fun given =>
      ((service.profile request).rule_for given.key).isSome) proposal.fields
  dropped : ∃ recovered, service.recover request.toExtractInput content = .ok recovered ∧
    ∃ outage, (outage = [] ∨ outage = [unavailable_warning]) ∧
      proposal.warnings = recovered.warnings ++ outage ++
        ((service.raw_fields request content).filter fun given =>
          ((service.profile request).rule_for given.key).isNone).map
            fun given => drop_warning (service.profile request) given.key

/-! ## The three loops -/

section loops
variable {profile : MappingProfile} {threshold : ℚ} {given : ProviderField}
  {rule : FieldMapping} {field : ExtractedField}

theorem mapping_get? (profile : MappingProfile) (key : String) :
    profile.mapping_by_source.get? key = profile.rule_for key := by
  unfold MappingProfile.mapping_by_source MappingProfile.rule_for
  rw [Dict.get?_foldl_set]
  simp

/-- A confidence is clamped already. -/
theorem clamp_value (c : Confidence) : clamp c.value = c := by
  obtain ⟨q, hnonneg, hle⟩ := c
  simp [clamp, hnonneg, hle]

/-- So the first loop changes nothing, and gives no warning. -/
theorem normalise_field_eq (f : ExtractedField) : normalise_field f = f := by
  unfold normalise_field normalise_confidence
  simp [clamp_value]

theorem normalise_fields_eq (fields : List ExtractedField) : normalise_fields fields = (fields, []) := by
  have hid : normalise_field = id := funext normalise_field_eq
  unfold normalise_fields
  simp [hid, normalise_confidence]

/-- The flag after the last loop. -/
theorem gated_flag : (gated threshold field).requires_verification = true ↔
    field.confidence.value < threshold ∨ field.requires_verification = true := by
  unfold gated
  split
  · next h => simp [h.1]
  · next h =>
    constructor
    · exact Or.inr
    · rintro (hbelow | hflag)
      · by_contra hnot
        exact h ⟨hbelow, by simpa using hnot⟩
      · exact hflag

/-- Nothing but the flag changes there. -/
theorem gated_rest (threshold : ℚ) (field : ExtractedField) : (gated threshold field).key = field.key ∧
    (gated threshold field).target_type = field.target_type ∧
    (gated threshold field).value = field.value ∧
    (gated threshold field).confidence = field.confidence := by
  unfold gated
  split <;> exact ⟨rfl, rfl, rfl, rfl⟩

/-- What becomes of a field of the provider under a rule. -/
def carried (threshold : ℚ) (rule : FieldMapping) (given : ProviderField) : ExtractedField :=
  gated threshold (mapped rule given.extracted)

/-- The flag that it has. Neither the rule nor what the confidence was before is asked. -/
theorem carried_flag : (carried threshold rule given).requires_verification = true ↔
    Flagged threshold given := by
  unfold carried
  rw [gated_flag]
  rfl

/-- It stands for the field unless the key is sensitive or the confidence was clamped, and nothing else
    raises the flag. -/
theorem stands_iff (hrule : profile.rule_for given.key = some rule) :
    (∃ rule', Stands profile threshold given (carried threshold rule given) rule') ↔
      (Clamped given.confidence ∨ rule.sensitive = true → Flagged threshold given) := by
  obtain ⟨hkey, htype, hvalue, hconfidence⟩ := gated_rest threshold (mapped rule given.extracted)
  have hvalue' : (carried threshold rule given).confidence.value < threshold ↔
      (clamp_confidence given.confidence).value < threshold := by
    unfold carried
    rw [hconfidence]
    rfl
  constructor
  · rintro ⟨rule', hstands⟩ hdoubt
    obtain rfl : rule = rule' := Option.some.inj (hrule.symm.trans hstands.found)
    exact carried_flag.mp (hstands.flag.mpr (.inr (.inr hdoubt)))
  · intro hflagged
    refine ⟨rule, hrule, hkey, htype, hvalue, hconfidence, ?_⟩
    rw [carried_flag, hvalue']
    constructor
    · rintro (hbelow | hset)
      · exact .inl hbelow
      · exact .inr (.inl hset)
    · rintro (hbelow | hset | hdoubt)
      · exact .inl hbelow
      · exact .inr hset
      · exact hflagged hdoubt

theorem to_domain_cons (field : ExtractedField) (rest : List ExtractedField) :
    to_domain profile (field :: rest) =
      match profile.rule_for field.key with
      | none => ((to_domain profile rest).1, drop_warning profile field.key :: (to_domain profile rest).2)
      | some rule => (mapped rule field :: (to_domain profile rest).1, (to_domain profile rest).2) := by
  rw [to_domain, mapping_get?]

/-- **The fields of a proposal**, in the order of the provider. -/
theorem proposed_fields (profile : MappingProfile) (threshold : ℚ) (given : List ProviderField) :
    apply_threshold (to_domain profile (given.map ProviderField.extracted)).1 threshold =
      given.filterMap fun f => (profile.rule_for f.key).map fun rule => carried threshold rule f := by
  induction given with
  | nil => rfl
  | cons f rest ih =>
    rw [List.map_cons, to_domain_cons, List.filterMap_cons, ← ih]
    have hkey : f.extracted.key = f.key := rfl
    rw [hkey]
    cases profile.rule_for f.key <;> rfl

/-- One warning for each field whose key is not mapped. -/
theorem proposed_drops (profile : MappingProfile) (given : List ProviderField) :
    (to_domain profile (given.map ProviderField.extracted)).2 =
      (given.filter fun f => (profile.rule_for f.key).isNone).map fun f => drop_warning profile f.key := by
  induction given with
  | nil => rfl
  | cons f rest ih =>
    rw [List.map_cons, to_domain_cons, List.filter_cons]
    have hkey : f.extracted.key = f.key := rfl
    rw [hkey]
    cases profile.rule_for f.key with
    | none => simpa [hkey] using ih
    | some rule => simpa using ih

end loops

/-- A relation that holds between the arguments and the results of a partial function. -/
theorem forall₂_filterMap {α β : Type} {R : α → β → Prop} {p : α → Bool} {f : α → Option β}
    (hp : ∀ x, p x = (f x).isSome) (xs : List α) :
    List.Forall₂ R (xs.filter p) (xs.filterMap f) ↔ ∀ x ∈ xs, ∀ y, f x = some y → R x y := by
  induction xs with
  | nil => simp
  | cons x rest ih =>
    rw [List.filter_cons, List.filterMap_cons, hp x, List.forall_mem_cons, ← ih]
    cases f x with
    | none => simp
    | some y => simp

/-! ## When the flag is exact -/

section verification
variable {service : Extractor} {request : ExtractRequest} {content : List UInt8}
  {proposal : ExtractionProposal}

/-- What `extract` returns, by the fields that the provider has built. -/
theorem extract_cases (h : service.extract request content = .ok proposal) :
    ∃ recovered, service.recover request.toExtractInput content = .ok recovered ∧
      ((service.raw_fields request content = [] ∧ proposal.fields = [] ∧
          ∃ outage, (outage = [] ∨ outage = [unavailable_warning]) ∧
            proposal.warnings = recovered.warnings ++ outage) ∨
        proposal = service.propose request recovered (service.raw_fields request content)) := by
  unfold Extractor.extract at h
  unfold Extractor.raw_fields
  cases hrecovered : service.recover request.toExtractInput content with
  | error e =>
    rw [hrecovered] at h
    cases h
  | ok recovered =>
    simp only [hrecovered] at h ⊢
    refine ⟨recovered, rfl, ?_⟩
    cases hstructured : service.structured request recovered with
    | none =>
      simp only [hstructured] at h ⊢
      obtain rfl := Except.ok.inj h
      exact .inl ⟨trivial, rfl, [], .inl rfl, rfl⟩
    | some answer =>
      cases answer with
      | ok given =>
        simp only [hstructured] at h ⊢
        exact .inr (Except.ok.inj h).symm
      | error e =>
        simp only [hstructured] at h ⊢
        cases e with
        | provider_unavailable provider =>
          obtain rfl := Except.ok.inj h
          exact .inl ⟨trivial, rfl, [unavailable_warning], .inr rfl, rfl⟩
        | residency endpoint => cases h
        | other e => cases h

/-- The proposal for what the provider has built. -/
theorem propose_eq (service : Extractor) (request : ExtractRequest) (recovered : Recovered)
    (given : List ProviderField) :
    (service.propose request recovered given).fields =
      given.filterMap (fun f => ((service.profile request).rule_for f.key).map fun rule =>
        carried (service.threshold request) rule f) ∧
    (service.propose request recovered given).warnings = recovered.warnings ++
      (given.filter fun f => ((service.profile request).rule_for f.key).isNone).map
        fun f => drop_warning (service.profile request) f.key := by
  unfold Extractor.propose
  rw [normalise_fields_eq]
  simp only [proposed_fields, proposed_drops, List.append_nil, and_self]

/-- **When the flag is exact.** Every field of the proposal is flagged as it should be if and only if each
    field of the provider under a sensitive key, and each whose confidence was clamped, has a confidence
    below the threshold or was flagged by the provider. -/
theorem verification_exact_iff (h : service.extract request content = .ok proposal) :
    VerificationExact service request content proposal ↔
      ∀ given ∈ service.raw_fields request content, ∀ rule,
        (service.profile request).rule_for given.key = some rule →
          Clamped given.confidence ∨ rule.sensitive = true → Flagged (service.threshold request) given := by
  obtain ⟨recovered, hrecovered, ⟨hnone, hempty, outage, houtage, hwarnings⟩ | hproposal⟩ := extract_cases h
  · -- the provider has not answered, and there are no fields
    rw [hnone]
    constructor
    · intro _ given hgiven
      cases hgiven
    · intro _
      refine ⟨?_, recovered, hrecovered, outage, houtage, ?_⟩
      · rw [hnone, hempty]
        exact .nil
      · rw [hnone, hwarnings]
        exact (List.append_nil _).symm
  · -- field by field, by what the three loops make of it
    obtain ⟨hfields, hdropped⟩ :=
      propose_eq service request recovered (service.raw_fields request content)
    rw [← hproposal] at hfields hdropped
    have hstands : List.Forall₂
        (fun given field => ∃ rule,
          Stands (service.profile request) (service.threshold request) given field rule)
        ((service.raw_fields request content).filter fun given =>
          ((service.profile request).rule_for given.key).isSome) proposal.fields ↔
        ∀ given ∈ service.raw_fields request content, ∀ rule,
          (service.profile request).rule_for given.key = some rule →
            Clamped given.confidence ∨ rule.sensitive = true →
              Flagged (service.threshold request) given := by
      rw [hfields, forall₂_filterMap fun given => (Option.isSome_map).symm]
      constructor
      · intro hall given hgiven rule hrule
        exact (stands_iff hrule).mp (hall given hgiven _ (by rw [hrule]; rfl))
      · intro hall given hgiven field hfield
        obtain ⟨rule, hrule, rfl⟩ := Option.map_eq_some_iff.mp hfield
        exact (stands_iff hrule).mpr (hall given hgiven rule hrule)
    constructor
    · exact fun hexact => hstands.mp hexact.fields
    · intro hall
      refine ⟨hstands.mpr hall, recovered, hrecovered, [], .inl rfl, ?_⟩
      rw [hdropped, List.append_nil]

end verification

/-! ## A number that nobody verifies -/

section sensitive_number

def number_rule (sensitive : Bool) : FieldMapping := ⟨"a_number", "contact.a_number", .Contact, sensitive⟩

def number_profile (sensitive : Bool) : MappingProfile := ⟨"default", [number_rule sensitive], 4 / 5⟩

/-- The field as the provider builds it. -/
def number_field (percent : Nat) : ProviderField :=
  ⟨"a_number", .Contact, .str "A123456789", .number (percent / 100), false⟩

/-- A service whose provider returns this field. -/
def number_service (sensitive : Bool) (given : ProviderField) : Extractor where
  toExtractionService := { sample_service none with decode := fun _ => "A-Number: A123456789" }
  client := ⟨"mock", "http://localhost:9999/v1", fun _ _ => .ok [given]⟩
  profiles := Dict.set ∅ "default" (number_profile sensitive)

/-- The body of an e-mail. -/
def mail_request : ExtractRequest := ⟨⟨.email_body, true⟩, none, none⟩

/-- What the service makes of the field. -/
def number_proposal (sensitive : Bool) (given : ProviderField) : ExtractionProposal :=
  (number_service sensitive given).propose mail_request
    ⟨build_email_coverage, [], "A-Number: A123456789"⟩ [given]

theorem number_extracted (sensitive : Bool) (given : ProviderField) :
    (number_service sensitive given).extract mail_request [1] = .ok (number_proposal sensitive given) ∧
      (number_service sensitive given).raw_fields mail_request [1] = [given] := by
  have hrecovered : (number_service sensitive given).recover mail_request.toExtractInput [1] =
      .ok ⟨build_email_coverage, [], "A-Number: A123456789"⟩ := rfl
  have hgiven : (number_service sensitive given).text_given mail_request.toExtractInput
      ⟨build_email_coverage, [], "A-Number: A123456789"⟩ = some "A-Number: A123456789" :=
    if_pos ⟨rfl, rfl, by decide⟩
  have hstructured : (number_service sensitive given).structured mail_request
      ⟨build_email_coverage, [], "A-Number: A123456789"⟩ = some (.ok [given]) := by
    unfold Extractor.structured
    rw [hgiven]
    rfl
  constructor
  · unfold Extractor.extract
    simp only [hrecovered, hstructured]
    rfl
  · unfold Extractor.raw_fields
    simp only [hrecovered, hstructured]

/-- A field that should be flagged, and is not. -/
theorem number_missed {sensitive : Bool} {percent : Nat}
    (hdoubt : Clamped (number_field percent).confidence ∨ sensitive = true)
    (hflags : (number_proposal sensitive (number_field percent)).fields.map
      ExtractedField.requires_verification = [false]) :
    ¬ VerificationExact (number_service sensitive (number_field percent)) mail_request [1]
      (number_proposal sensitive (number_field percent)) := by
  obtain ⟨-, hraw⟩ := number_extracted sensitive (number_field percent)
  intro hexact
  have hfields := hexact.fields
  rw [hraw] at hfields
  have hfiltered : [number_field percent].filter (fun given =>
      (((number_service sensitive (number_field percent)).profile mail_request).rule_for
        given.key).isSome) = [number_field percent] := rfl
  rw [hfiltered] at hfields
  generalize (number_proposal sensitive (number_field percent)).fields = fields at hfields hflags
  cases hfields with
  | cons hstands hrest =>
    cases hrest
    obtain ⟨rule, hstands⟩ := hstands
    have hrule : ((number_service sensitive (number_field percent)).profile mail_request).rule_for
        "a_number" = some (number_rule sensitive) := rfl
    obtain rfl := Option.some.inj (hrule.symm.trans hstands.found)
    have hflag := hstands.flag.mpr (.inr (.inr hdoubt))
    simp [hflag] at hflags

/-- **A number that should be verified is not flagged.** With a confidence of 0.95, under a sensitive
    key; and with one of 1.3, which the validator has made 1.0. -/
theorem number_unverified :
    ((number_service true (number_field 95)).extract mail_request [1] =
        .ok (number_proposal true (number_field 95)) ∧
      ¬ VerificationExact (number_service true (number_field 95)) mail_request [1]
        (number_proposal true (number_field 95))) ∧
    (number_service false (number_field 130)).extract mail_request [1] =
        .ok (number_proposal false (number_field 130)) ∧
      ¬ VerificationExact (number_service false (number_field 130)) mail_request [1]
        (number_proposal false (number_field 130)) := by
  have hclamped : Clamped (number_field 130).confidence := by
    rintro ⟨-, hle⟩
    exact absurd hle (by decide +kernel)
  exact ⟨⟨(number_extracted _ _).1, number_missed (.inr rfl) (by decide +kernel)⟩,
    (number_extracted _ _).1, number_missed (.inl hclamped) (by decide +kernel)⟩

/-- With a lower confidence it is. -/
theorem number_doubted :
    VerificationExact (number_service true (number_field 50)) mail_request [1]
      (number_proposal true (number_field 50)) := by
  obtain ⟨hextracted, hraw⟩ := number_extracted true (number_field 50)
  refine (verification_exact_iff hextracted).mpr ?_
  rw [hraw]
  intro given hgiven rule _ _
  obtain rfl := List.mem_singleton.mp hgiven
  exact .inl (by decide +kernel)

end sensitive_number

end CaseAutomation.Extraction
