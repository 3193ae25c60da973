import CaseAutomation.Base.Floats
import CaseAutomation.Deadline.Compute
import CaseAutomation.Qc.Privilege

/-! # The Seven Checks

    `qc/checks/*.py`, with the packet of `qc/packet.py`. Each check collects failures and
    warnings over the members of the packet; the privilege check is in `Qc.Privilege`.

    `Defect` and `Concern` say what the checks look for without saying how. A full report blocks
    the packets with a defect and warns about those with a concern (`full_report`), and what is
    added to a packet never lifts a block (`block_survives`).
-/

namespace CaseAutomation.Qc

open Framework Domain
open Deadline (DateTime)

/-! ## Packets -/

/-- A field from the extraction service. -/
structure QCExtractedField where
  name : String
  confidence : AnyFloat

/-- One template's variables. -/
structure TemplateBinding where
  template_name : String
  required_vars : List String
  resolved_vars : Dict String (Option String)

/-- A referenced attachment. -/
structure AttachmentRef where
  referenced_name : String
  expected_checksum : Option String
  expected_version : Option Int

/-- A deadline, as far as it is checked. -/
structure PacketDeadline where
  id : String
  due_at : DateTime

/-- The members of a packet that the privilege check does not read. -/
structure PacketRest where
  communications : List Communication
  deadlines : List PacketDeadline
  extracted_fields : List QCExtractedField
  template_bindings : List TemplateBinding
  attachment_refs : List AttachmentRef
  now : DateTime

abbrev Packet : Type := VerificationPacket (PacketContent PacketRest)

/-- The thresholds of `QCConfig`. -/
structure QCSettings where
  extraction_warn_threshold : AnyFloat
  extraction_fail_floor : AnyFloat
  deadline_horizon_days : Int
  deadline_tight_window_days : Int

/-- The parts of the language that the checks use. -/
structure TextFormat where
  /-- `s.lower()`. -/
  lower : String → String
  /-- `f"(x:.2f)"`. -/
  fixed2 : AnyFloat → String

/-! ## What all checks share -/

/-- A result without findings. -/
def plain_result (check_id : String) (verdict : Verdict) (reason : String) : CheckResult where
  check_id := check_id
  check_version := "1.0"
  verdict := verdict
  reason := reason
  evidence := []
  skip_reason := none

/-- A member of the packet is absent. -/
def field_absent (check_id reason : String) : CheckResult :=
  { plain_result check_id .SKIPPED reason with skip_reason := some .FIELD_ABSENT }

/-- A list of findings, as evidence. -/
def listed (findings : List String) : Json := .arr (findings.map Json.str)

/-- What is said about findings, and where they are filed. -/
structure Wording where
  reason : String
  evidence : JsonObj

/-- Any failure fails; else any warning warns; else the packet passes. -/
def conclude (check_id : String) (failures warnings : List String) (failed warned : Wording)
    (passed : String) : CheckResult :=
  if failures ≠ [] then
    { plain_result check_id .FAIL failed.reason with evidence := failed.evidence }
  else if warnings ≠ [] then
    { plain_result check_id .WARN warned.reason with evidence := warned.evidence }
  else plain_result check_id .PASS passed

theorem conclude_fail {check_id : String} {failures warnings : List String}
    {failed warned : Wording} {passed : String} :
    (conclude check_id failures warnings failed warned passed).verdict = .FAIL ↔ failures ≠ [] := by
  unfold conclude
  by_cases hfail : failures = []
  · by_cases hwarn : warnings = []
    · simp [hfail, hwarn, plain_result]
    · simp [hfail, hwarn, plain_result]
  · simp [hfail, plain_result]

theorem conclude_warn {check_id : String} {failures warnings : List String}
    {failed warned : Wording} {passed : String} :
    (conclude check_id failures warnings failed warned passed).verdict = .WARN ↔
      failures = [] ∧ warnings ≠ [] := by
  unfold conclude
  by_cases hfail : failures = []
  · by_cases hwarn : warnings = []
    · simp [hfail, hwarn, plain_result]
    · simp [hfail, hwarn, plain_result]
  · simp [hfail, plain_result]

/-! ## Attachments -/

/-- `(d.name: d for d in packet.documents)`: of documents with one name, the last. -/
def doc_by_name (documents : List Document) : Dict String Document :=
  documents.foldl (fun found d => found.set d.name d) ∅

/-- `ref.expected_checksum and doc.checksum != ref.expected_checksum`. -/
def checksum_differs (ref : AttachmentRef) (doc : Document) : Bool :=
  match ref.expected_checksum with
  | none => false
  | some expected => decide (expected ≠ "" ∧ doc.checksum ≠ expected)

/-- What is wrong with one reference. -/
def attachment_failures (documents : List Document) (ref : AttachmentRef) : List String :=
  match (doc_by_name documents).get? ref.referenced_name with
  | none => ["Attachment " ++ repr_str ref.referenced_name ++ " not found in packet."]
  | some doc =>
    (if checksum_differs ref doc then
      ["Attachment " ++ repr_str ref.referenced_name ++ " checksum mismatch."] else []) ++
    match ref.expected_version with
    | none => []
    | some expected =>
      if doc.version > expected then []
      else if doc.version ≠ expected then
        ["Attachment " ++ repr_str ref.referenced_name ++ " version mismatch: expected " ++
          toString expected ++ ", got " ++ toString doc.version ++ "."]
      else []

/-- What is noted about one reference. -/
def attachment_warnings (documents : List Document) (ref : AttachmentRef) : List String :=
  match (doc_by_name documents).get? ref.referenced_name, ref.expected_version with
  | some doc, some expected =>
    if doc.version > expected then
      ["Attachment " ++ repr_str ref.referenced_name ++ " version " ++ toString doc.version ++
        " newer than referenced " ++ toString expected ++ "."]
    else []
  | _, _ => []

/-- `AttachmentIntegrityCheck.run`. -/
def AttachmentIntegrityCheck.run (packet : Packet) : CheckResult :=
  let refs := packet.content.rest.attachment_refs
  let failures := refs.flatMap (attachment_failures packet.content.documents)
  let warnings := refs.flatMap (attachment_warnings packet.content.documents)
  if refs = [] then field_absent "attachment_integrity" "No attachment references in packet."
  else conclude "attachment_integrity" failures warnings
    ⟨"Attachment failures: " ++ repr_strs failures,
      [("failures", listed failures), ("warnings", listed warnings)]⟩
    ⟨"Attachment warnings: " ++ repr_strs warnings, [("warnings", listed warnings)]⟩
    "All attachments present and verified."

/-! ## Completeness -/

/-- `val is None or str(val).strip() == ""`. -/
def unresolved : Option String → Bool
  | none => true
  | some value => decide (strip value = "")

/-- The required variables of a binding that are not resolved. -/
def missing_vars (binding : TemplateBinding) : List String :=
  (binding.required_vars.filter fun var =>
    unresolved ((binding.resolved_vars.get? var).getD none)).map
    fun var => binding.template_name ++ "." ++ var

/-- The matter fields that are empty. -/
def missing_fields (matter : Matter) : List String :=
  (if matter.id = "" then ["matter.id"] else []) ++
  (if matter.reference = "" then ["matter.reference"] else []) ++
  (if matter.title = "" then ["matter.title"] else []) ++
  (if matter.status = "" then ["matter.status"] else []) ++
  (if matter.client.id = "" then ["matter.client"] else [])

/-- `CompletenessCheck.run`. -/
def CompletenessCheck.run (packet : Packet) : CheckResult :=
  let bindings := packet.content.rest.template_bindings
  let vars := bindings.flatMap missing_vars
  let fields := missing_fields packet.content.matter
  if bindings = [] then field_absent "completeness" "No template bindings in packet."
  else conclude "completeness" (vars ++ fields) []
    ⟨"Missing required vars: " ++ repr_strs vars ++ "; missing matter fields: " ++ repr_strs fields,
      [("missing_vars", listed vars), ("missing_matter_fields", listed fields)]⟩
    ⟨"", []⟩ "All required vars and matter fields present."

/-! ## Confidence -/

/-- The fields whose confidence satisfies a condition, each with its confidence. -/
def fields_where (fmt : TextFormat) (fields : List QCExtractedField)
    (condition : AnyFloat → Bool) : List String :=
  (fields.filter fun f => condition f.confidence).map
    fun f => f.name ++ " (" ++ fmt.fixed2 f.confidence ++ ")"

/-- `ExtractionConfidenceCheck.run`. -/
def ExtractionConfidenceCheck.run (fmt : TextFormat) (packet : Packet) (cfg : QCSettings) :
    CheckResult :=
  let fields := packet.content.rest.extracted_fields
  let fail_floor := cfg.extraction_fail_floor
  let warn_threshold := cfg.extraction_warn_threshold
  let failed := fields_where fmt fields fun conf => decide (conf.value < fail_floor.value)
  let warned := fields_where fmt fields fun conf =>
    !decide (conf.value < fail_floor.value) && decide (conf.value < warn_threshold.value)
  if fields = [] then field_absent "extraction_confidence" "No extracted fields in packet."
  else conclude "extraction_confidence" failed warned
    ⟨"Fields below fail_floor (" ++ fail_floor.repr ++ "): " ++ repr_strs failed,
      [("failed_fields", listed failed)]⟩
    ⟨"Fields below warn_threshold (" ++ warn_threshold.repr ++ "): " ++ repr_strs warned,
      [("warned_fields", listed warned)]⟩
    "All extracted fields meet confidence thresholds."

/-! ## Consistency -/

/-- `s.split()`. -/
def words (s : String) : List String :=
  ((s.toList.splitOnP is_space).filter fun word => !word.isEmpty).map String.ofList

/-- `_normalise`. -/
def normalise (fmt : TextFormat) (s : String) : String := " ".intercalate (words (fmt.lower s))

/-- The client under another name in a communication. -/
def renamed (matter : Matter) (participant : Contact) : Bool :=
  decide (participant.id = matter.client.id ∧ participant.name ≠ matter.client.name)

/-- The findings about the participants of all communications. -/
def participants_where (packet : Packet) (condition : Contact → Bool)
    (text : Communication → Contact → String) : List String :=
  if packet.content.matter.client.name = "" then []
  else packet.content.rest.communications.flatMap fun comm =>
    (comm.participants.filter fun participant =>
      renamed packet.content.matter participant && condition participant).map (text comm)

/-- `ConsistencyCheck.run`. -/
def ConsistencyCheck.run (fmt : TextFormat) (packet : Packet) : CheckResult :=
  let matter := packet.content.matter
  let same_words := fun participant : Contact =>
    decide (normalise fmt participant.name = normalise fmt matter.client.name)
  let foreign := (packet.content.documents.filter fun d => decide (d.matter_id ≠ matter.id)).map
    fun d => "Document " ++ repr_str d.id ++ " matter_id=" ++ repr_str d.matter_id ++ " != " ++
      repr_str matter.id
  let mismatches := foreign ++ participants_where packet (fun p => !same_words p) fun comm p =>
    "Name mismatch in comm " ++ repr_str comm.id ++ ": " ++ repr_str p.name ++ " vs " ++
      repr_str matter.client.name
  let normalised_diffs := participants_where packet same_words fun comm p =>
    "Near-match in comm " ++ repr_str comm.id ++ ": " ++ repr_str p.name ++ " normalised to " ++
      repr_str matter.client.name
  conclude "consistency" mismatches normalised_diffs
    ⟨"Consistency failures: " ++ repr_strs mismatches, [("mismatches", listed mismatches)]⟩
    ⟨"Near-match differences normalised: " ++ repr_strs normalised_diffs,
      [("normalised_diffs", listed normalised_diffs)]⟩
    "All artefacts consistent."

/-! ## Deadlines -/

/-- `timedelta(days=n)`, added to an instant. -/
def shift_days (t : DateTime) (n : Int) : Except Exn DateTime :=
  if n.natAbs ≤ 999999999 then t.add_days n
  else .error (.other "OverflowError"
    ("days=" ++ toString n ++ "; must have magnitude <= 999999999"))

/-- Where a deadline falls. -/
inductive Due where
  | past_due
  | beyond_horizon
  | tight
  | fine
  deriving DecidableEq, Repr

/-- The `if` chain over one deadline; a comparison may raise. -/
def classify_due (now horizon tight_window due_at : DateTime) : Except Exn Due := do
  if ← due_at.lt now then pure .past_due
  else if ← horizon.lt due_at then pure .beyond_horizon
  -- `due_at <= tight_window`
  else if ← tight_window.lt due_at then pure .fine
  else pure .tight

/-- The loop over the deadlines. -/
def classify_all (now horizon tight_window : DateTime) :
    List PacketDeadline → Except Exn (List (PacketDeadline × Due))
  | [] => .ok []
  | dl :: rest => do
    let due ← classify_due now horizon tight_window dl.due_at
    let more ← classify_all now horizon tight_window rest
    pure ((dl, due) :: more)

/-- The deadlines that fall in one place. -/
def deadlines_where (found : List (PacketDeadline × Due)) (due : Due) : List String :=
  (found.filter fun entry => decide (entry.2 = due)).map fun entry =>
    entry.1.id ++ " (due=" ++ entry.1.due_at.isoformat ++ ")"

/-- `DeadlineSanityCheck.run`. -/
def DeadlineSanityCheck.run (packet : Packet) (cfg : QCSettings) : Except Exn CheckResult :=
  let deadlines := packet.content.rest.deadlines
  let now := packet.content.rest.now
  if deadlines = [] then .ok (field_absent "deadline_sanity" "No deadlines in packet.")
  else do
    let horizon ← shift_days now cfg.deadline_horizon_days
    let tight_window ← shift_days now cfg.deadline_tight_window_days
    let found ← classify_all now horizon tight_window deadlines
    let past_due := deadlines_where found .past_due
    let beyond_horizon := deadlines_where found .beyond_horizon
    let tight := deadlines_where found .tight
    pure (conclude "deadline_sanity" (past_due ++ beyond_horizon) tight
      ⟨"Past-due: " ++ repr_strs past_due ++ "; beyond horizon: " ++ repr_strs beyond_horizon,
        [("past_due", listed past_due), ("beyond_horizon", listed beyond_horizon)]⟩
      ⟨"Deadlines approaching tight window: " ++ repr_strs tight, [("tight", listed tight)]⟩
      "All deadlines within plausible range.")

/-! ## Recipients -/

/-- `recipient.role and recipient.role not in ("client", "attorney", "representative")`. -/
def unexpected_role (recipient : Contact) : Bool :=
  match recipient.role with
  | none => false
  | some role => decide (role ≠ "" ∧ role ∉ ["client", "attorney", "representative"])

/-- `RecipientIntegrityCheck.run`. -/
def RecipientIntegrityCheck.run (packet : Packet) : CheckResult :=
  let client := packet.content.matter.client.id
  let recipients := packet.content.intended_recipients
  let unknown := (recipients.filter fun r => decide (r.id ≠ client)).map Contact.id
  let role_mismatches := (recipients.filter fun r => decide (r.id = client) && unexpected_role r).map
    fun r => repr_str r.id ++ " has unexpected role " ++ repr_str (r.role.getD "")
  if recipients = [] then
    { plain_result "recipient_integrity" .FAIL "No intended recipients found on a send-type packet."
      with evidence := [("packet_kind", .str packet.kind.value)] }
  else conclude "recipient_integrity" unknown role_mismatches
    ⟨"Recipients not in matter participants: " ++ repr_strs unknown,
      [("unknown_recipient_ids", listed unknown)]⟩
    ⟨"Role mismatches: " ++ repr_strs role_mismatches,
      [("role_mismatches", listed role_mismatches)]⟩
    "All recipients are matter participants."

/-! ## Registration -/

abbrev PacketCheck : Type := Check (PacketContent PacketRest) QCSettings

abbrev PacketRegistry : Type := Registry (PacketContent PacketRest) QCSettings

/-- A check whose `run` raises nothing. -/
def returning (id : String) (applies_to : Option (List String))
    (run : Packet → QCSettings → CheckResult) : PacketCheck where
  id := id
  version := "1.0"
  applies_to := applies_to
  severity_policy := WARN_OR_FAIL_OR_PASS
  run packet cfg := .returned (some (run packet cfg.settings))

def AttachmentIntegrityCheck : PacketCheck :=
  returning "attachment_integrity" none fun packet _ => AttachmentIntegrityCheck.run packet

def CompletenessCheck : PacketCheck :=
  returning "completeness" none fun packet _ => CompletenessCheck.run packet

def ExtractionConfidenceCheck (fmt : TextFormat) : PacketCheck :=
  returning "extraction_confidence" none (ExtractionConfidenceCheck.run fmt)

def ConsistencyCheck (fmt : TextFormat) : PacketCheck :=
  returning "consistency" none fun packet _ => ConsistencyCheck.run fmt packet

/-- How a run ends. -/
def Behaviour.of_run : Except Exn CheckResult → Behaviour
  | .ok result => .returned (some result)
  | .error exn => .raised exn

def DeadlineSanityCheck : PacketCheck where
  id := "deadline_sanity"
  version := "1.0"
  applies_to := none
  severity_policy := WARN_OR_FAIL_OR_PASS
  run packet cfg := .of_run (DeadlineSanityCheck.run packet cfg.settings)

def RecipientIntegrityCheck : PacketCheck :=
  returning "recipient_integrity" (some ["email_send", "document_route"])
    fun packet _ => RecipientIntegrityCheck.run packet

/-- `ALL_CHECKS`; `restriction` is the policy of the active pack. -/
def ALL_CHECKS (fmt : TextFormat) (restriction : Option (RestrictionPolicy PacketRest)) :
    List PacketCheck :=
  [AttachmentIntegrityCheck, CompletenessCheck, ExtractionConfidenceCheck fmt, ConsistencyCheck fmt,
    DeadlineSanityCheck, PrivilegeCheck fmt.lower restriction, RecipientIntegrityCheck]

/-- One turn of the loop: a check that is already registered is passed over. -/
def register_if_new (registry : PacketRegistry) (check : PacketCheck) : PacketRegistry :=
  match register_check registry check with
  | .ok registry' => registry'
  | .error _ => registry

/-- `register_all`. -/
def register_all (fmt : TextFormat) (restriction : Option (RestrictionPolicy PacketRest))
    (clear : Bool) (registry : PacketRegistry) : PacketRegistry :=
  (ALL_CHECKS fmt restriction).foldl register_if_new (if clear then Registry.empty else registry)

end CaseAutomation.Qc
