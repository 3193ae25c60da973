import CaseAutomation.Base.Errors
import CaseAutomation.Base.Floats
import CaseAutomation.Base.Text
import CaseAutomation.Domain.Models
import CaseAutomation.Security.Hmac

/-! # Document Routing

    `RoutingService.route` of `workflows/document_routing`: classify, resolve the
    destination, name, build the access list, pass the privilege gate, and then move, queue, block or
    replay an earlier decision.

    A `RouteCall` carries, besides the arguments of the call, what the outside does in it: the
    date, the fresh run id, and how the document store answers. Confidences and the threshold
    are floats, infinite or `nan` perhaps, known by their values. Log lines are left out.
-/

namespace CaseAutomation.Routing

open Framework Domain Security

/-! ## Configuration -/

/-- The closed set of document classes. -/
def DOCUMENT_CLASSES : List String :=
  ["engagement_letter", "court_filing", "id_document", "correspondence", "internal_memo",
    "form_filing", "unknown"]

structure ClassificationRule where
  class_name : String
  keyword_hints : List String

/-- The full routing configuration. -/
structure RoutingConfig where
  classes : List String
  classification_rules : List ClassificationRule
  /-- `folder_map.entries`. -/
  folder_map : Dict String String
  /-- `naming_template.render(matter_reference, class_name, date, version)`. -/
  render_name : String → String → String → Int → Except Exn String
  /-- `class_permission_policies.class_policies`. -/
  class_policies : Dict String (List String)
  classification_threshold : FloatValue
  routing_intent_version : String
  /-- `__post_init__`: every class has a folder. -/
  total : ∀ c ∈ classes, (folder_map.get? c).isSome = true

/-- What the language provides. -/
structure Platform where
  /-- `s.lower()`. -/
  lower : String → String
  /-- `json.loads(s)`; `none` stands for `JSONDecodeError`. -/
  json_loads : String → Option Json

/-! ## Requests, decisions and results -/

structure RouteOptions where
  force_review : Bool
  dry_run : Bool

inductive DestinationKind where
  | folder
  | review_queue
  deriving DecidableEq, Repr

structure RoutingDestination where
  kind : DestinationKind
  matter_id : Option String
  folder : Option String
  reason : Option String

inductive GateResult where
  | pass
  | warn
  | fail
  deriving DecidableEq, Repr

structure GateVerdict where
  verdict : GateResult
  reason : String

inductive ClassificationSource where
  | rule
  | extraction
  | fallback
  deriving DecidableEq, Repr

inductive Outcome where
  | moved
  | queued
  | blocked
  | duplicate
  | dry_run
  deriving DecidableEq, Repr

/-- The stored decision. -/
structure RoutingDecision where
  document_id : String
  idempotency_key : String
  classification : String
  classification_confidence : FloatValue
  classification_source : ClassificationSource
  name : String
  destination : RoutingDestination
  acl_digest : String
  privileged : Bool
  recipient_id : Option String
  gate_verdict : GateResult
  outcome : Outcome
  routing_intent_version : String

/-- The decision with its outcome. -/
def RoutingDecision.ending (d : RoutingDecision) (outcome : Outcome) : RoutingDecision :=
  { d with outcome := outcome }

structure RouteResult where
  document_id : String
  classification : String
  classification_confidence : FloatValue
  name : String
  destination : RoutingDestination
  privileged : Bool
  gate_verdict : GateResult
  outcome : Outcome
  idempotency_key : String

/-! ## Classification -/

/-- One field of the extraction service: its value, and what `float` makes of its confidence. -/
structure ExtractionField where
  value : Json
  confidence : Except Exn FloatValue

/-- `value in classes`; lists and dictionaries cannot be hashed. -/
def class_in (classes : List String) : Json → Except Exn (Option String)
  | .str s => .ok (if s ∈ classes then some s else none)
  | .arr _ => .error (.type_error "unhashable type: 'list'")
  | .obj _ => .error (.type_error "unhashable type: 'dict'")
  | _ => .ok none

/-- The loop over the extraction fields: the class of highest confidence so far. -/
def best_field (classes : List String) :
    List ExtractionField → Option String × FloatValue → Except Exn (Option String × FloatValue)
  | [], best => .ok best
  | field :: rest, (best_class, best_confidence) => do
    let conf ← field.confidence
    match ← class_in classes field.value with
    | some field_class =>
      if best_confidence < conf then best_field classes rest (some field_class, conf)
      else best_field classes rest (best_class, best_confidence)
    | none => best_field classes rest (best_class, best_confidence)

/-- The first rule for one of the classes with a hint in the name of the document. -/
def matching_rule (platform : Platform) (classes : List String) (rules : List ClassificationRule)
    (name : String) : Option ClassificationRule :=
  rules.find? fun rule => decide (rule.class_name ∈ classes) &&
    rule.keyword_hints.any fun hint => occurs_in (platform.lower hint) (platform.lower name)

/-- The float `0.90`. -/
def rule_confidence : ℚ := 8106479329266893 / 9007199254740992

/-- `Classifier.classify`, with the classes that it tests against. -/
def classify_among (platform : Platform) (classes : List String) (cfg : RoutingConfig)
    (document : Document) (extraction_fields : Option (List ExtractionField)) :
    Except Exn (String × FloatValue × ClassificationSource) :=
  match document.classification.filter fun c => decide (c ∈ classes) with
  | some c => .ok (c, 1, .rule)
  | none =>
    match matching_rule platform classes cfg.classification_rules document.name with
    | some rule => .ok (rule.class_name, rule_confidence, .rule)
    | none => do
      match ← best_field classes (extraction_fields.getD []) (none, 0) with
      | (some best_class, best_confidence) =>
        if cfg.classification_threshold ≤ best_confidence then
          .ok (best_class, best_confidence, .extraction)
        else .ok ("unknown", 0, .fallback)
      | (none, _) => .ok ("unknown", 0, .fallback)

/-- `Classifier.classify`: the classes are the default ones, whatever is configured. -/
def classify (platform : Platform) (cfg : RoutingConfig) (document : Document)
    (extraction_fields : Option (List ExtractionField)) :
    Except Exn (String × FloatValue × ClassificationSource) :=
  classify_among platform DOCUMENT_CLASSES cfg document extraction_fields

/-! ## Destination, access list and privilege gate -/

/-- `Resolver.resolve`. -/
def resolve (cfg : RoutingConfig) (class_name : String) (matter : Option Matter)
    (force_review : Bool) : RoutingDestination :=
  if force_review then
    ⟨.review_queue, matter.map Matter.id, none, some "force_review=True"⟩
  else
    match matter with
    | none => ⟨.review_queue, none, none, some "Matter could not be resolved."⟩
    | some matter =>
      if class_name = "unknown" then
        ⟨.review_queue, some matter.id, none, some "Document class could not be determined."⟩
      else
        match cfg.folder_map.get? class_name with
        | none => ⟨.review_queue, some matter.id, none,
            some ("No folder mapping for class " ++ repr_str class_name ++ ".")⟩
        | some folder => ⟨.folder, some matter.id, some (matter.reference ++ "/" ++ folder), none⟩

/-- The non-blank entries, stripped. -/
def stripped (entries : List String) : List String :=
  (entries.map strip).filter fun p => p ≠ ""

/-- `_parse_principals`. -/
def parse_principals (platform : Platform) (external_ids : Dict String String) : List String :=
  match (external_ids.get? "allowed_principals_json").bind platform.json_loads with
  | some (.arr principals) => stripped (principals.map py_str)
  | _ => stripped (split_on ',' ((external_ids.get? "allowed_principals").getD ""))

/-- `sorted(set(xs))`. -/
def sorted_set (xs : List String) : List String := xs.dedup.mergeSort fun a b => decide (a ≤ b)

/-- `AclBuilder.build`. -/
def build_acl (platform : Platform) (cfg : RoutingConfig) (matter : Matter) (class_name : String) :
    ACL :=
  let matter_allowed := parse_principals platform matter.external_ids ++
    (matter.responsible.filter fun r => decide (r ≠ "")).toList
  let class_policy := (cfg.class_policies.get? class_name).getD []
  let granted := if class_policy.isEmpty then matter_allowed
    else matter_allowed.filter fun p => decide (p ∈ class_policy)
  ⟨sorted_set granted, "read", false⟩

/-- `PrivilegeGate.check`. A folder is internal, so only the recipient and the caller's
    claim make a target external. -/
def check_privilege (document : Document) (recipient_id : Option String)
    (caller_claims_external : Bool) : GateVerdict :=
  let effective_external := caller_claims_external || recipient_id.isSome
  if !effective_external then ⟨.pass, "Internal filing — privilege not at risk."⟩
  else if document.privileged then
    ⟨.fail, "Privileged document " ++ repr_str document.id ++ " cannot be routed to an external " ++
      "target (external=True). This block is non-overridable (NFR-1)."⟩
  else ⟨.pass, "Non-privileged document; external routing allowed."⟩

/-! ## The service -/

/-- `_derive_idem_key`. -/
def derive_idem_key (document_id checksum : String) (recipient_id : Option String)
    (routing_intent_version : String) : String :=
  slice_to (hexdigest (sha256 (encode_utf8 (document_id ++ ":" ++ checksum ++ ":" ++
    recipient_id.getD "" ++ ":" ++ routing_intent_version)))) 16

/-- One call of `route`. -/
structure RouteCall where
  document : Document
  matter : Matter
  options : RouteOptions
  extraction_fields : Option (List ExtractionField)
  recipient_id : Option String
  run_id : Option String
  /-- `datetime.now(tz=UTC).strftime("%Y%m%d")`. -/
  date : String
  /-- `str(uuid.uuid4())`. -/
  fresh_id : String
  /-- The exception that `docstore.move` raises, if it is called. -/
  move_fails : Option Exn

/-- A `RoutingService`; the decision store is its state. -/
structure RoutingService where
  platform : Platform
  config : RoutingConfig
  /-- Whether an `audit_fn` was injected. -/
  audited : Bool

/-- What can be seen from outside. -/
inductive Event where
  /-- `docstore.move` is called. -/
  | move (document_id folder : String) (acl : ACL)
  | audited (run_id document_id : String) (decision : RoutingDecision) (outcome : Outcome)

/-- The decision store and the events so far. -/
structure RoutingState where
  decisions : Dict String RoutingDecision
  log : List Event

def RoutingState.empty : RoutingState := ⟨∅, []⟩

/-- `_decision_to_result`. -/
def decision_to_result (d : RoutingDecision) (outcome : Outcome) (idem_key : String) :
    RouteResult where
  document_id := d.document_id
  classification := d.classification
  classification_confidence := d.classification_confidence
  name := d.name
  destination := d.destination
  privileged := d.privileged
  gate_verdict := d.gate_verdict
  outcome := outcome
  idempotency_key := idem_key

namespace RoutingService

/-- The key of a call. -/
def idem_key (service : RoutingService) (call : RouteCall) : String :=
  derive_idem_key call.document.id call.document.checksum call.recipient_id
    service.config.routing_intent_version

/-- `_write_audit`: exceptions of the audit service are swallowed. -/
def write_audit (service : RoutingService) (call : RouteCall) (decision : RoutingDecision)
    (outcome : Outcome) (s : RoutingState) : RoutingState :=
  if service.audited then
    { s with log := s.log ++ [.audited ((call.run_id.filter fun id => id ≠ "").getD call.fresh_id)
      call.document.id decision outcome] }
  else s

/-- Store the decision, audit it and return it. -/
def conclude (service : RoutingService) (call : RouteCall) (decision : RoutingDecision)
    (s : RoutingState) : RouteResult × RoutingState :=
  (decision_to_result decision decision.outcome decision.idempotency_key,
    service.write_audit call decision decision.outcome
      { s with decisions := s.decisions.set decision.idempotency_key decision })

/-- The decision as it stands after the gate; its outcome is filled in later. -/
def draft (service : RoutingService) (call : RouteCall) (class_name : String)
    (confidence : FloatValue) (source : ClassificationSource) (doc_name : String) :
    RoutingDecision :=
  let cfg := service.config
  let low_confidence := decide (class_name = "unknown") ||
    decide (confidence < cfg.classification_threshold)
  let acl := build_acl service.platform cfg call.matter class_name
  { document_id := call.document.id
    idempotency_key := service.idem_key call
    classification := class_name
    classification_confidence := confidence
    classification_source := source
    name := doc_name
    destination := resolve cfg class_name (some call.matter)
      (call.options.force_review || low_confidence)
    acl_digest := slice_to (hexdigest (sha256 (encode_utf8 (repr_strs acl.principals)))) 12
    privileged := call.document.privileged
    recipient_id := call.recipient_id
    gate_verdict :=
      (check_privilege call.document call.recipient_id call.recipient_id.isSome).verdict
    outcome := .blocked
    routing_intent_version := cfg.routing_intent_version }

/-- Steps 3 to 7 of `route`: classify, resolve, name, build the access list, check privilege. -/
def plan (service : RoutingService) (call : RouteCall) : Except Exn (RoutingDecision × ACL) := do
  let (class_name, confidence, source) ←
    classify service.platform service.config call.document call.extraction_fields
  let doc_name ← service.config.render_name call.matter.reference class_name call.date
    call.document.version
  pure (service.draft call class_name confidence source doc_name,
    build_acl service.platform service.config call.matter class_name)

/-- `route`. -/
def route (service : RoutingService) (call : RouteCall) (s : RoutingState) :
    Except Exn RouteResult × RoutingState :=
  match s.decisions.get? (service.idem_key call) with
  | some existing =>
    (.ok (decision_to_result existing .duplicate (service.idem_key call)),
      service.write_audit call existing .duplicate s)
  | none =>
    match service.plan call with
    | .error e => (.error e, s)
    | .ok (decision, acl) =>
      let (result, s') :=
        if decision.gate_verdict = .fail then
          service.conclude call (decision.ending .blocked) s
        else if decision.destination.kind = .review_queue then
          service.conclude call (decision.ending .queued) s
        else if call.options.dry_run then
          service.conclude call (decision.ending .dry_run) s
        else
          -- a failed move is stored as blocked
          let outcome := if call.move_fails.isSome then .blocked else .moved
          service.conclude call (decision.ending outcome)
            { s with log := s.log ++
              [.move call.document.id (decision.destination.folder.getD "review_queue") acl] }
      (.ok result, s')

end RoutingService

end CaseAutomation.Routing
