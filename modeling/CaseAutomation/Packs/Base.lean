import CaseAutomation.Deadline.Rules
import CaseAutomation.Intake.Types
import CaseAutomation.Obs.Scrubbing

/-! # Domain Packs

    `DomainPack` and `validate_pack` of `packs/base.py`, and the rule store that `packs/apply.py`
    seeds from a pack. A compiled pattern is its text; the fields of a pack that neither
    reads are left out.
-/

namespace CaseAutomation.Packs

open Framework Deadline Intake

/-- The bundle of everything practice-specific. -/
structure DomainPack where
  name : String
  version : String
  case_types : Dict String CaseTypeConfig
  default_case_type : String
  deadline_rules : List DeadlineRule
  document_classes : List String
  packet_kinds : List String
  consistency_identifiers : List String
  /-- `restriction.default_restricted`. -/
  default_restricted : Bool
  rbac_roles : Dict String (List String)
  pii_patterns : List String
  template_ids : List String

/-- `PackValidationError`. -/
def pack_validation_error (message : String) : Exn := .other "PackValidationError" message

/-- The texts of the engine's patterns. -/
def ENGINE_PII_BASELINE : List String :=
  (Obs.ENGINE_PII_BASELINE .ascii).map Obs.PiiRule.source

/-- `active_pii_patterns` of a given pack. -/
def active_pii_patterns (pack : DomainPack) : List String :=
  ENGINE_PII_BASELINE ++ pack.pii_patterns

/-- `_ENGINE_REQUIRED_ROLES`. -/
def ENGINE_REQUIRED_ROLES : List String := ["agent_service"]

/-- One check: on success the next one follows. -/
def check (failed : Bool) (message : String) : Except Exn Unit :=
  if failed then .error (pack_validation_error message) else .ok ()

/-- The references of one case type. -/
def check_case_type (pack : DomainPack) (ct_name : String) (ct : CaseTypeConfig) :
    Except Exn Unit := do
  check (decide (ct.welcome_template_id ∉ pack.template_ids))
    ("pack " ++ repr_str pack.name ++ ": case type " ++ repr_str ct_name ++
      " references unknown welcome template " ++ repr_str ct.welcome_template_id)
  ct.deadline_rule_ids.forM fun rid =>
    check (decide (rid ∉ pack.deadline_rules.map DeadlineRule.rule_id))
      ("pack " ++ repr_str pack.name ++ ": case type " ++ repr_str ct_name ++
        " references unknown deadline rule " ++ repr_str rid)

/-- `validate_pack`. -/
def validate_pack (pack : DomainPack) : Except Exn Unit := do
  check (decide (pack.name = "" ∨ pack.version = "")) "pack is missing a name or version"
  check pack.case_types.keys.isEmpty ("pack " ++ repr_str pack.name ++ ": case_types is empty")
  check (pack.case_types.get? pack.default_case_type).isNone
    ("pack " ++ repr_str pack.name ++ ": default_case_type " ++ repr_str pack.default_case_type ++
      " is not a defined case type")
  check pack.document_classes.isEmpty
    ("pack " ++ repr_str pack.name ++ ": document_classes is empty")
  check pack.packet_kinds.isEmpty ("pack " ++ repr_str pack.name ++ ": packet_kinds is empty")
  check pack.consistency_identifiers.isEmpty
    ("pack " ++ repr_str pack.name ++ ": consistency_identifiers is empty")
  check (!pack.default_restricted)
    ("pack " ++ repr_str pack.name ++ ": restriction.default_restricted must be True " ++
      "(a pack may tighten the confidentiality gate, never weaken it)")
  let missing := ENGINE_PII_BASELINE.filter fun p => decide (p ∉ active_pii_patterns pack)
  check (!missing.isEmpty)
    ("pack " ++ repr_str pack.name ++ ": PII baseline floor not preserved " ++
      "(" ++ toString missing.length ++ " baseline pattern(s) missing)")
  pack.case_types.entries.forM fun entry => check_case_type pack entry.1 entry.2
  let missing_roles := ENGINE_REQUIRED_ROLES.filter fun role => (pack.rbac_roles.get? role).isNone
  check (!missing_roles.isEmpty)
    ("pack " ++ repr_str pack.name ++ ": missing engine-required RBAC role(s): " ++
      repr_strs missing_roles)

/-- `build_rule_store_from_pack`. -/
def build_rule_store_from_pack (content_hash : DeadlineRule → String) (pack : DomainPack) :
    RuleStore :=
  pack.deadline_rules.foldl (RuleStore.register_rule content_hash) (∅ : RuleStore)

end CaseAutomation.Packs
