import CaseAutomation.DocumentGen.Generate
import CaseAutomation.Qc.Reports
import CaseAutomation.StatusUpdate.Draft

/-! # What the Callers of QC Certify

    `_run_qc` of `document_gen/tools.py` and `run_recipient_integrity_qc` of
    `status_update/qc.py`, down to the checks they ask for.

    * `document_status`: a generated document is blocked only over the fields of its matter; every
      variable that QC misses is a gap already.
    * `recipient_gate`: what the gate before a status update lets through.

    Until `register_all` has run, both let everything through.
-/

namespace CaseAutomation.Qc

open Framework Domain
open Deadline (DateTime)
open DocumentGen (Platform TemplateSpec TemplateVariable Ctx Gap detect_gaps gap_reason
  determine_status)

/-! ## The registry over the life of the process -/

/-- The registries that calls of `register_all` build. -/
inductive Registered (fmt : TextFormat) (restriction : Option (RestrictionPolicy PacketRest)) :
    PacketRegistry → Prop where
  | boot : Registered fmt restriction Registry.empty
  | call {registry : PacketRegistry} (clear : Bool) : Registered fmt restriction registry →
      Registered fmt restriction (register_all fmt restriction clear registry)

/-- The seven checks are registered, and nothing else is. -/
def Filed (fmt : TextFormat) (restriction : Option (RestrictionPolicy PacketRest))
    (registry : PacketRegistry) : Prop :=
  ∀ check, check ∈ registry.checks.values ↔ check ∈ ALL_CHECKS fmt restriction

section registered
variable {fmt : TextFormat} {restriction : Option (RestrictionPolicy PacketRest)}
  {registry : PacketRegistry}

/-- Registering the seven again changes nothing. -/
theorem register_all_again (h : ∀ id, registry.checks.get? id = none ∨
      registry.checks.get? id = (ALL_CHECKS fmt restriction).find? fun c => decide (c.id = id))
    (clear : Bool) (id : String) :
    (register_all fmt restriction clear registry).checks.get? id =
      (ALL_CHECKS fmt restriction).find? fun c => decide (c.id = id) := by
  unfold register_all
  rw [register_each_get?]
  cases clear with
  | true => rfl
  | false =>
    show (registry.checks.get? id).or _ = _
    rcases h id with hnone | hsame
    · rw [hnone, Option.none_or]
    · rw [hsame, Option.or_self]

theorem Registered.get? (h : Registered fmt restriction registry) :
    registry = Registry.empty ∨ ∀ id, registry.checks.get? id =
      (ALL_CHECKS fmt restriction).find? fun c => decide (c.id = id) := by
  induction h with
  | boot => exact .inl rfl
  | call clear _ ih =>
    refine .inr (register_all_again ?_ clear)
    intro id
    rcases ih with rfl | hfiled
    · exact .inl rfl
    · exact .inr (hfiled id)

/-- Nothing is registered, or exactly the seven. -/
theorem Registered.filed (h : Registered fmt restriction registry) :
    registry = Registry.empty ∨ Filed fmt restriction registry := by
  rcases h.get? with hempty | hget
  · exact .inl hempty
  · refine .inr fun check => ?_
    have hscratch : ∀ id, (register_all fmt restriction true Registry.empty).checks.get? id =
        (ALL_CHECKS fmt restriction).find? fun c => decide (c.id = id) :=
      register_all_again (fun _ => .inl rfl) true
    rw [← @mem_register_all fmt restriction Registry.empty, Dict.mem_values_iff,
      Dict.mem_values_iff]
    simp only [hget, hscratch]

theorem empty_selection {packet : Packet} {requested_ids : Option (List String)}
    {check : PacketCheck} :
    check ∉ (selection Registry.empty packet requested_ids).1 := by
  rw [mem_selection]
  rintro ⟨hmem, -, -⟩
  cases hmem

/-- Without registered checks every packet passes. -/
theorem empty_registry_passes (packet : Packet) (requested_ids : Option (List String))
    (cfg : QCConfig QCSettings) :
    (run_checks Registry.empty packet requested_ids cfg).aggregate = .PASS := by
  rw [report_pass_iff]
  constructor
  · rintro ⟨check, hcheck, -⟩
    exact empty_selection hcheck
  · rintro ⟨check, hcheck, -⟩
    exact empty_selection hcheck

/-- Of the seven, those that are asked for and apply. -/
theorem filed_selection {packet : Packet} {ids : List String} {check : PacketCheck}
    (h : Filed fmt restriction registry) :
    check ∈ (selection registry packet (some ids)).1 ↔ check ∈ ALL_CHECKS fmt restriction ∧
      check.applies packet.kind.value = true ∧ check.id ∈ ids := by
  rw [mem_selection, h]
  simp

end registered

/-! ## Document generation -/

section document
variable {fmt : TextFormat} {restriction : Option (RestrictionPolicy PacketRest)}
  {registry : PacketRegistry}

/-- The binding of a rendered template. -/
def template_binding (spec : TemplateSpec) (context : Ctx) : TemplateBinding where
  template_name := spec.name
  required_vars := (spec.vars.filter fun v => v.required).map TemplateVariable.name
  resolved_vars := spec.vars.foldl
    (fun resolved v => resolved.set v.name ((context.lookup v.name).getD none)) ∅

/-- The packet of `_run_qc`. -/
def document_packet (spec : TemplateSpec) (matter : Matter) (context : Ctx) (run_id : String)
    (now : DateTime) : Packet where
  packet_id := "qc-docgen-" ++ run_id
  run_id := some run_id
  kind := .DOCUMENT_GENERATE
  content :=
    { matter := matter, documents := [], intended_recipients := [], external_bound := false
      rest :=
        { communications := [], deadlines := [], extracted_fields := []
          template_bindings := [template_binding spec context], attachment_refs := [], now := now } }

/-- The aggregate, as document generation reads it. -/
def doc_aggregate : Aggregate → DocumentGen.Aggregate
  | .PASS => .pass
  | .PASS_WITH_WARNINGS => .pass_with_warnings
  | .BLOCK => .block

/-- `_run_qc`, where `tool_qc_verify` raises nothing. -/
def run_qc (registry : PacketRegistry) (spec : TemplateSpec) (matter : Matter) (context : Ctx)
    (run_id : String) (now : DateTime) : DocumentGen.Verdict :=
  DocumentGen.verdict (some (doc_aggregate (run_checks registry
    (document_packet spec matter context run_id now) (some ["completeness", "consistency"])
    default_config).aggregate))

theorem template_binding_get? {spec : TemplateSpec} {context : Ctx} {v : TemplateVariable}
    (hv : v ∈ spec.vars) :
    (template_binding spec context).resolved_vars.get? v.name =
      some ((context.lookup v.name).getD none) := by
  unfold template_binding
  dsimp only
  rw [Dict.get?_foldl_set]
  cases hlast : spec.vars.reverse.find? fun x => decide (x.name = v.name) with
  | none =>
    have hne := List.find?_eq_none.mp hlast v (List.mem_reverse.mpr hv)
    simp at hne
  | some x =>
    have hname : x.name = v.name := by simpa using List.find?_some hlast
    simp [hname]

/-- What the completeness check misses is a gap. -/
theorem gap_of_unresolved (platform : Platform) {spec : TemplateSpec} {context : Ctx}
    (hgaps : detect_gaps platform spec context = []) {v : TemplateVariable} (hv : v ∈ spec.vars)
    (hrequired : v.required = true) :
    ∃ value, (context.lookup v.name).getD none = some value ∧ strip value ≠ "" := by
  have hnone := List.filterMap_eq_nil_iff.mp hgaps v hv
  rw [if_pos hrequired, Option.map_eq_none_iff] at hnone
  cases hvalue : (context.lookup v.name).getD none with
  | none =>
    rw [hvalue] at hnone
    cases hnone
  | some value =>
    refine ⟨value, rfl, ?_⟩
    intro hblank
    rw [hvalue, gap_reason, if_pos hblank] at hnone
    cases hnone

theorem document_blocks_iff (h : Filed fmt restriction registry) (spec : TemplateSpec)
    (matter : Matter) (context : Ctx) (run_id : String) (now : DateTime) :
    (run_checks registry (document_packet spec matter context run_id now)
      (some ["completeness", "consistency"]) default_config).aggregate = .BLOCK ↔
      CompletenessDefect (document_packet spec matter context run_id now).content := by
  rw [report_block_iff]
  constructor
  · rintro ⟨check, hselected, hblocks⟩
    obtain ⟨hmem, -, hid⟩ := (filed_selection h).mp hselected
    simp only [ALL_CHECKS, List.mem_cons, List.not_mem_nil, or_false] at hmem
    rcases hmem with rfl | rfl | rfl | rfl | rfl | rfl | rfl
    · simp [AttachmentIntegrityCheck, returning] at hid
    · exact completeness_fail.mp ((returning_blocks _ _ _ _).mp hblocks)
    · simp [ExtractionConfidenceCheck, returning] at hid
    · -- nothing in the packet can be inconsistent
      have hdefect := consistency_fail.mp ((returning_blocks _ _ _ _).mp hblocks)
      cases hdefect with
      | foreign d hd _ => cases hd
      | name p hrenamed _ =>
        obtain ⟨-, ⟨comm, hcomm, -⟩, -⟩ := hrenamed
        cases hcomm
    · simp [DeadlineSanityCheck] at hid
    · simp [PrivilegeCheck] at hid
    · simp [RecipientIntegrityCheck, returning] at hid
  · intro hdefect
    refine ⟨CompletenessCheck, (filed_selection h).mpr ⟨by simp [ALL_CHECKS], rfl, ?_⟩,
      (returning_blocks _ _ _ _).mpr (completeness_fail.mpr hdefect)⟩
    simp [CompletenessCheck, returning]

theorem document_never_warns (h : Filed fmt restriction registry) (spec : TemplateSpec)
    (matter : Matter) (context : Ctx) (run_id : String) (now : DateTime) :
    (run_checks registry (document_packet spec matter context run_id now)
      (some ["completeness", "consistency"]) default_config).aggregate ≠ .PASS_WITH_WARNINGS := by
  rw [ne_eq, report_warn_iff]
  rintro ⟨hfree, check, hselected, hwarns⟩
  obtain ⟨hmem, -, hid⟩ := (filed_selection h).mp hselected
  simp only [ALL_CHECKS, List.mem_cons, List.not_mem_nil, or_false] at hmem
  rcases hmem with rfl | rfl | rfl | rfl | rfl | rfl | rfl
  · simp [AttachmentIntegrityCheck, returning] at hid
  · exact completeness_never_warns ((returning_warns _ _ _ _).mp hwarns)
  · simp [ExtractionConfidenceCheck, returning] at hid
  · have hnone : ¬ ConsistencyDefect fmt (document_packet spec matter context run_id now).content :=
      fun hdefect => hfree ⟨_, hselected,
        (returning_blocks _ _ _ _).mpr (consistency_fail.mpr hdefect)⟩
    obtain ⟨p, ⟨-, ⟨comm, hcomm, -⟩, -⟩, -⟩ :=
      (consistency_warn hnone).mp ((returning_warns _ _ _ _).mp hwarns)
    cases hcomm
  · simp [DeadlineSanityCheck] at hid
  · simp [PrivilegeCheck] at hid
  · simp [RecipientIntegrityCheck, returning] at hid

/-- **Status of a document.** Where the checks are registered, a new document is ready if it
    has no gaps and the fields of its matter are filled in, and blocked if only the fields are
    missing: the required variables decide nothing that the gaps have not decided. Where they
    are not, QC passes whatever it is shown. -/
theorem document_status (h : Registered fmt restriction registry) (platform : Platform)
    (spec : TemplateSpec) (matter : Matter) (context : Ctx) (run_id : String) (now : DateTime) :
    let gaps := detect_gaps platform spec context
    let qc_verdict := run_qc registry spec matter context run_id now
    (registry = Registry.empty ∧ qc_verdict = .pass) ∨
    ((determine_status gaps qc_verdict = .ready ↔ gaps = [] ∧ missing_fields matter = []) ∧
     (determine_status gaps qc_verdict = .blocked ↔ gaps = [] ∧ missing_fields matter ≠ []) ∧
     (determine_status gaps qc_verdict = .incomplete ↔ gaps ≠ [])) := by
  intro gaps qc_verdict
  rcases h.filed with rfl | hfiled
  · left
    refine ⟨rfl, ?_⟩
    show DocumentGen.verdict (some (doc_aggregate (run_checks Registry.empty _ _ _).aggregate)) = _
    rw [empty_registry_passes]
    rfl
  right
  have hblock := document_blocks_iff hfiled spec matter context run_id now
  have hwarn := document_never_warns hfiled spec matter context run_id now
  -- the verdict is one of two
  have hverdict : qc_verdict = if (run_checks registry
      (document_packet spec matter context run_id now) (some ["completeness", "consistency"])
      default_config).aggregate = .BLOCK then .fail else .pass := by
    show DocumentGen.verdict (some (doc_aggregate (run_checks registry _ _ _).aggregate)) = _
    cases hreport : (run_checks registry (document_packet spec matter context run_id now)
      (some ["completeness", "consistency"]) default_config).aggregate with
    | PASS => rfl
    | BLOCK => rfl
    | PASS_WITH_WARNINGS => exact absurd hreport hwarn
  by_cases hgaps : gaps = []
  · have hdefect : CompletenessDefect (document_packet spec matter context run_id now).content ↔
        missing_fields matter ≠ [] := by
      constructor
      · rintro (⟨binding, var, hbinding, hvar, hblank⟩ | ⟨-, hfields⟩)
        · obtain rfl := List.mem_singleton.mp hbinding
          obtain ⟨v, hv, rfl⟩ := List.mem_map.mp hvar
          obtain ⟨hmem, hrequired⟩ := List.mem_filter.mp hv
          obtain ⟨value, hvalue, hfilled⟩ := gap_of_unresolved platform hgaps hmem hrequired
          refine absurd (hblank value ?_) hfilled
          rw [template_binding_get? hmem, hvalue]
        · exact hfields
      · exact fun hfields => .matter (List.cons_ne_nil _ _) hfields
    rw [hverdict]
    unfold determine_status
    rw [if_neg (not_not.mpr hgaps)]
    by_cases hfields : missing_fields matter = []
    · have hpass : ¬ (run_checks registry (document_packet spec matter context run_id now)
          (some ["completeness", "consistency"]) default_config).aggregate = .BLOCK := by
        rw [hblock, hdefect]
        exact not_not.mpr hfields
      rw [if_neg hpass]
      simp [hgaps, hfields]
    · rw [if_pos (hblock.mpr (hdefect.mpr hfields))]
      simp [hgaps, hfields]
  · unfold determine_status
    rw [if_pos hgaps]
    simp [hgaps]

end document

/-! ## Status updates -/

section status_update
variable {fmt : TextFormat} {restriction : Option (RestrictionPolicy PacketRest)}
  {registry : PacketRegistry}

/-- The packet of `run_recipient_integrity_qc`. -/
def recipient_packet (matter : Matter) (recipients : List Contact) (run_id : String)
    (now : DateTime) : Packet where
  packet_id := "qc-" ++ run_id
  run_id := some run_id
  kind := .EMAIL_SEND
  content :=
    { matter := matter, documents := [], intended_recipients := recipients, external_bound := true
      rest :=
        { communications := [], deadlines := [], extracted_fields := [], template_bindings := []
          attachment_refs := [], now := now } }

/-- `run_recipient_integrity_qc`, where `tool_qc_verify` raises nothing. -/
def recipient_result (registry : PacketRegistry) (matter : Matter) (recipients : List Contact)
    (run_id : String) (now : DateTime) : String :=
  StatusUpdate.qc_result (run_checks registry (recipient_packet matter recipients run_id now)
    (some ["recipient_integrity"]) default_config).aggregate

theorem qc_result_injective : Function.Injective StatusUpdate.qc_result := by
  intro a b h
  cases a <;> cases b <;> first | rfl | (exfalso; revert h; decide)

/-- Only the recipient check is run. -/
theorem recipient_selection (h : Filed fmt restriction registry) {packet : Packet}
    (hkind : packet.kind = .EMAIL_SEND) {check : PacketCheck} :
    check ∈ (selection registry packet (some ["recipient_integrity"])).1 ↔
      check = RecipientIntegrityCheck := by
  rw [filed_selection h, List.mem_singleton]
  constructor
  · rintro ⟨hmem, -, hid⟩
    simp only [ALL_CHECKS, List.mem_cons, List.not_mem_nil, or_false] at hmem
    rcases hmem with rfl | rfl | rfl | rfl | rfl | rfl | rfl
    · simp [AttachmentIntegrityCheck, returning] at hid
    · simp [CompletenessCheck, returning] at hid
    · simp [ExtractionConfidenceCheck, returning] at hid
    · simp [ConsistencyCheck, returning] at hid
    · simp [DeadlineSanityCheck] at hid
    · simp [PrivilegeCheck] at hid
    · rfl
  · rintro rfl
    refine ⟨by simp [ALL_CHECKS], ?_, rfl⟩
    rw [recipient_applies]
    exact .inl hkind

/-- **The recipient gate.** Where the checks are registered, a status update fails the gate
    if it is for nobody or for somebody besides the client, and is annotated if the client
    has an unexpected role; where they are not, the gate is open. -/
theorem recipient_gate (h : Registered fmt restriction registry) (matter : Matter)
    (recipients : List Contact) (run_id : String) (now : DateTime) :
    let result := recipient_result registry matter recipients run_id now
    let astray := recipients = [] ∨ ∃ r ∈ recipients, r.id ≠ matter.client.id
    let odd := ∃ r ∈ recipients, unexpected_role r = true
    (registry = Registry.empty ∧ result = "pass") ∨
    ((result = "fail" ↔ astray) ∧ (result = "warn" ↔ ¬ astray ∧ odd) ∧
      (result = "pass" ↔ ¬ astray ∧ ¬ odd)) := by
  intro result astray odd
  rcases h.filed with rfl | hfiled
  · left
    refine ⟨rfl, ?_⟩
    show StatusUpdate.qc_result (run_checks Registry.empty _ _ _).aggregate = _
    rw [empty_registry_passes]
    rfl
  right
  have honly : ∀ check, check ∈ (selection registry
      (recipient_packet matter recipients run_id now) (some ["recipient_integrity"])).1 ↔
        check = RecipientIntegrityCheck := fun _ => recipient_selection hfiled rfl
  have hfail : (RecipientIntegrityCheck.run
      (recipient_packet matter recipients run_id now)).verdict = .FAIL ↔ astray := recipient_fail
  have hblocks : (∃ check ∈ (selection registry (recipient_packet matter recipients run_id now)
      (some ["recipient_integrity"])).1, Blocks check
        (check.run (recipient_packet matter recipients run_id now) default_config)) ↔ astray := by
    simp only [honly, exists_eq_left]
    rw [← hfail]
    exact returning_blocks _ _ _ _
  have hwarns : ¬ astray → ((∃ check ∈ (selection registry
      (recipient_packet matter recipients run_id now) (some ["recipient_integrity"])).1,
      Warns check (check.run (recipient_packet matter recipients run_id now) default_config)) ↔
        odd) := by
    intro hnone
    simp only [honly, exists_eq_left]
    rw [← hfail] at hnone
    exact (returning_warns _ _ _ _).trans (recipient_warn hnone)
  -- the result names the aggregate
  have hnames : ∀ a, result = StatusUpdate.qc_result a ↔ (run_checks registry
      (recipient_packet matter recipients run_id now) (some ["recipient_integrity"])
      default_config).aggregate = a := fun a => qc_result_injective.eq_iff
  refine ⟨?_, ?_, ?_⟩
  · rw [← hblocks, ← report_block_iff]
    exact hnames .BLOCK
  · have hwarn := hnames .PASS_WITH_WARNINGS
    rw [report_warn_iff, hblocks] at hwarn
    exact hwarn.trans (and_congr_right hwarns)
  · have hpass := hnames .PASS
    rw [report_pass_iff, hblocks] at hpass
    exact hpass.trans (and_congr_right fun hnone => not_congr (hwarns hnone))

end status_update

/-! ## After the registration at start-up -/

section started

/-- The registry of a process that has registered the checks once. -/
def started : PacketRegistry := register_all ascii_format none false Registry.empty

theorem started_registered : Registered ascii_format none started := .call false .boot

/-- A letter with one required variable. -/
def letter_spec : TemplateSpec where
  name := "letter"
  version := 1
  target_form_id := none
  privileged_default := true
  vars := [⟨"ref", "Reference", true, .string, none⟩]

def untitled_matter : Matter :=
  ⟨"m-1", "case", "REF-001", "", "open", none, sample_client, none, 0, [], ∅⟩

/-- The letter has no gaps, and QC says no more than that its matter has no title. -/
theorem untitled_letter_status :
    let qc_verdict := run_qc started letter_spec untitled_matter [("ref", some "A-1")] "run-1"
      ⟨719163, 0, some 0⟩
    let gaps := detect_gaps DocumentGen.plain_platform letter_spec [("ref", some "A-1")]
    (started = Registry.empty ∧ qc_verdict = .pass) ∨
    ((determine_status gaps qc_verdict = .ready ↔
        gaps = [] ∧ missing_fields untitled_matter = []) ∧
     (determine_status gaps qc_verdict = .blocked ↔
        gaps = [] ∧ missing_fields untitled_matter ≠ []) ∧
     (determine_status gaps qc_verdict = .incomplete ↔ gaps ≠ [])) :=
  document_status started_registered _ _ _ _ _ _

/-- A status update for the client alone passes the gate. -/
theorem client_passes_gate :
    recipient_result started untitled_matter [sample_client] "run-1" ⟨719163, 0, some 0⟩ =
      "pass" := by
  have hgate := recipient_gate started_registered untitled_matter [sample_client] "run-1"
    ⟨719163, 0, some 0⟩
  rcases hgate with ⟨-, hpass⟩ | ⟨-, -, hpass⟩
  · exact hpass
  · refine hpass.mpr ⟨?_, ?_⟩
    · simp [untitled_matter, sample_client]
    · simp [unexpected_role, sample_client]

end started

end CaseAutomation.Qc
