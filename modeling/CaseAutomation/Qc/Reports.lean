import CaseAutomation.Qc.Checks

/-! # What a Full Report Means

    `Defect` and `Concern` say what the seven checks of `qc/checks` look for, without saying
    how. With all of them registered, a report blocks exactly the packets with a defect
    and warns exactly about the others with a concern (`full_report`); what is added to a
    packet never lifts a block (`block_survives`).
-/

namespace CaseAutomation.Qc

open Framework Domain
open Deadline (DateTime)

/-! ## Defects -/

/-- The document that a name refers to: the last one with that name. -/
def NamedBy (documents : List Document) (name : String) (doc : Document) : Prop :=
  ∃ before after, documents = before ++ doc :: after ∧ doc.name = name ∧
    ∀ d ∈ after, d.name ≠ name

inductive AttachmentDefect (content : PacketContent PacketRest) : Prop where
  | missing (ref : AttachmentRef) : ref ∈ content.rest.attachment_refs →
      (∀ d ∈ content.documents, d.name ≠ ref.referenced_name) → AttachmentDefect content
  | altered (ref : AttachmentRef) (doc : Document) (expected : String) :
      ref ∈ content.rest.attachment_refs → NamedBy content.documents ref.referenced_name doc →
      ref.expected_checksum = some expected → expected ≠ "" → doc.checksum ≠ expected →
      AttachmentDefect content
  | outdated (ref : AttachmentRef) (doc : Document) (expected : Int) :
      ref ∈ content.rest.attachment_refs → NamedBy content.documents ref.referenced_name doc →
      ref.expected_version = some expected → doc.version < expected → AttachmentDefect content

inductive CompletenessDefect (content : PacketContent PacketRest) : Prop where
  | unresolved (binding : TemplateBinding) (var : String) :
      binding ∈ content.rest.template_bindings → var ∈ binding.required_vars →
      (∀ value, binding.resolved_vars.get? var = some (some value) → strip value = "") →
      CompletenessDefect content
  | matter : content.rest.template_bindings ≠ [] → missing_fields content.matter ≠ [] →
      CompletenessDefect content

/-- A field below the floor. -/
def ConfidenceDefect (cfg : QCSettings) (content : PacketContent PacketRest) : Prop :=
  ∃ f ∈ content.rest.extracted_fields, f.confidence.value < cfg.extraction_fail_floor.value

/-- The client takes part in a communication under another name. -/
def Renamed (content : PacketContent PacketRest) (p : Contact) : Prop :=
  content.matter.client.name ≠ "" ∧ (∃ comm ∈ content.rest.communications, p ∈ comm.participants) ∧
    p.id = content.matter.client.id ∧ p.name ≠ content.matter.client.name

inductive ConsistencyDefect (fmt : TextFormat) (content : PacketContent PacketRest) : Prop where
  | foreign (d : Document) : d ∈ content.documents → d.matter_id ≠ content.matter.id →
      ConsistencyDefect fmt content
  | name (p : Contact) : Renamed content p →
      normalise fmt p.name ≠ normalise fmt content.matter.client.name →
      ConsistencyDefect fmt content

inductive DeadlineDefect (cfg : QCSettings) (rest : PacketRest) : Prop where
  | past_due (dl : PacketDeadline) : dl ∈ rest.deadlines → dl.due_at.lt rest.now = .ok true →
      DeadlineDefect cfg rest
  | too_far (dl : PacketDeadline) (horizon : DateTime) : dl ∈ rest.deadlines →
      shift_days rest.now cfg.deadline_horizon_days = .ok horizon →
      horizon.lt dl.due_at = .ok true → DeadlineDefect cfg rest
  /-- It cannot be compared with the time of the packet. -/
  | unorderable (dl : PacketDeadline) : dl ∈ rest.deadlines →
      dl.due_at.utcoffset.isSome ≠ rest.now.utcoffset.isSome → DeadlineDefect cfg rest
  /-- The horizon or the window leaves the calendar. -/
  | out_of_calendar (days : Int) : rest.deadlines ≠ [] →
      days = cfg.deadline_horizon_days ∨ days = cfg.deadline_tight_window_days →
      (∀ t, shift_days rest.now days ≠ .ok t) → DeadlineDefect cfg rest

/-- A restricted document leaves the house, or the pack objects to it or does not answer. -/
def PrivilegeDefect (restriction : Option (RestrictionPolicy PacketRest)) (packet : Packet) : Prop :=
  Restricted packet.content ∧
    (LeavesHouse packet.content ∨ extra_block restriction packet ≠ .ok false)

/-- The packet is sent to somebody. -/
def PacketKind.Sends (kind : PacketKind) : Prop := kind = .EMAIL_SEND ∨ kind = .DOCUMENT_ROUTE

/-- Nobody is to receive what is sent, or somebody else than the client is. -/
def RecipientDefect (packet : Packet) : Prop :=
  packet.kind.Sends ∧ (packet.content.intended_recipients = [] ∨
    ∃ r ∈ packet.content.intended_recipients, r.id ≠ packet.content.matter.client.id)

/-- What must not leave the firm. -/
inductive Defect (fmt : TextFormat) (restriction : Option (RestrictionPolicy PacketRest))
    (cfg : QCSettings) (packet : Packet) : Prop where
  | attachment : AttachmentDefect packet.content → Defect fmt restriction cfg packet
  | completeness : CompletenessDefect packet.content → Defect fmt restriction cfg packet
  | confidence : ConfidenceDefect cfg packet.content → Defect fmt restriction cfg packet
  | consistency : ConsistencyDefect fmt packet.content → Defect fmt restriction cfg packet
  | deadline : DeadlineDefect cfg packet.content.rest → Defect fmt restriction cfg packet
  | privilege : PrivilegeDefect restriction packet → Defect fmt restriction cfg packet
  | recipient : RecipientDefect packet → Defect fmt restriction cfg packet

/-! ## Concerns -/

/-- An attachment is newer than the reference to it. -/
def AttachmentConcern (content : PacketContent PacketRest) : Prop :=
  ∃ ref ∈ content.rest.attachment_refs, ∃ doc expected,
    NamedBy content.documents ref.referenced_name doc ∧ ref.expected_version = some expected ∧
      expected < doc.version

/-- A field below the threshold, and not below the floor. -/
def ConfidenceConcern (cfg : QCSettings) (content : PacketContent PacketRest) : Prop :=
  ∃ f ∈ content.rest.extracted_fields,
    ¬ f.confidence.value < cfg.extraction_fail_floor.value ∧
      f.confidence.value < cfg.extraction_warn_threshold.value

/-- A name that differs in case and spacing only. -/
def ConsistencyConcern (fmt : TextFormat) (content : PacketContent PacketRest) : Prop :=
  ∃ p, Renamed content p ∧ normalise fmt p.name = normalise fmt content.matter.client.name

/-- A deadline within the window. -/
def DeadlineConcern (cfg : QCSettings) (rest : PacketRest) : Prop :=
  ∃ dl ∈ rest.deadlines, ∃ tight_window,
    shift_days rest.now cfg.deadline_tight_window_days = .ok tight_window ∧
      tight_window.lt dl.due_at = .ok false

/-- The client is to receive something in an unexpected role. -/
def RecipientConcern (packet : Packet) : Prop :=
  packet.kind.Sends ∧ ∃ r ∈ packet.content.intended_recipients, unexpected_role r = true

/-- What somebody should look at. -/
inductive Concern (fmt : TextFormat) (cfg : QCSettings) (packet : Packet) : Prop where
  | attachment : AttachmentConcern packet.content → Concern fmt cfg packet
  | confidence : ConfidenceConcern cfg packet.content → Concern fmt cfg packet
  | consistency : ConsistencyConcern fmt packet.content → Concern fmt cfg packet
  | deadline : DeadlineConcern cfg packet.content.rest → Concern fmt cfg packet
  | recipient : RecipientConcern packet → Concern fmt cfg packet

/-! ## What each check decides -/

section checks
variable {fmt : TextFormat} {restriction : Option (RestrictionPolicy PacketRest)}
  {cfg : QCSettings} {packet : Packet}

theorem findings_append {xs ys : List String} : xs ++ ys ≠ [] ↔ xs ≠ [] ∨ ys ≠ [] := by
  rw [ne_eq, List.append_eq_nil_iff, not_and_or]

/-- The map of the documents holds, for each name, the last document with that name. -/
theorem get?_doc_by_name {documents : List Document} {name : String} {doc : Document} :
    (doc_by_name documents).get? name = some doc ↔ NamedBy documents name doc := by
  have hlast : (doc_by_name documents).get? name =
      documents.reverse.find? fun d => decide (d.name = name) := by
    unfold doc_by_name
    rw [Dict.get?_foldl_set]
    cases documents.reverse.find? fun d => decide (d.name = name) with
    | none => rfl
    | some d => rfl
  rw [hlast, List.find?_eq_some_iff_append]
  constructor
  · rintro ⟨hname, after, before, hsplit, hafter⟩
    refine ⟨before.reverse, after.reverse, ?_, by simpa using hname, ?_⟩
    · have hrev := congrArg List.reverse hsplit
      simpa using hrev
    · intro d hd
      simpa using hafter d (List.mem_reverse.mp hd)
  · rintro ⟨before, after, hsplit, hname, hafter⟩
    refine ⟨by simpa using hname, after.reverse, before.reverse, ?_, ?_⟩
    · rw [hsplit]
      simp
    · intro d hd
      simpa using hafter d (List.mem_reverse.mp hd)

theorem doc_by_name_none {documents : List Document} {name : String} :
    (doc_by_name documents).get? name = none ↔ ∀ d ∈ documents, d.name ≠ name := by
  unfold doc_by_name
  rw [Dict.get?_foldl_set]
  cases hlast : documents.reverse.find? fun d => decide (d.name = name) with
  | none =>
    have hnone : ∀ d ∈ documents, d.name ≠ name := by
      intro d hd
      simpa using List.find?_eq_none.mp hlast d (List.mem_reverse.mpr hd)
    simpa using hnone
  | some doc =>
    have hname : doc.name = name := by simpa using List.find?_some hlast
    have hmem : doc ∈ documents := List.mem_reverse.mp (List.mem_of_find?_eq_some hlast)
    simp only [Option.map_some, Option.some_or, reduceCtorEq, false_iff]
    intro hnone
    exact hnone doc hmem hname

/-! ### Attachments -/

theorem checksum_differs_iff {ref : AttachmentRef} {doc : Document} :
    checksum_differs ref doc = true ↔
      ∃ expected, ref.expected_checksum = some expected ∧ expected ≠ "" ∧ doc.checksum ≠ expected := by
  unfold checksum_differs
  cases ref.expected_checksum with
  | none => simp
  | some expected => simp

theorem attachment_failures_ne_nil {documents : List Document} {ref : AttachmentRef} :
    attachment_failures documents ref ≠ [] ↔
      (∀ d ∈ documents, d.name ≠ ref.referenced_name) ∨
      ∃ doc, NamedBy documents ref.referenced_name doc ∧
        (checksum_differs ref doc = true ∨
          ∃ expected, ref.expected_version = some expected ∧ doc.version < expected) := by
  unfold attachment_failures
  cases hget : (doc_by_name documents).get? ref.referenced_name with
  | none => exact iff_of_true (by simp) (.inl (doc_by_name_none.mp hget))
  | some doc =>
    have hnamed := get?_doc_by_name.mp hget
    have hpresent : ¬ ∀ d ∈ documents, d.name ≠ ref.referenced_name := by
      intro hnone
      rw [doc_by_name_none.mpr hnone] at hget
      cases hget
    have honly : ∀ doc', NamedBy documents ref.referenced_name doc' ↔ doc' = doc := by
      intro doc'
      rw [← get?_doc_by_name, hget, Option.some.injEq]
      exact eq_comm
    simp only [hpresent, honly, false_or, exists_eq_left, ne_eq, List.append_eq_nil_iff, not_and_or]
    apply or_congr
    · by_cases hdiffers : checksum_differs ref doc = true
      · simp [hdiffers]
      · simp [hdiffers]
    · cases ref.expected_version with
      | none => simp
      | some expected =>
        by_cases hnewer : doc.version > expected
        · have hnot : ¬ doc.version < expected := by omega
          simp [hnewer, hnot]
        · by_cases hsame : doc.version = expected
          · simp [hsame]
          · have holder : doc.version < expected := by omega
            simp [hnewer, hsame, holder]

theorem attachment_fail :
    (AttachmentIntegrityCheck.run packet).verdict = .FAIL ↔ AttachmentDefect packet.content := by
  have hdefect : AttachmentDefect packet.content ↔ ∃ ref ∈ packet.content.rest.attachment_refs,
      attachment_failures packet.content.documents ref ≠ [] := by
    constructor
    · rintro (⟨ref, href, hmissing⟩ | ⟨ref, doc, expected, href, hnamed, hsome, hne, hdiffers⟩ |
        ⟨ref, doc, expected, href, hnamed, hsome, hold⟩)
      · exact ⟨ref, href, attachment_failures_ne_nil.mpr (.inl hmissing)⟩
      · exact ⟨ref, href, attachment_failures_ne_nil.mpr (.inr ⟨doc, hnamed,
          .inl (checksum_differs_iff.mpr ⟨expected, hsome, hne, hdiffers⟩)⟩)⟩
      · exact ⟨ref, href, attachment_failures_ne_nil.mpr
          (.inr ⟨doc, hnamed, .inr ⟨expected, hsome, hold⟩⟩)⟩
    · rintro ⟨ref, href, hfailures⟩
      rcases attachment_failures_ne_nil.mp hfailures with
        hmissing | ⟨doc, hnamed, hdiffers | ⟨expected, hsome, hold⟩⟩
      · exact .missing ref href hmissing
      · obtain ⟨expected, hsome, hne, hdiffers⟩ := checksum_differs_iff.mp hdiffers
        exact .altered ref doc expected href hnamed hsome hne hdiffers
      · exact .outdated ref doc expected href hnamed hsome hold
  rw [hdefect]
  unfold AttachmentIntegrityCheck.run
  by_cases hrefs : packet.content.rest.attachment_refs = []
  · simp [hrefs, field_absent, plain_result]
  · simp only [hrefs, if_false, conclude_fail, ne_eq, List.flatMap_eq_nil_iff]
    push Not
    rfl

theorem attachment_warn (hnone : ¬ AttachmentDefect packet.content) :
    (AttachmentIntegrityCheck.run packet).verdict = .WARN ↔ AttachmentConcern packet.content := by
  have hconcern : AttachmentConcern packet.content ↔ ∃ ref ∈ packet.content.rest.attachment_refs,
      attachment_warnings packet.content.documents ref ≠ [] := by
    apply exists_congr
    intro ref
    apply and_congr_right
    intro _
    unfold attachment_warnings
    simp only [← get?_doc_by_name]
    cases (doc_by_name packet.content.documents).get? ref.referenced_name with
    | none => simp
    | some doc =>
      cases ref.expected_version with
      | none => simp
      | some expected => simp
  rw [hconcern]
  rw [← attachment_fail] at hnone
  revert hnone
  unfold AttachmentIntegrityCheck.run
  by_cases hrefs : packet.content.rest.attachment_refs = []
  · simp [hrefs, field_absent, plain_result]
  · simp only [hrefs, if_false, conclude_fail, conclude_warn, not_not, ne_eq]
    intro hfree
    simp only [hfree, true_and, List.flatMap_eq_nil_iff]
    push Not
    rfl

/-! ### Completeness and confidence -/

theorem missing_vars_ne_nil {binding : TemplateBinding} :
    missing_vars binding ≠ [] ↔ ∃ var ∈ binding.required_vars,
      ∀ value, binding.resolved_vars.get? var = some (some value) → strip value = "" := by
  have hvar : ∀ var, unresolved ((binding.resolved_vars.get? var).getD none) = true ↔
      ∀ value, binding.resolved_vars.get? var = some (some value) → strip value = "" := by
    intro var
    cases binding.resolved_vars.get? var with
    | none => simp [unresolved]
    | some found =>
      cases found with
      | none => simp [unresolved]
      | some value => simp [unresolved]
  unfold missing_vars
  simp [List.filter_eq_nil_iff, hvar]

theorem completeness_fail :
    (CompletenessCheck.run packet).verdict = .FAIL ↔ CompletenessDefect packet.content := by
  unfold CompletenessCheck.run
  by_cases hbindings : packet.content.rest.template_bindings = []
  · simp only [hbindings, if_true, field_absent, plain_result, reduceCtorEq, false_iff]
    rintro (⟨binding, var, hbinding, -, -⟩ | ⟨hne, -⟩)
    · rw [hbindings] at hbinding
      cases hbinding
    · exact hne hbindings
  · simp only [hbindings, if_false, conclude_fail, findings_append]
    constructor
    · rintro (hvars | hfields)
      · rw [ne_eq, List.flatMap_eq_nil_iff] at hvars
        push Not at hvars
        obtain ⟨binding, hbinding, hmissing⟩ := hvars
        obtain ⟨var, hvar, hblank⟩ := missing_vars_ne_nil.mp hmissing
        exact .unresolved binding var hbinding hvar hblank
      · exact .matter hbindings hfields
    · rintro (⟨binding, var, hbinding, hvar, hblank⟩ | ⟨-, hfields⟩)
      · left
        rw [ne_eq, List.flatMap_eq_nil_iff]
        push Not
        exact ⟨binding, hbinding, missing_vars_ne_nil.mpr ⟨var, hvar, hblank⟩⟩
      · exact .inr hfields

theorem completeness_never_warns : (CompletenessCheck.run packet).verdict ≠ .WARN := by
  unfold CompletenessCheck.run
  by_cases hbindings : packet.content.rest.template_bindings = []
  · simp [hbindings, field_absent, plain_result]
  · simp [hbindings, conclude_warn]

theorem fields_where_ne_nil {fields : List QCExtractedField} {condition : AnyFloat → Bool} :
    fields_where fmt fields condition ≠ [] ↔ ∃ f ∈ fields, condition f.confidence = true := by
  unfold fields_where
  simp [List.filter_eq_nil_iff]

theorem confidence_fail : (ExtractionConfidenceCheck.run fmt packet cfg).verdict = .FAIL ↔
    ConfidenceDefect cfg packet.content := by
  unfold ExtractionConfidenceCheck.run ConfidenceDefect
  by_cases hfields : packet.content.rest.extracted_fields = []
  · simp [hfields, field_absent, plain_result]
  · simp only [hfields, if_false, conclude_fail, fields_where_ne_nil, decide_eq_true_eq]

theorem confidence_warn (hnone : ¬ ConfidenceDefect cfg packet.content) :
    (ExtractionConfidenceCheck.run fmt packet cfg).verdict = .WARN ↔
      ConfidenceConcern cfg packet.content := by
  rw [← @confidence_fail fmt] at hnone
  revert hnone
  unfold ExtractionConfidenceCheck.run ConfidenceConcern
  by_cases hfields : packet.content.rest.extracted_fields = []
  · simp [hfields, field_absent, plain_result]
  · simp only [hfields, if_false, conclude_fail, conclude_warn, not_not]
    intro hfree
    simp only [hfree, true_and, fields_where_ne_nil]
    simp

/-! ### Consistency and recipients -/

theorem participants_where_ne_nil {condition : Contact → Bool}
    {text : Communication → Contact → String} :
    participants_where packet condition text ≠ [] ↔
      ∃ p, Renamed packet.content p ∧ condition p = true := by
  unfold participants_where Renamed
  by_cases hname : packet.content.matter.client.name = ""
  · simp [hname]
  · simp only [hname, if_false, ne_eq, List.flatMap_eq_nil_iff, List.map_eq_nil_iff,
      List.filter_eq_nil_iff, Bool.and_eq_true, renamed, decide_eq_true_eq]
    push Not
    constructor
    · rintro ⟨comm, hcomm, p, hp, ⟨hid, hne⟩, hcondition⟩
      exact ⟨p, ⟨trivial, ⟨comm, hcomm, hp⟩, hid, hne⟩, hcondition⟩
    · rintro ⟨p, ⟨-, ⟨comm, hcomm, hp⟩, hid, hne⟩, hcondition⟩
      exact ⟨comm, hcomm, p, hp, ⟨hid, hne⟩, hcondition⟩

theorem consistency_fail : (ConsistencyCheck.run fmt packet).verdict = .FAIL ↔
    ConsistencyDefect fmt packet.content := by
  unfold ConsistencyCheck.run
  simp only [conclude_fail, findings_append, participants_where_ne_nil, Bool.not_eq_true',
    decide_eq_false_iff_not]
  constructor
  · rintro (hforeign | ⟨p, hrenamed, hdiffers⟩)
    · obtain ⟨text, htext⟩ := List.exists_mem_of_ne_nil _ hforeign
      obtain ⟨d, hd, -⟩ := List.mem_map.mp htext
      obtain ⟨hmem, hother⟩ := List.mem_filter.mp hd
      exact .foreign d hmem (by simpa using hother)
    · exact .name p hrenamed hdiffers
  · rintro (⟨d, hd, hother⟩ | ⟨p, hrenamed, hdiffers⟩)
    · left
      apply List.ne_nil_of_mem
      exact List.mem_map_of_mem (List.mem_filter.mpr ⟨hd, by simpa using hother⟩)
    · exact .inr ⟨p, hrenamed, hdiffers⟩

theorem consistency_warn (hnone : ¬ ConsistencyDefect fmt packet.content) :
    (ConsistencyCheck.run fmt packet).verdict = .WARN ↔ ConsistencyConcern fmt packet.content := by
  rw [← consistency_fail] at hnone
  revert hnone
  unfold ConsistencyCheck.run ConsistencyConcern
  simp only [conclude_fail, conclude_warn, not_not, participants_where_ne_nil, decide_eq_true_eq]
  intro hfree
  simp only [hfree, true_and]

theorem recipient_fail : (RecipientIntegrityCheck.run packet).verdict = .FAIL ↔
    (packet.content.intended_recipients = [] ∨
      ∃ r ∈ packet.content.intended_recipients, r.id ≠ packet.content.matter.client.id) := by
  unfold RecipientIntegrityCheck.run
  by_cases hnobody : packet.content.intended_recipients = []
  · simp [hnobody, plain_result]
  · simp [hnobody, conclude_fail, List.filter_eq_nil_iff]

theorem recipient_warn (hnone : (RecipientIntegrityCheck.run packet).verdict ≠ .FAIL) :
    (RecipientIntegrityCheck.run packet).verdict = .WARN ↔
      ∃ r ∈ packet.content.intended_recipients, unexpected_role r = true := by
  have hclient : ∀ r ∈ packet.content.intended_recipients,
      r.id = packet.content.matter.client.id := by
    rw [ne_eq, recipient_fail] at hnone
    push Not at hnone
    exact hnone.2
  have hsomebody : packet.content.intended_recipients ≠ [] := by
    rw [ne_eq, recipient_fail] at hnone
    push Not at hnone
    exact hnone.1
  unfold RecipientIntegrityCheck.run
  rw [if_neg hsomebody, conclude_warn]
  constructor
  · rintro ⟨-, hroles⟩
    obtain ⟨text, htext⟩ := List.exists_mem_of_ne_nil _ hroles
    obtain ⟨r, hr, -⟩ := List.mem_map.mp htext
    obtain ⟨hmem, hrole⟩ := List.mem_filter.mp hr
    exact ⟨r, hmem, (Bool.and_eq_true _ _ ▸ hrole).2⟩
  · rintro ⟨r, hmem, hrole⟩
    refine ⟨by simpa [List.filter_eq_nil_iff] using hclient, ?_⟩
    apply List.ne_nil_of_mem
    exact List.mem_map_of_mem (List.mem_filter.mpr ⟨hmem, by simp [hclient r hmem, hrole]⟩)

/-! ### Deadlines -/

/-- Two datetimes can be compared if both are aware, or both naive. -/
theorem lt_ok_iff {a b : DateTime} :
    (∃ less, a.lt b = .ok less) ↔ a.utcoffset.isSome = b.utcoffset.isSome := by
  unfold DateTime.lt
  cases a.utcoffset with
  | none =>
    cases b.utcoffset with
    | none => simp
    | some y => simp
  | some x =>
    cases b.utcoffset with
    | none => simp
    | some y => simp

theorem shift_days_utcoffset {t t' : DateTime} {n : Int} (h : shift_days t n = .ok t') :
    t'.utcoffset = t.utcoffset := by
  unfold shift_days at h
  split at h
  · unfold DateTime.add_days at h
    split at h
    · cases h
      rfl
    · cases h
  · cases h

section due
variable {now horizon tight_window due_at : DateTime} {past far late : Bool}

/-- The `if` chain, where the comparisons are known. -/
theorem classify_due_eq (hpast : due_at.lt now = .ok past) (hfar : horizon.lt due_at = .ok far)
    (hlate : tight_window.lt due_at = .ok late) :
    classify_due now horizon tight_window due_at =
      .ok (if past then .past_due else if far then .beyond_horizon else if late then .fine
        else .tight) := by
  unfold classify_due
  rw [hpast]
  cases past with
  | true => rfl
  | false =>
    show (horizon.lt due_at >>= fun far => if far = true then pure Due.beyond_horizon else
      tight_window.lt due_at >>= fun late =>
        if late = true then pure Due.fine else pure Due.tight) = _
    rw [hfar]
    cases far with
    | true => rfl
    | false =>
      show (tight_window.lt due_at >>= fun late =>
        if late = true then pure Due.fine else pure Due.tight) = _
      rw [hlate]
      cases late with
      | true => rfl
      | false => rfl

/-- A deadline is classified if it can be compared with the time of the packet. -/
theorem classify_due_ok (hhorizon : horizon.utcoffset = now.utcoffset)
    (htight : tight_window.utcoffset = now.utcoffset) :
    (∃ due, classify_due now horizon tight_window due_at = .ok due) ↔
      due_at.utcoffset.isSome = now.utcoffset.isSome := by
  constructor
  · rintro ⟨due, hdue⟩
    obtain ⟨past, hpast, -⟩ := ok_of_bind hdue
    exact lt_ok_iff.mp ⟨past, hpast⟩
  · intro hsame
    obtain ⟨past, hpast⟩ := lt_ok_iff.mpr hsame
    obtain ⟨far, hfar⟩ : ∃ far, horizon.lt due_at = .ok far := by
      rw [lt_ok_iff, hhorizon, hsame]
    obtain ⟨late, hlate⟩ : ∃ late, tight_window.lt due_at = .ok late := by
      rw [lt_ok_iff, htight, hsame]
    exact ⟨_, classify_due_eq hpast hfar hlate⟩

theorem classify_all_ok {deadlines : List PacketDeadline} {found : List (PacketDeadline × Due)}
    (h : classify_all now horizon tight_window deadlines = .ok found) :
    (∀ entry, entry ∈ found →
      entry.1 ∈ deadlines ∧ classify_due now horizon tight_window entry.1.due_at = .ok entry.2) ∧
    ∀ dl ∈ deadlines, ∃ due, (dl, due) ∈ found := by
  induction deadlines generalizing found with
  | nil =>
    cases h
    simp
  | cons dl rest ih =>
    obtain ⟨due, hdue, h⟩ := ok_of_bind h
    obtain ⟨more, hmore, h⟩ := ok_of_bind h
    obtain rfl : (dl, due) :: more = found := Except.ok.inj h
    obtain ⟨hsound, hall⟩ := ih hmore
    constructor
    · intro entry hentry
      rcases List.mem_cons.mp hentry with rfl | hentry
      · exact ⟨List.mem_cons_self, hdue⟩
      · exact ⟨List.mem_cons_of_mem _ (hsound entry hentry).1, (hsound entry hentry).2⟩
    · intro dl' hdl'
      rcases List.mem_cons.mp hdl' with rfl | hdl'
      · exact ⟨due, List.mem_cons_self⟩
      · obtain ⟨due', hdue'⟩ := hall dl' hdl'
        exact ⟨due', List.mem_cons_of_mem _ hdue'⟩

/-- The loop raises at a deadline that cannot be classified. -/
theorem classify_all_error {deadlines : List PacketDeadline} {e : Exn}
    (h : classify_all now horizon tight_window deadlines = .error e) :
    ∃ dl ∈ deadlines, ∀ due, classify_due now horizon tight_window dl.due_at ≠ .ok due := by
  induction deadlines with
  | nil => cases h
  | cons dl rest ih =>
    cases hdue : classify_due now horizon tight_window dl.due_at with
    | error e' => exact ⟨dl, List.mem_cons_self, by simp [hdue]⟩
    | ok due =>
      cases hmore : classify_all now horizon tight_window rest with
      | error e' =>
        obtain ⟨dl', hdl', hraises⟩ := ih (by
          have hrest : classify_all now horizon tight_window (dl :: rest) =
              (classify_all now horizon tight_window rest >>= fun more =>
                pure ((dl, due) :: more)) := by
            rw [classify_all, hdue]
            rfl
          rw [hrest, hmore] at h
          rw [hmore]
          exact h)
        exact ⟨dl', List.mem_cons_of_mem _ hdl', hraises⟩
      | ok more =>
        rw [classify_all, hdue] at h
        simp [hmore, bind, Except.bind, pure, Except.pure] at h

theorem deadlines_where_ne_nil {found : List (PacketDeadline × Due)} {due : Due} :
    deadlines_where found due ≠ [] ↔ ∃ entry ∈ found, entry.2 = due := by
  unfold deadlines_where
  simp [List.filter_eq_nil_iff]

end due

/-- Where a verdict comes from, if there are deadlines and the comparisons raise nothing. -/
theorem deadline_run {horizon tight_window : DateTime} {found : List (PacketDeadline × Due)}
    (hsome : packet.content.rest.deadlines ≠ [])
    (hhorizon : shift_days packet.content.rest.now cfg.deadline_horizon_days = .ok horizon)
    (htight : shift_days packet.content.rest.now cfg.deadline_tight_window_days = .ok tight_window)
    (hfound : classify_all packet.content.rest.now horizon tight_window
      packet.content.rest.deadlines = .ok found) :
    ∃ result, DeadlineSanityCheck.run packet cfg = .ok result ∧
      (result.verdict = .FAIL ↔
        ∃ entry ∈ found, entry.2 = .past_due ∨ entry.2 = .beyond_horizon) ∧
      (result.verdict = .WARN ↔
        (¬ ∃ entry ∈ found, entry.2 = .past_due ∨ entry.2 = .beyond_horizon) ∧
          ∃ entry ∈ found, entry.2 = .tight) := by
  have hfailures : deadlines_where found .past_due ++ deadlines_where found .beyond_horizon ≠ [] ↔
      ∃ entry ∈ found, entry.2 = .past_due ∨ entry.2 = .beyond_horizon := by
    rw [findings_append, deadlines_where_ne_nil, deadlines_where_ne_nil]
    constructor
    · rintro (⟨entry, hentry, hdue⟩ | ⟨entry, hentry, hdue⟩)
      · exact ⟨entry, hentry, .inl hdue⟩
      · exact ⟨entry, hentry, .inr hdue⟩
    · rintro ⟨entry, hentry, hdue | hdue⟩
      · exact .inl ⟨entry, hentry, hdue⟩
      · exact .inr ⟨entry, hentry, hdue⟩
  unfold DeadlineSanityCheck.run
  rw [if_neg hsome, hhorizon, htight]
  refine ⟨_, by
    show (classify_all packet.content.rest.now horizon tight_window
      packet.content.rest.deadlines >>= _) = _
    rw [hfound]
    rfl, ?_, ?_⟩
  · rw [conclude_fail, hfailures]
  · rw [conclude_warn, ← not_ne_iff, hfailures, deadlines_where_ne_nil]

/-- Where the comparisons raise nothing, what was found says where each deadline falls. -/
theorem found_iff {horizon tight_window : DateTime} {found : List (PacketDeadline × Due)}
    {now : DateTime} {deadlines : List PacketDeadline}
    (hfound : classify_all now horizon tight_window deadlines = .ok found) {due : Due} :
    (∃ entry ∈ found, entry.2 = due) ↔
      ∃ dl ∈ deadlines, classify_due now horizon tight_window dl.due_at = .ok due := by
  obtain ⟨hsound, hall⟩ := classify_all_ok hfound
  constructor
  · rintro ⟨entry, hentry, rfl⟩
    exact ⟨entry.1, hsound entry hentry⟩
  · rintro ⟨dl, hdl, hdue⟩
    obtain ⟨due', hentry⟩ := hall dl hdl
    have hsame := (hsound _ hentry).2
    rw [hdue] at hsame
    exact ⟨_, hentry, (Except.ok.inj hsame).symm⟩

/-- What the check is stopped by, if anything. -/
theorem deadline_cases (cfg : QCSettings) (hsome : packet.content.rest.deadlines ≠ []) :
    (DeadlineDefect cfg packet.content.rest ∧ ∃ e, DeadlineSanityCheck.run packet cfg = .error e) ∨
    ∃ horizon tight_window found,
      shift_days packet.content.rest.now cfg.deadline_horizon_days = .ok horizon ∧
      shift_days packet.content.rest.now cfg.deadline_tight_window_days = .ok tight_window ∧
      classify_all packet.content.rest.now horizon tight_window packet.content.rest.deadlines =
        .ok found := by
  cases hhorizon : shift_days packet.content.rest.now cfg.deadline_horizon_days with
  | error e =>
    refine .inl ⟨.out_of_calendar _ hsome (.inl rfl) (by simp [hhorizon]), e, ?_⟩
    unfold DeadlineSanityCheck.run
    rw [if_neg hsome, hhorizon]
    rfl
  | ok horizon =>
  cases htight : shift_days packet.content.rest.now cfg.deadline_tight_window_days with
  | error e =>
    refine .inl ⟨.out_of_calendar _ hsome (.inr rfl) (by simp [htight]), e, ?_⟩
    unfold DeadlineSanityCheck.run
    rw [if_neg hsome, hhorizon, htight]
    rfl
  | ok tight_window =>
  cases hfound : classify_all packet.content.rest.now horizon tight_window
      packet.content.rest.deadlines with
  | error e =>
    left
    obtain ⟨dl, hdl, hraises⟩ := classify_all_error hfound
    refine ⟨.unorderable dl hdl ?_, e, ?_⟩
    · intro hsame
      obtain ⟨due, hdue⟩ := (classify_due_ok (shift_days_utcoffset hhorizon)
        (shift_days_utcoffset htight)).mpr hsame
      exact hraises due hdue
    · unfold DeadlineSanityCheck.run
      rw [if_neg hsome, hhorizon, htight]
      show (classify_all packet.content.rest.now horizon tight_window
        packet.content.rest.deadlines >>= _) = _
      rw [hfound]
      rfl
  | ok found => exact .inr ⟨horizon, tight_window, found, rfl, rfl, hfound⟩

/-- A deadline in the past or beyond the horizon, as the `if` chain finds it. -/
theorem classified_defect {horizon tight_window : DateTime} {found : List (PacketDeadline × Due)}
    (hhorizon : shift_days packet.content.rest.now cfg.deadline_horizon_days = .ok horizon)
    (htight : shift_days packet.content.rest.now cfg.deadline_tight_window_days = .ok tight_window)
    (hfound : classify_all packet.content.rest.now horizon tight_window
      packet.content.rest.deadlines = .ok found) :
    (∃ entry ∈ found, entry.2 = .past_due ∨ entry.2 = .beyond_horizon) ↔
      DeadlineDefect cfg packet.content.rest := by
  obtain ⟨hsound, hall⟩ := classify_all_ok hfound
  -- every deadline has been compared with all three instants
  have hcompared : ∀ dl ∈ packet.content.rest.deadlines, ∃ past far late,
      dl.due_at.lt packet.content.rest.now = .ok past ∧ horizon.lt dl.due_at = .ok far ∧
      tight_window.lt dl.due_at = .ok late := by
    intro dl hdl
    obtain ⟨due, hentry⟩ := hall dl hdl
    have hsame := (classify_due_ok (shift_days_utcoffset hhorizon)
      (shift_days_utcoffset htight)).mp ⟨due, (hsound _ hentry).2⟩
    obtain ⟨past, hpast⟩ := lt_ok_iff.mpr hsame
    obtain ⟨far, hfar⟩ : ∃ far, horizon.lt dl.due_at = .ok far := by
      rw [lt_ok_iff, shift_days_utcoffset hhorizon, hsame]
    obtain ⟨late, hlate⟩ : ∃ late, tight_window.lt dl.due_at = .ok late := by
      rw [lt_ok_iff, shift_days_utcoffset htight, hsame]
    exact ⟨past, far, late, hpast, hfar, hlate⟩
  constructor
  · rintro ⟨⟨dl, due⟩, hentry, hdue⟩
    obtain ⟨hdl, hclass⟩ := hsound _ hentry
    obtain ⟨past, far, late, hpast, hfar, hlate⟩ := hcompared dl hdl
    rw [classify_due_eq hpast hfar hlate] at hclass
    cases past with
    | true => exact .past_due dl hdl hpast
    | false =>
      cases far with
      | true => exact .too_far dl horizon hdl hhorizon hfar
      | false =>
        -- what is neither past nor far is fine or tight
        obtain rfl := Except.ok.inj hclass
        cases late with
        | true => rcases hdue with h | h <;> cases h
        | false => rcases hdue with h | h <;> cases h
  · rintro (⟨dl, hdl, hpast⟩ | ⟨dl, horizon', hdl, hhorizon', hfar⟩ | ⟨dl, hdl, hmixed⟩ |
      ⟨days, -, hdays, hout⟩)
    · obtain ⟨past, far, late, hpast', hfar, hlate⟩ := hcompared dl hdl
      obtain rfl : past = true := Except.ok.inj (hpast'.symm.trans hpast)
      obtain ⟨entry, hentry, hdue⟩ := (found_iff hfound).mpr
        ⟨dl, hdl, classify_due_eq hpast hfar hlate⟩
      exact ⟨entry, hentry, .inl hdue⟩
    · obtain rfl : horizon = horizon' := Except.ok.inj (hhorizon.symm.trans hhorizon')
      obtain ⟨past, far, late, hpast, hfar', hlate⟩ := hcompared dl hdl
      obtain rfl : far = true := Except.ok.inj (hfar'.symm.trans hfar)
      obtain ⟨entry, hentry, hdue⟩ := (found_iff hfound).mpr
        ⟨dl, hdl, classify_due_eq hpast hfar hlate⟩
      refine ⟨entry, hentry, ?_⟩
      cases past with
      | true => exact .inl hdue
      | false => exact .inr hdue
    · obtain ⟨past, -, -, hpast, -, -⟩ := hcompared dl hdl
      exact absurd (lt_ok_iff.mp ⟨past, hpast⟩) hmixed
    · rcases hdays with rfl | rfl
      · exact absurd hhorizon (hout horizon)
      · exact absurd htight (hout tight_window)

theorem deadline_blocks (qc : QCConfig QCSettings) :
    Blocks DeadlineSanityCheck (Check.run DeadlineSanityCheck packet qc) ↔
      DeadlineDefect qc.settings packet.content.rest := by
  show Blocks _ (.of_run (DeadlineSanityCheck.run packet qc.settings)) ↔ _
  by_cases hsome : packet.content.rest.deadlines = []
  · unfold DeadlineSanityCheck.run
    rw [if_pos hsome]
    constructor
    · intro h
      simp [Behaviour.of_run, Blocks, field_absent, plain_result] at h
    · rintro (⟨dl, hdl, -⟩ | ⟨dl, -, hdl, -⟩ | ⟨dl, hdl, -⟩ | ⟨-, hne, -, -⟩)
      · rw [hsome] at hdl
        cases hdl
      · rw [hsome] at hdl
        cases hdl
      · rw [hsome] at hdl
        cases hdl
      · exact absurd hsome hne
  rcases deadline_cases qc.settings hsome with
    ⟨hdefect, e, hrun⟩ | ⟨horizon, tight_window, found, hhorizon, htight, hfound⟩
  · rw [hrun]
    exact iff_of_true trivial hdefect
  · obtain ⟨result, hrun, hfail, -⟩ := deadline_run hsome hhorizon htight hfound
    rw [hrun, ← classified_defect hhorizon htight hfound, ← hfail]
    show result.verdict = .FAIL ∨ (result.verdict ≠ .SKIPPED ∧
      result.verdict ∉ [Verdict.PASS, .WARN, .FAIL, .SKIPPED]) ↔ result.verdict = .FAIL
    cases result.verdict <;> simp

theorem deadline_warns (qc : QCConfig QCSettings)
    (hnone : ¬ DeadlineDefect qc.settings packet.content.rest) :
    Warns DeadlineSanityCheck (Check.run DeadlineSanityCheck packet qc) ↔
      DeadlineConcern qc.settings packet.content.rest := by
  show Warns _ (.of_run (DeadlineSanityCheck.run packet qc.settings)) ↔ _
  by_cases hsome : packet.content.rest.deadlines = []
  · unfold DeadlineSanityCheck.run DeadlineConcern
    rw [if_pos hsome, hsome]
    simp [Behaviour.of_run, Warns, field_absent, plain_result]
  rcases deadline_cases qc.settings hsome with
    ⟨hdefect, -⟩ | ⟨horizon, tight_window, found, hhorizon, htight, hfound⟩
  · exact absurd hdefect hnone
  · obtain ⟨result, hrun, -, hwarn⟩ := deadline_run hsome hhorizon htight hfound
    have hfree : ¬ ∃ entry ∈ found, entry.2 = .past_due ∨ entry.2 = .beyond_horizon :=
      fun h => hnone ((classified_defect hhorizon htight hfound).mp h)
    have hwarns : Warns DeadlineSanityCheck (.returned (some result)) ↔ result.verdict = .WARN := by
      show result.verdict = .WARN ∧ Verdict.WARN ∈ [Verdict.PASS, .WARN, .FAIL, .SKIPPED] ↔ _
      simp
    rw [hrun]
    show Warns DeadlineSanityCheck (.returned (some result)) ↔ _
    rw [hwarns, hwarn, found_iff hfound]
    constructor
    · rintro ⟨-, dl, hdl, hclass⟩
      refine ⟨dl, hdl, tight_window, htight, ?_⟩
      have hsame := (classify_due_ok (shift_days_utcoffset hhorizon)
        (shift_days_utcoffset htight)).mp ⟨_, hclass⟩
      obtain ⟨past, hpast⟩ := lt_ok_iff.mpr hsame
      obtain ⟨far, hfar⟩ : ∃ far, horizon.lt dl.due_at = .ok far := by
        rw [lt_ok_iff, shift_days_utcoffset hhorizon, hsame]
      obtain ⟨late, hlate⟩ : ∃ late, tight_window.lt dl.due_at = .ok late := by
        rw [lt_ok_iff, shift_days_utcoffset htight, hsame]
      rw [classify_due_eq hpast hfar hlate] at hclass
      rw [hlate]
      have hdue := Except.ok.inj hclass
      cases past <;> cases far <;> cases late <;> first | rfl | cases hdue
    · rintro ⟨dl, hdl, tight', htight', hlate⟩
      obtain rfl : tight_window = tight' := Except.ok.inj (htight.symm.trans htight')
      refine ⟨hfree, dl, hdl, ?_⟩
      have hsame : dl.due_at.utcoffset.isSome = packet.content.rest.now.utcoffset.isSome := by
        rw [← shift_days_utcoffset htight]
        exact (lt_ok_iff.mp ⟨false, hlate⟩).symm
      obtain ⟨past, hpast⟩ := lt_ok_iff.mpr hsame
      obtain ⟨far, hfar⟩ : ∃ far, horizon.lt dl.due_at = .ok far := by
        rw [lt_ok_iff, shift_days_utcoffset hhorizon, hsame]
      -- it is neither past nor far, since there is no defect
      rw [classify_due_eq hpast hfar hlate]
      cases past with
      | true => exact absurd (.past_due dl hdl hpast) hnone
      | false =>
        cases far with
        | true => exact absurd (.too_far dl horizon hdl hhorizon hfar) hnone
        | false => rfl

/-! ### As they are registered -/

theorem returning_blocks (id : String) (applies_to : Option (List String))
    (run : Packet → QCSettings → CheckResult) (qc : QCConfig QCSettings) :
    Blocks (returning id applies_to run) ((returning id applies_to run).run packet qc) ↔
      (run packet qc.settings).verdict = .FAIL := by
  show (run packet qc.settings).verdict = .FAIL ∨ ((run packet qc.settings).verdict ≠ .SKIPPED ∧
    (run packet qc.settings).verdict ∉ [Verdict.PASS, .WARN, .FAIL, .SKIPPED]) ↔ _
  cases (run packet qc.settings).verdict <;> simp

theorem returning_warns (id : String) (applies_to : Option (List String))
    (run : Packet → QCSettings → CheckResult) (qc : QCConfig QCSettings) :
    Warns (returning id applies_to run) ((returning id applies_to run).run packet qc) ↔
      (run packet qc.settings).verdict = .WARN := by
  show (run packet qc.settings).verdict = .WARN ∧
    Verdict.WARN ∈ [Verdict.PASS, .WARN, .FAIL, .SKIPPED] ↔ _
  simp

theorem privilege_run (qc : QCConfig QCSettings) :
    Check.run (PrivilegeCheck fmt.lower restriction) packet qc =
      .of_run (PrivilegeCheck.run fmt.lower restriction packet) := by
  unfold PrivilegeCheck Behaviour.of_run
  rfl

theorem privilege_never_skips :
    verdict_of (PrivilegeCheck.run fmt.lower restriction packet) ≠ some .SKIPPED := by
  by_cases h : Restricted packet.content
  · rw [run_restricted h]
    cases extra_block restriction packet with
    | error e => simp [Except.toOption]
    | ok block =>
      show some (if effective_external packet.content || block then Verdict.FAIL else .PASS) ≠ _
      split
      · simp
      · simp
  · rw [run_unrestricted h]
    simp

/-- An exception of the pack's predicates counts as a block too. -/
theorem privilege_blocks (qc : QCConfig QCSettings) :
    Blocks (PrivilegeCheck fmt.lower restriction : PacketCheck)
      (Check.run (PrivilegeCheck fmt.lower restriction) packet qc) ↔
      PrivilegeDefect restriction packet := by
  rw [privilege_run]
  have hpass : verdict_of (PrivilegeCheck.run fmt.lower restriction packet) = some .PASS ↔
      ¬ Restricted packet.content ∨
        ¬ LeavesHouse packet.content ∧ extra_block restriction packet = .ok false := run_pass_iff
  have hwarn : verdict_of (PrivilegeCheck.run fmt.lower restriction packet) ≠ some .WARN :=
    run_never_warns
  have hdefect : PrivilegeDefect restriction packet ↔ ¬ (¬ Restricted packet.content ∨
      ¬ LeavesHouse packet.content ∧ extra_block restriction packet = .ok false) := by
    unfold PrivilegeDefect
    tauto
  rw [hdefect, ← hpass]
  cases hrun : PrivilegeCheck.run fmt.lower restriction packet with
  | error e => exact iff_of_true trivial (by simp [verdict_of, Except.toOption])
  | ok result =>
    rw [hrun] at hwarn
    have hskip : result.verdict ≠ .SKIPPED := by
      intro hskipped
      have hnever : verdict_of (PrivilegeCheck.run fmt.lower restriction packet) ≠ some .SKIPPED :=
        privilege_never_skips
      rw [hrun] at hnever
      exact hnever (congrArg some hskipped)
    show result.verdict = .FAIL ∨ (result.verdict ≠ .SKIPPED ∧
      result.verdict ∉ [Verdict.PASS, .FAIL, .SKIPPED]) ↔ ¬ some result.verdict = some .PASS
    have hnot : result.verdict ≠ .WARN := fun h => hwarn (by simp [verdict_of, Except.toOption, h])
    cases hverdict : result.verdict with
    | PASS => simp
    | FAIL => simp
    | WARN => exact absurd hverdict hnot
    | SKIPPED => exact absurd hverdict hskip

theorem privilege_never_warns (qc : QCConfig QCSettings) :
    ¬ Warns (PrivilegeCheck fmt.lower restriction : PacketCheck)
      (Check.run (PrivilegeCheck fmt.lower restriction) packet qc) := by
  rw [privilege_run]
  cases PrivilegeCheck.run fmt.lower restriction packet with
  | error e => exact fun h => h
  | ok result =>
    rintro ⟨-, hallowed⟩
    simp [PrivilegeCheck, FAIL_OR_PASS] at hallowed

end checks

/-! ## The registry after `register_all` -/

theorem register_if_new_get? (registry : PacketRegistry) (check : PacketCheck) (id : String) :
    (register_if_new registry check).checks.get? id =
      (registry.checks.get? id).or (if check.id = id then some check else none) := by
  unfold register_if_new register_check
  cases hold : registry.checks.get? check.id with
  | some old =>
    show registry.checks.get? id = _
    by_cases hid : check.id = id
    · subst hid
      simp [hold]
    · simp [hid]
  | none =>
    show (registry.checks.set check.id check).get? id = _
    rw [Dict.get?_set]
    by_cases hid : id = check.id
    · subst hid
      simp [hold]
    · simp [hid, Ne.symm hid]

/-- The first to be registered under an id stays. -/
theorem register_each_get? (checks : List PacketCheck) (registry : PacketRegistry) (id : String) :
    (checks.foldl register_if_new registry).checks.get? id =
      (registry.checks.get? id).or (checks.find? fun check => decide (check.id = id)) := by
  induction checks generalizing registry with
  | nil => simp
  | cons check rest ih =>
    rw [List.foldl_cons, ih, register_if_new_get?, Option.or_assoc]
    congr 1
    by_cases hid : check.id = id
    · simp [hid]
    · simp [hid]

/-- After a registration from scratch, the registered checks are the seven. -/
theorem mem_register_all {fmt : TextFormat} {restriction : Option (RestrictionPolicy PacketRest)}
    {registry : PacketRegistry} {check : PacketCheck} :
    check ∈ (register_all fmt restriction true registry).checks.values ↔
      check ∈ ALL_CHECKS fmt restriction := by
  rw [Dict.mem_values_iff]
  have hget : ∀ id, (register_all fmt restriction true registry).checks.get? id =
      (ALL_CHECKS fmt restriction).find? fun check => decide (check.id = id) := by
    intro id
    unfold register_all
    rw [if_pos rfl, register_each_get?]
    rfl
  simp only [hget]
  constructor
  · rintro ⟨id, hfound⟩
    exact List.mem_of_find?_eq_some hfound
  · intro hmem
    refine ⟨check.id, ?_⟩
    -- the seven ids are distinct
    simp only [ALL_CHECKS, List.mem_cons, List.not_mem_nil, or_false] at hmem
    rcases hmem with rfl | rfl | rfl | rfl | rfl | rfl | rfl <;>
      simp [ALL_CHECKS, AttachmentIntegrityCheck, CompletenessCheck, ExtractionConfidenceCheck,
        ConsistencyCheck, DeadlineSanityCheck, PrivilegeCheck, RecipientIntegrityCheck, returning]

/-! ## Full reports -/

section reports
variable {fmt : TextFormat} {restriction : Option (RestrictionPolicy PacketRest)}
  {packet packet' : Packet}

/-- All seven are selected, the recipient check only for what is sent. -/
theorem full_selection {registry : PacketRegistry} {check : PacketCheck} :
    check ∈ (selection (register_all fmt restriction true registry) packet none).1 ↔
      check ∈ ALL_CHECKS fmt restriction ∧ check.applies packet.kind.value = true := by
  rw [mem_selection, mem_register_all]
  simp

theorem recipient_applies :
    RecipientIntegrityCheck.applies packet.kind.value = true ↔ packet.kind.Sends := by
  unfold PacketKind.Sends
  cases packet.kind <;>
    simp [Check.applies, RecipientIntegrityCheck, returning, PacketKind.value]

/-- Some selected check blocks exactly where there is a defect. -/
theorem some_check_blocks {registry : PacketRegistry} {cfg : QCConfig QCSettings} :
    (∃ check ∈ (selection (register_all fmt restriction true registry) packet none).1,
      Blocks check (check.run packet cfg)) ↔ Defect fmt restriction cfg.settings packet := by
  constructor
  · rintro ⟨check, hselected, hblocks⟩
    obtain ⟨hmem, happlies⟩ := full_selection.mp hselected
    simp only [ALL_CHECKS, List.mem_cons, List.not_mem_nil, or_false] at hmem
    rcases hmem with rfl | rfl | rfl | rfl | rfl | rfl | rfl
    · exact .attachment (attachment_fail.mp ((returning_blocks _ _ _ cfg).mp hblocks))
    · exact .completeness (completeness_fail.mp ((returning_blocks _ _ _ cfg).mp hblocks))
    · exact .confidence (confidence_fail.mp ((returning_blocks _ _ _ cfg).mp hblocks))
    · exact .consistency (consistency_fail.mp ((returning_blocks _ _ _ cfg).mp hblocks))
    · exact .deadline ((deadline_blocks cfg).mp hblocks)
    · exact .privilege ((privilege_blocks cfg).mp hblocks)
    · exact .recipient ⟨recipient_applies.mp happlies,
        recipient_fail.mp ((returning_blocks _ _ _ cfg).mp hblocks)⟩
  · intro hdefect
    cases hdefect with
    | attachment h =>
      exact ⟨AttachmentIntegrityCheck, full_selection.mpr ⟨by simp [ALL_CHECKS], rfl⟩,
        (returning_blocks _ _ _ cfg).mpr (attachment_fail.mpr h)⟩
    | completeness h =>
      exact ⟨CompletenessCheck, full_selection.mpr ⟨by simp [ALL_CHECKS], rfl⟩,
        (returning_blocks _ _ _ cfg).mpr (completeness_fail.mpr h)⟩
    | confidence h =>
      exact ⟨ExtractionConfidenceCheck fmt, full_selection.mpr ⟨by simp [ALL_CHECKS], rfl⟩,
        (returning_blocks _ _ _ cfg).mpr (confidence_fail.mpr h)⟩
    | consistency h =>
      exact ⟨ConsistencyCheck fmt, full_selection.mpr ⟨by simp [ALL_CHECKS], rfl⟩,
        (returning_blocks _ _ _ cfg).mpr (consistency_fail.mpr h)⟩
    | deadline h =>
      exact ⟨DeadlineSanityCheck, full_selection.mpr ⟨by simp [ALL_CHECKS], rfl⟩,
        (deadline_blocks cfg).mpr h⟩
    | privilege h =>
      exact ⟨PrivilegeCheck fmt.lower restriction, full_selection.mpr ⟨by simp [ALL_CHECKS], rfl⟩,
        (privilege_blocks cfg).mpr h⟩
    | recipient h =>
      exact ⟨RecipientIntegrityCheck, full_selection.mpr ⟨by simp [ALL_CHECKS],
        recipient_applies.mpr h.1⟩, (returning_blocks _ _ _ cfg).mpr (recipient_fail.mpr h.2)⟩

/-- Without a defect, some selected check warns exactly where there is a concern. -/
theorem some_check_warns {registry : PacketRegistry} {cfg : QCConfig QCSettings}
    (hnone : ¬ Defect fmt restriction cfg.settings packet) :
    (∃ check ∈ (selection (register_all fmt restriction true registry) packet none).1,
      Warns check (check.run packet cfg)) ↔ Concern fmt cfg.settings packet := by
  have hattachment : ¬ AttachmentDefect packet.content := fun h => hnone (.attachment h)
  have hconfidence : ¬ ConfidenceDefect cfg.settings packet.content :=
    fun h => hnone (.confidence h)
  have hconsistency : ¬ ConsistencyDefect fmt packet.content := fun h => hnone (.consistency h)
  have hdeadline : ¬ DeadlineDefect cfg.settings packet.content.rest :=
    fun h => hnone (.deadline h)
  have hrecipient : packet.kind.Sends → (RecipientIntegrityCheck.run packet).verdict ≠ .FAIL :=
    fun hsends h => hnone (.recipient ⟨hsends, recipient_fail.mp h⟩)
  constructor
  · rintro ⟨check, hselected, hwarns⟩
    obtain ⟨hmem, happlies⟩ := full_selection.mp hselected
    simp only [ALL_CHECKS, List.mem_cons, List.not_mem_nil, or_false] at hmem
    rcases hmem with rfl | rfl | rfl | rfl | rfl | rfl | rfl
    · exact .attachment ((attachment_warn hattachment).mp ((returning_warns _ _ _ cfg).mp hwarns))
    · exact absurd ((returning_warns _ _ _ cfg).mp hwarns) completeness_never_warns
    · exact .confidence ((confidence_warn hconfidence).mp ((returning_warns _ _ _ cfg).mp hwarns))
    · exact .consistency
        ((consistency_warn hconsistency).mp ((returning_warns _ _ _ cfg).mp hwarns))
    · exact .deadline ((deadline_warns cfg hdeadline).mp hwarns)
    · exact absurd hwarns (privilege_never_warns cfg)
    · have hsends := recipient_applies.mp happlies
      exact .recipient ⟨hsends,
        (recipient_warn (hrecipient hsends)).mp ((returning_warns _ _ _ cfg).mp hwarns)⟩
  · intro hconcern
    cases hconcern with
    | attachment h =>
      exact ⟨AttachmentIntegrityCheck, full_selection.mpr ⟨by simp [ALL_CHECKS], rfl⟩,
        (returning_warns _ _ _ cfg).mpr ((attachment_warn hattachment).mpr h)⟩
    | confidence h =>
      exact ⟨ExtractionConfidenceCheck fmt, full_selection.mpr ⟨by simp [ALL_CHECKS], rfl⟩,
        (returning_warns _ _ _ cfg).mpr ((confidence_warn hconfidence).mpr h)⟩
    | consistency h =>
      exact ⟨ConsistencyCheck fmt, full_selection.mpr ⟨by simp [ALL_CHECKS], rfl⟩,
        (returning_warns _ _ _ cfg).mpr ((consistency_warn hconsistency).mpr h)⟩
    | deadline h =>
      exact ⟨DeadlineSanityCheck, full_selection.mpr ⟨by simp [ALL_CHECKS], rfl⟩,
        (deadline_warns cfg hdeadline).mpr h⟩
    | recipient h =>
      exact ⟨RecipientIntegrityCheck, full_selection.mpr ⟨by simp [ALL_CHECKS],
        recipient_applies.mpr h.1⟩,
        (returning_warns _ _ _ cfg).mpr ((recipient_warn (hrecipient h.1)).mpr h.2)⟩

/-- Members are added to a packet: documents under names that nothing refers to, recipients
    where there are some already. -/
structure Extends (packet packet' : Packet) : Prop where
  kind : packet'.kind = packet.kind
  matter : packet'.content.matter = packet.content.matter
  now : packet'.content.rest.now = packet.content.rest.now
  documents : ∃ added, packet'.content.documents = packet.content.documents ++ added ∧
    ∀ d ∈ added, ∀ ref ∈ packet.content.rest.attachment_refs, d.name ≠ ref.referenced_name
  recipients : packet.content.intended_recipients ⊆ packet'.content.intended_recipients
  nobody : packet.content.intended_recipients = [] → packet'.content.intended_recipients = []
  claim : packet.content.external_bound = true → packet'.content.external_bound = true
  communications : packet.content.rest.communications ⊆ packet'.content.rest.communications
  deadlines : packet.content.rest.deadlines ⊆ packet'.content.rest.deadlines
  extracted_fields : packet.content.rest.extracted_fields ⊆ packet'.content.rest.extracted_fields
  template_bindings :
    packet.content.rest.template_bindings ⊆ packet'.content.rest.template_bindings
  attachment_refs : packet.content.rest.attachment_refs ⊆ packet'.content.rest.attachment_refs

theorem NamedBy.append {documents added : List Document} {name : String} {doc : Document}
    (h : NamedBy documents name doc) (hadded : ∀ d ∈ added, d.name ≠ name) :
    NamedBy (documents ++ added) name doc := by
  obtain ⟨before, after, rfl, hname, hafter⟩ := h
  refine ⟨before, after ++ added, by simp, hname, ?_⟩
  intro d hd
  rcases List.mem_append.mp hd with hd | hd
  · exact hafter d hd
  · exact hadded d hd

theorem Extends.attachment (h : Extends packet packet') (hdefect : AttachmentDefect packet.content) :
    AttachmentDefect packet'.content := by
  obtain ⟨added, hdocuments, hadded⟩ := h.documents
  cases hdefect with
  | missing ref href hmissing =>
    refine .missing ref (h.attachment_refs href) ?_
    rw [hdocuments]
    intro d hd
    rcases List.mem_append.mp hd with hd | hd
    · exact hmissing d hd
    · exact hadded d hd ref href
  | altered ref doc expected href hnamed hsome hne hdiffers =>
    refine .altered ref doc expected (h.attachment_refs href) ?_ hsome hne hdiffers
    rw [hdocuments]
    exact hnamed.append fun d hd => hadded d hd ref href
  | outdated ref doc expected href hnamed hsome hold =>
    refine .outdated ref doc expected (h.attachment_refs href) ?_ hsome hold
    rw [hdocuments]
    exact hnamed.append fun d hd => hadded d hd ref href

theorem Extends.documents_subset (h : Extends packet packet') :
    packet.content.documents ⊆ packet'.content.documents := by
  obtain ⟨added, hdocuments, -⟩ := h.documents
  rw [hdocuments]
  exact List.subset_append_left _ _

theorem Extends.deadline {cfg : QCSettings} (h : Extends packet packet')
    (hdefect : DeadlineDefect cfg packet.content.rest) : DeadlineDefect cfg packet'.content.rest := by
  cases hdefect with
  | past_due dl hdl hpast => exact .past_due dl (h.deadlines hdl) (h.now ▸ hpast)
  | too_far dl horizon hdl hhorizon hfar =>
    exact .too_far dl horizon (h.deadlines hdl) (h.now ▸ hhorizon) hfar
  | unorderable dl hdl hmixed => exact .unorderable dl (h.deadlines hdl) (h.now ▸ hmixed)
  | out_of_calendar days hsome hdays hout =>
    refine .out_of_calendar days ?_ hdays (h.now ▸ hout)
    obtain ⟨dl, hdl⟩ := List.exists_mem_of_ne_nil _ hsome
    exact List.ne_nil_of_mem (h.deadlines hdl)

theorem Extends.leaves (h : Extends packet packet') (hleaves : LeavesHouse packet.content) :
    LeavesHouse packet'.content := by
  rcases hleaves with hclaim | ⟨r, hr, hid⟩
  · exact .inl (h.claim hclaim)
  · exact .inr ⟨r, h.recipients hr, h.matter ▸ hid⟩

/-- A defect stays. -/
theorem Extends.defect {cfg : QCSettings} (h : Extends packet packet')
    (hpolicy : extra_block restriction packet ≠ .ok false →
      extra_block restriction packet' ≠ .ok false)
    (hdefect : Defect fmt restriction cfg packet) : Defect fmt restriction cfg packet' := by
  cases hdefect with
  | attachment hdefect => exact .attachment (h.attachment hdefect)
  | completeness hdefect =>
    apply Defect.completeness
    cases hdefect with
    | unresolved binding var hbinding hvar hblank =>
      exact .unresolved binding var (h.template_bindings hbinding) hvar hblank
    | matter hsome hfields =>
      refine .matter ?_ (h.matter ▸ hfields)
      obtain ⟨binding, hbinding⟩ := List.exists_mem_of_ne_nil _ hsome
      exact List.ne_nil_of_mem (h.template_bindings hbinding)
  | confidence hdefect =>
    obtain ⟨f, hf, hlow⟩ := hdefect
    exact .confidence ⟨f, h.extracted_fields hf, hlow⟩
  | consistency hdefect =>
    apply Defect.consistency
    cases hdefect with
    | foreign d hd hother => exact .foreign d (h.documents_subset hd) (h.matter ▸ hother)
    | name p hrenamed hdiffers =>
      obtain ⟨hname, ⟨comm, hcomm, hp⟩, hid, hne⟩ := hrenamed
      refine .name p ⟨h.matter ▸ hname, ⟨comm, h.communications hcomm, hp⟩, h.matter ▸ hid,
        h.matter ▸ hne⟩ (h.matter ▸ hdiffers)
  | deadline hdefect => exact .deadline (h.deadline hdefect)
  | privilege hdefect =>
    obtain ⟨⟨d, hd, hflag⟩, hreason⟩ := hdefect
    refine .privilege ⟨⟨d, h.documents_subset hd, hflag⟩, ?_⟩
    rcases hreason with hleaves | hobjects
    · exact .inl (h.leaves hleaves)
    · exact .inr (hpolicy hobjects)
  | recipient hdefect =>
    obtain ⟨hsends, hwho⟩ := hdefect
    refine .recipient ⟨by rw [h.kind]; exact hsends, ?_⟩
    rcases hwho with hnobody | ⟨r, hr, hid⟩
    · exact .inl (h.nobody hnobody)
    · exact .inr ⟨r, h.recipients hr, h.matter ▸ hid⟩

/-- **A block survives.** Whatever is added to a blocked packet, it is blocked, unless an added
    document takes the place of a missing attachment, somebody is found for what was sent to
    nobody, or the pack withdraws an objection of its own. -/
theorem block_survives (registry registry' : PacketRegistry) (cfg : QCConfig QCSettings)
    (h : Extends packet packet')
    (hpolicy : extra_block restriction packet ≠ .ok false →
      extra_block restriction packet' ≠ .ok false)
    (hblock : (run_checks (register_all fmt restriction true registry) packet none cfg).aggregate =
      .BLOCK) :
    (run_checks (register_all fmt restriction true registry') packet' none cfg).aggregate =
      .BLOCK := by
  rw [report_block_iff, some_check_blocks] at hblock ⊢
  exact h.defect hpolicy hblock

end reports

/-! ## A letter with a blank field -/

section letter

/-- The thresholds of `QCConfig`, unless the caller sets others. -/
def default_settings : QCSettings where
  extraction_warn_threshold := .finite ⟨"0.8", eight_tenths_repr_ok⟩
  extraction_fail_floor := .finite ⟨"0.5", half_repr_ok⟩
  deadline_horizon_days := 3650
  deadline_tight_window_days := 7

def default_config : QCConfig QCSettings where
  check_timeout_ms := ⟨"500.0", by decide⟩
  settings := default_settings

def ascii_format : TextFormat where
  lower s := s.toLower
  fixed2 x := x.repr

/-- A letter whose reference is blank. -/
def blank_letter : Packet where
  packet_id := "p-1"
  run_id := none
  kind := .GENERIC
  content :=
    { matter := ⟨"m-1", "case", "REF-001", "T", "open", none, sample_client, none, 0, [], ∅⟩
      documents := [], intended_recipients := [], external_bound := false
      rest :=
        { communications := [], deadlines := [], extracted_fields := []
          template_bindings := [⟨"letter", ["ref"], (∅ : Dict _ _).set "ref" (some " ")⟩]
          attachment_refs := [], now := ⟨719163, 0, some 0⟩ } }

/-- The letter with an attachment that nothing refers to, for somebody outside. -/
def enclosing_letter : Packet :=
  { blank_letter with content := { blank_letter.content with
      documents := [sample_document true], external_bound := true } }

theorem blank_letter_extended : Extends blank_letter enclosing_letter where
  kind := rfl
  matter := rfl
  now := rfl
  documents := ⟨[sample_document true], rfl, by intro d _ ref href; cases href⟩
  recipients := List.Subset.refl _
  nobody h := h
  claim h := by cases h
  communications := List.Subset.refl _
  deadlines := List.Subset.refl _
  extracted_fields := List.Subset.refl _
  template_bindings := List.Subset.refl _
  attachment_refs := List.Subset.refl _

theorem blank_letter_blocked :
    (run_checks (register_all ascii_format none true Registry.empty) blank_letter none
      default_config).aggregate = .BLOCK := by
  rw [report_block_iff, some_check_blocks]
  refine .completeness (.unresolved _ "ref" List.mem_cons_self List.mem_cons_self ?_)
  intro value hvalue
  obtain rfl : " " = value := by simpa using hvalue
  decide

/-- With the enclosure it is still blocked. -/
theorem enclosing_letter_blocked :
    (run_checks (register_all ascii_format none true Registry.empty) enclosing_letter none
      default_config).aggregate = .BLOCK :=
  block_survives Registry.empty Registry.empty default_config blank_letter_extended
    (fun h => absurd rfl h) blank_letter_blocked

end letter

end CaseAutomation.Qc
