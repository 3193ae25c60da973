import CaseAutomation.Base.Text
import CaseAutomation.Domain.Models
import CaseAutomation.Qc.Registry

/-! # The Privilege Check

    `qc/checks/privilege.py`, and `RestrictionPolicy` of `packs/base.py`: a restricted document
    in a packet that leaves the house fails, and the predicates of the active pack may demand more.

    The check looks for restricted documents first and passes a packet without any, so a pack
    can block only packets that hold one (`privilege_decision_iff`).
-/

namespace CaseAutomation.Qc

open Domain

/-! ## Packets and policies -/

/-- The members of a packet that the check reads, and all others. -/
structure PacketContent (Rest : Type) where
  matter : Matter
  documents : List Document
  intended_recipients : List Contact
  /-- The caller's claim. -/
  external_bound : Bool
  rest : Rest

section privilege
variable {Rest Settings : Type} (lower : String → String)

/-- A predicate of a pack; it may raise. -/
abbrev Predicate (Rest : Type) : Type := VerificationPacket (PacketContent Rest) → Except Exn Bool

structure RestrictionPolicy (Rest : Type) where
  label : String
  default_restricted : Bool
  extra_predicates : List (Predicate Rest)
  label_non_empty : strip label ≠ ""

/-- `any(bool(pred(ctx)) for pred in predicates)`. -/
def any_predicate (ctx : VerificationPacket (PacketContent Rest)) :
    List (Predicate Rest) → Except Exn Bool
  | [] => .ok false
  | pred :: rest => do
    if ← pred ctx then pure true else any_predicate ctx rest

/-- `RestrictionPolicy.extra_block`. -/
def RestrictionPolicy.extra_block (policy : RestrictionPolicy Rest)
    (ctx : VerificationPacket (PacketContent Rest)) : Except Exn Bool :=
  any_predicate ctx policy.extra_predicates

/-- `restriction is not None and restriction.extra_block(packet)`. -/
def extra_block (restriction : Option (RestrictionPolicy Rest))
    (packet : VerificationPacket (PacketContent Rest)) : Except Exn Bool :=
  match restriction with
  | some policy => policy.extra_block packet
  | none => .ok false

/-! ## The check -/

/-- A recipient who is not the client of the matter. -/
def has_unknown_recipient (content : PacketContent Rest) : Bool :=
  content.intended_recipients.any fun r => decide (r.id ≠ content.matter.client.id)

/-- The stricter of the caller's claim and what the recipients say. -/
def effective_external (content : PacketContent Rest) : Bool :=
  content.external_bound || has_unknown_recipient content

def restricted_docs (content : PacketContent Rest) : List Document :=
  content.documents.filter fun d => d.privileged

/-- A result of the check. -/
def privilege_result (verdict : Verdict) (reason : String) (evidence : JsonObj) : CheckResult where
  check_id := "privilege"
  check_version := "1.0"
  verdict := verdict
  reason := reason
  evidence := evidence
  skip_reason := none

/-- The label of the active policy. -/
def restriction_label (restriction : Option (RestrictionPolicy Rest)) : String :=
  (restriction.map RestrictionPolicy.label).getD "Privileged"

/-- `PrivilegeCheck.run`; `restriction` is the policy of the active pack, if there is one. -/
def PrivilegeCheck.run (restriction : Option (RestrictionPolicy Rest))
    (packet : VerificationPacket (PacketContent Rest)) : Except Exn CheckResult :=
  let content := packet.content
  let label := restriction_label restriction
  if restricted_docs content = [] then
    .ok (privilege_result .PASS ("No " ++ lower label ++ " documents in packet.") [])
  else do
    let extra_block ← extra_block restriction packet
    if effective_external content || extra_block then
      .ok (privilege_result .FAIL
        (label ++ " document(s) cannot be routed to external recipients. " ++
          "effective_external=" ++ py_str (.bool (effective_external content)) ++
          " (caller_claim=" ++ py_str (.bool content.external_bound) ++
          ", re_derived=" ++ py_str (.bool (has_unknown_recipient content)) ++ ").")
        [("restricted_doc_count", .int (restricted_docs content).length),
          ("effective_external", .bool (effective_external content))])
    else .ok (privilege_result .PASS (label ++ " documents are internal only.") [])

/-- `PrivilegeCheck`, as it is registered. -/
def PrivilegeCheck (restriction : Option (RestrictionPolicy Rest)) :
    Check (PacketContent Rest) Settings where
  id := "privilege"
  version := "1.0"
  applies_to := none
  severity_policy := FAIL_OR_PASS
  run packet _ :=
    match PrivilegeCheck.run lower restriction packet with
    | .ok result => .returned (some result)
    | .error exn => .raised exn

/-! ## What the check should decide -/

/-- A restricted document is in the packet. -/
def Restricted (content : PacketContent Rest) : Prop := ∃ d ∈ content.documents, d.privileged = true

/-- The packet is for somebody else than the client of the matter, or claimed to be. -/
def LeavesHouse (content : PacketContent Rest) : Prop :=
  content.external_bound = true ∨
    ∃ r ∈ content.intended_recipients, r.id ≠ content.matter.client.id

/-- The packet must be blocked. -/
def MustBlock (restriction : Option (RestrictionPolicy Rest))
    (packet : VerificationPacket (PacketContent Rest)) : Prop :=
  Restricted packet.content ∧ LeavesHouse packet.content ∨ extra_block restriction packet = .ok true

/-- The verdict of a run; none where it raises. -/
def verdict_of (run : Except Exn CheckResult) : Option Verdict := run.toOption.map CheckResult.verdict

/-- Documents and recipients are added to the packet. -/
structure Grows (packet packet' : VerificationPacket (PacketContent Rest)) : Prop where
  documents : packet.content.documents.Sublist packet'.content.documents
  recipients : packet.content.intended_recipients.Sublist packet'.content.intended_recipients
  same : packet' = { packet with content := { packet.content with
    documents := packet'.content.documents
    intended_recipients := packet'.content.intended_recipients } }

/-- Predicates are added to the policy. -/
inductive Tightens : Option (RestrictionPolicy Rest) → Option (RestrictionPolicy Rest) → Prop where
  | none : Tightens none none
  | some (policy policy' : RestrictionPolicy Rest) :
      policy.extra_predicates.Sublist policy'.extra_predicates → Tightens (some policy) (some policy')

/-- The decision on a packet: it is blocked exactly where it must be, and what is added
    to the packet or to the policy never lifts the block. -/
structure PrivilegeDecision (restriction : Option (RestrictionPolicy Rest))
    (packet : VerificationPacket (PacketContent Rest)) : Prop where
  blocked : MustBlock restriction packet →
    verdict_of (PrivilegeCheck.run lower restriction packet) = some .FAIL
  passed : ¬ MustBlock restriction packet →
    verdict_of (PrivilegeCheck.run lower restriction packet) = some .PASS
  no_warning : verdict_of (PrivilegeCheck.run lower restriction packet) ≠ some .WARN
  kept : ∀ restriction' packet', Tightens restriction restriction' → Grows packet packet' →
    verdict_of (PrivilegeCheck.run lower restriction packet) = some .FAIL →
    verdict_of (PrivilegeCheck.run lower restriction' packet') ≠ some .PASS

/-! ## When it decides so -/

/-- The pack demands nothing of a packet without restricted documents, its predicates answer on the
    others, and a block that is theirs alone outlasts every addition to the packet. -/
structure Enforced (restriction : Option (RestrictionPolicy Rest))
    (packet : VerificationPacket (PacketContent Rest)) : Prop where
  unrestricted : ¬ Restricted packet.content → extra_block restriction packet ≠ .ok true
  answered : Restricted packet.content → ∃ block, extra_block restriction packet = .ok block
  lasting : Restricted packet.content → ¬ LeavesHouse packet.content →
    extra_block restriction packet = .ok true → ∀ packet', Grows packet packet' →
      ¬ LeavesHouse packet'.content → extra_block restriction packet' ≠ .ok false

variable {lower} {restriction restriction' : Option (RestrictionPolicy Rest)}
  {packet packet' : VerificationPacket (PacketContent Rest)} {content : PacketContent Rest}

theorem restricted_docs_ne_nil : restricted_docs content ≠ [] ↔ Restricted content := by
  simp [restricted_docs, Restricted]

theorem effective_external_iff : effective_external content = true ↔ LeavesHouse content := by
  simp [effective_external, has_unknown_recipient, LeavesHouse]

/-- A packet without restricted documents passes. -/
theorem run_unrestricted (h : ¬ Restricted packet.content) :
    verdict_of (PrivilegeCheck.run lower restriction packet) = some .PASS := by
  have hnone : restricted_docs packet.content = [] := not_not.mp (mt restricted_docs_ne_nil.mp h)
  unfold PrivilegeCheck.run
  rw [if_pos hnone]
  rfl

/-- On any other packet the predicates are asked, and their exceptions are not caught. -/
theorem run_restricted (h : Restricted packet.content) :
    verdict_of (PrivilegeCheck.run lower restriction packet) =
      (extra_block restriction packet).toOption.map fun block =>
        if effective_external packet.content || block then .FAIL else .PASS := by
  unfold PrivilegeCheck.run
  rw [if_neg (restricted_docs_ne_nil.mpr h)]
  cases extra_block restriction packet with
  | error e => rfl
  | ok block =>
    show verdict_of (if effective_external packet.content || block then _ else _) =
      some (if effective_external packet.content || block then .FAIL else .PASS)
    split
    · rfl
    · rfl

theorem run_fail_iff : verdict_of (PrivilegeCheck.run lower restriction packet) = some .FAIL ↔
    Restricted packet.content ∧ ∃ block, extra_block restriction packet = .ok block ∧
      (LeavesHouse packet.content ∨ block = true) := by
  by_cases h : Restricted packet.content
  · rw [run_restricted h, ← effective_external_iff]
    cases extra_block restriction packet with
    | error e => simp [Except.toOption]
    | ok block =>
      cases effective_external packet.content with
      | true => simp [Except.toOption, h]
      | false => simp [Except.toOption, h]
  · rw [run_unrestricted h]
    simp [h]

theorem run_pass_iff : verdict_of (PrivilegeCheck.run lower restriction packet) = some .PASS ↔
    ¬ Restricted packet.content ∨
      ¬ LeavesHouse packet.content ∧ extra_block restriction packet = .ok false := by
  by_cases h : Restricted packet.content
  · rw [run_restricted h, ← effective_external_iff]
    cases extra_block restriction packet with
    | error e => simp [Except.toOption, h]
    | ok block => simp [Except.toOption, h]
  · rw [run_unrestricted h]
    simp [h]

/-- **Never a warning.** -/
theorem run_never_warns : verdict_of (PrivilegeCheck.run lower restriction packet) ≠ some .WARN := by
  by_cases h : Restricted packet.content
  · rw [run_restricted h]
    cases extra_block restriction packet with
    | error e => simp [Except.toOption]
    | ok block =>
      show some (if effective_external packet.content || block then Verdict.FAIL else .PASS) ≠ _
      split
      · simp
      · simp
  · rw [run_unrestricted h]
    simp

/-! ## What is added -/

theorem Tightens.refl (restriction : Option (RestrictionPolicy Rest)) :
    Tightens restriction restriction := by
  cases restriction with
  | none => exact .none
  | some policy => exact .some policy policy (List.Sublist.refl _)

theorem Grows.restricted (h : Grows packet packet') (hrestricted : Restricted packet.content) :
    Restricted packet'.content := by
  obtain ⟨d, hd, hflag⟩ := hrestricted
  exact ⟨d, h.documents.subset hd, hflag⟩

theorem Grows.leaves (h : Grows packet packet') (hleaves : LeavesHouse packet.content) :
    LeavesHouse packet'.content := by
  rw [h.same]
  obtain hclaim | ⟨r, hr, hid⟩ := hleaves
  · exact .inl hclaim
  · exact .inr ⟨r, h.recipients.subset hr, hid⟩

/-- Where all predicates say no, fewer of them say no. -/
theorem any_predicate_sublist {preds preds' : List (Predicate Rest)} (h : preds.Sublist preds')
    (hno : any_predicate packet preds' = .ok false) : any_predicate packet preds = .ok false := by
  induction h with
  | slnil => rfl
  | @cons preds preds' pred _ ih =>
    obtain ⟨answer, -, hrest⟩ := ok_of_bind hno
    cases answer with
    | true => cases hrest
    | false => exact ih hrest
  | @cons_cons preds preds' pred _ ih =>
    obtain ⟨answer, hanswer, hrest⟩ := ok_of_bind hno
    cases answer with
    | true => cases hrest
    | false =>
      unfold any_predicate
      rw [hanswer]
      exact ih hrest

theorem Tightens.extra_block_false (h : Tightens restriction restriction')
    (hno : extra_block restriction' packet = .ok false) : extra_block restriction packet = .ok false := by
  cases h with
  | none => rfl
  | some policy policy' hsublist => exact any_predicate_sublist hsublist hno

/-- **When the decision holds.** A packet is blocked exactly where it must be, and what is
    added never lifts the block, if and only if the pack demands nothing of packets without restricted
    documents, answers on the others, and keeps up the blocks that are its own. -/
theorem privilege_decision_iff (lower : String → String)
    (restriction : Option (RestrictionPolicy Rest))
    (packet : VerificationPacket (PacketContent Rest)) :
    PrivilegeDecision lower restriction packet ↔ Enforced restriction packet := by
  constructor
  · intro h
    refine ⟨?_, ?_, ?_⟩
    · intro hunrestricted hblock
      have hfail := h.blocked (.inr hblock)
      rw [run_unrestricted hunrestricted] at hfail
      cases hfail
    · intro hrestricted
      -- the check has a verdict, so the predicates have answered
      have hverdict : verdict_of (PrivilegeCheck.run lower restriction packet) ≠ none := by
        by_cases hmust : MustBlock restriction packet
        · simp [h.blocked hmust]
        · simp [h.passed hmust]
      rw [run_restricted hrestricted] at hverdict
      cases hblock : extra_block restriction packet with
      | ok block => exact ⟨block, rfl⟩
      | error e =>
        rw [hblock] at hverdict
        exact absurd rfl hverdict
    · intro hrestricted _ hblock packet' hgrows hinside hno
      have hfail : verdict_of (PrivilegeCheck.run lower restriction packet) = some .FAIL :=
        run_fail_iff.mpr ⟨hrestricted, true, hblock, .inr rfl⟩
      exact h.kept restriction packet' (.refl _) hgrows hfail (run_pass_iff.mpr (.inr ⟨hinside, hno⟩))
  · intro h
    refine ⟨?_, ?_, run_never_warns, ?_⟩
    · intro hmust
      by_cases hrestricted : Restricted packet.content
      · obtain ⟨block, hblock⟩ := h.answered hrestricted
        refine run_fail_iff.mpr ⟨hrestricted, block, hblock, ?_⟩
        obtain ⟨-, hleaves⟩ | hdemand := hmust
        · exact .inl hleaves
        · rw [hblock] at hdemand
          exact .inr (Except.ok.inj hdemand)
      · obtain ⟨hyes, -⟩ | hdemand := hmust
        · exact absurd hyes hrestricted
        · exact absurd hdemand (h.unrestricted hrestricted)
    · intro hmust
      by_cases hrestricted : Restricted packet.content
      · obtain ⟨block, hblock⟩ := h.answered hrestricted
        refine run_pass_iff.mpr (.inr ⟨fun hleaves => hmust (.inl ⟨hrestricted, hleaves⟩), ?_⟩)
        cases block with
        | false => exact hblock
        | true => exact absurd (.inr hblock) hmust
      · exact run_pass_iff.mpr (.inl hrestricted)
    · intro restriction' packet' htightens hgrows hfail hpass
      obtain ⟨hrestricted, block, hblock, hreason⟩ := run_fail_iff.mp hfail
      obtain hfree | ⟨hinside', hno'⟩ := run_pass_iff.mp hpass
      · exact hfree (hgrows.restricted hrestricted)
      · have hinside : ¬ LeavesHouse packet.content := mt hgrows.leaves hinside'
        obtain hleaves | rfl := hreason
        · exact hinside hleaves
        · exact h.lasting hrestricted hinside hblock packet' hgrows hinside'
            (htightens.extra_block_false hno')

/-! ## In a report -/

/-- **A privileged packet is blocked.** Whatever else is registered, requested and answered: where the
    privilege check is selected, a packet that must be blocked for what it holds is. -/
theorem privileged_packet_blocked {registry : Registry (PacketContent Rest) Settings}
    {requested_ids : Option (List String)} (cfg : QCConfig Settings)
    (hselected : PrivilegeCheck lower restriction ∈ (selection registry packet requested_ids).1)
    (hrestricted : Restricted packet.content) (hleaves : LeavesHouse packet.content) :
    (run_checks registry packet requested_ids cfg).aggregate = .BLOCK := by
  refine (report_block_iff registry packet requested_ids cfg).mpr ⟨_, hselected, ?_⟩
  show Blocks _ (match PrivilegeCheck.run lower restriction packet with
    | .ok result => .returned (some result)
    | .error exn => .raised exn)
  cases hrun : PrivilegeCheck.run lower restriction packet with
  | error exn => trivial
  | ok result =>
    -- the predicates have answered, so the verdict is the engine's
    cases hblock : extra_block restriction packet with
    | error e =>
      have hverdict : verdict_of (PrivilegeCheck.run lower restriction packet) =
          (extra_block restriction packet).toOption.map fun block =>
            if effective_external packet.content || block then .FAIL else .PASS :=
        run_restricted hrestricted
      rw [hrun, hblock] at hverdict
      cases hverdict
    | ok block =>
      have hfail : verdict_of (PrivilegeCheck.run lower restriction packet) = some .FAIL :=
        run_fail_iff.mpr ⟨hrestricted, block, hblock, .inl hleaves⟩
      rw [hrun] at hfail
      exact .inl (Option.some.inj hfail)

end privilege

/-! ## A pack that blocks everything -/

section strict_pack

def strict_policy : RestrictionPolicy Unit where
  label := "Client-Confidential"
  default_restricted := true
  extra_predicates := [fun _ => .ok true]
  label_non_empty := by decide

def sample_client : Contact := ⟨"c-1", "crm", "Ana Garcia", none, none, none, ∅⟩

def sample_document (privileged : Bool) : Document where
  id := "d-1"
  matter_id := "m-1"
  name := "notes.docx"
  mime_type := "application/pdf"
  uri := "s3://d-1"
  classification := none
  version := 1
  privileged := privileged
  checksum := "abc"
  created_at := 0

/-- A packet with one document, for the client of its matter. -/
def sample_packet (privileged : Bool) : VerificationPacket (PacketContent Unit) where
  packet_id := "p-1"
  run_id := none
  kind := .GENERIC
  content :=
    { matter := ⟨"m-1", "case", "REF-001", "T", "open", none, sample_client, none, 0, [], ∅⟩
      documents := [sample_document privileged]
      intended_recipients := [sample_client]
      external_bound := false
      rest := () }

/-- **A block of the pack is ignored.** The predicate of the pack demands a block, and the check
    passes the packet, since no document is restricted. -/
theorem strict_pack_ignored :
    extra_block (some strict_policy) (sample_packet false) = .ok true ∧
    verdict_of (PrivilegeCheck.run id (some strict_policy) (sample_packet false)) = some .PASS ∧
    ¬ PrivilegeDecision id (some strict_policy) (sample_packet false) := by
  have hblock : extra_block (some strict_policy) (sample_packet false) = .ok true := rfl
  have hpass : verdict_of (PrivilegeCheck.run id (some strict_policy) (sample_packet false)) =
      some .PASS := by decide
  refine ⟨hblock, hpass, ?_⟩
  intro hdecision
  have hfail := hdecision.blocked (.inr hblock)
  rw [hpass] at hfail
  cases hfail

/-- The same pack blocks the packet with a restricted document. -/
example : verdict_of (PrivilegeCheck.run id (some strict_policy) (sample_packet true)) =
    some .FAIL := by decide

end strict_pack

end CaseAutomation.Qc
