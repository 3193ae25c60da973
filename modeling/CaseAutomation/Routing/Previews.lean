import CaseAutomation.Routing.Histories

/-! # Previews and Failed Moves

    A call with `dry_run`, or one whose move has raised, followed by the same call in earnest. The
    first call files its decision like any other one, and the second call replays it: it answers
    `duplicate`, and the document stays where it is.

    The second call does what it would have done without the first one only where the first one
    had nothing to file (`no_trace_iff`).
-/

namespace CaseAutomation.Routing

open Framework Domain

/-! ## Two calls -/

/-- The same arguments, `dry_run` apart. -/
structure SameCall (first later : RouteCall) : Prop where
  document : later.document = first.document
  matter : later.matter = first.matter
  force_review : later.options.force_review = first.options.force_review
  extraction_fields : later.extraction_fields = first.extraction_fields
  recipient_id : later.recipient_id = first.recipient_id
  run_id : later.run_id = first.run_id

namespace RoutingService

variable (service : RoutingService)

/-- What can be seen of a call: its answer, and the events in it. -/
def outcome (call : RouteCall) (s : RoutingState) : Except Exn RouteResult × List Event :=
  ((service.route call s).1, (service.route call s).2.log.drop s.log.length)

/-- The document store was asked to move the document, and it raised. -/
def MoveRaised (call : RouteCall) (s : RoutingState) : Prop :=
  call.move_fails.isSome = true ∧ (service.route call s).2.move_count = s.move_count + 1

/-- The later call goes as it would have gone from the earlier state. -/
def NoTrace (first later : RouteCall) (s : RoutingState) : Prop :=
  service.outcome later (service.route first s).2 = service.outcome later s

/-- The call files nothing: its key is decided already, or it raises before the gate. -/
def FilesNothing (call : RouteCall) (s : RoutingState) : Prop :=
  (s.decisions.get? (service.idem_key call)).isSome = true ∨ (service.plan call).isOk = false

end RoutingService

section previews
variable {service : RoutingService} {call first later : RouteCall} {s s' : RoutingState}

theorem SameCall.idem_key (h : SameCall first later) :
    service.idem_key later = service.idem_key first := by
  unfold RoutingService.idem_key
  rw [h.document, h.recipient_id]

/-! ## Replays and decisions -/

/-- A replay reads only what is filed under the key. -/
theorem outcome_decided {existing : RoutingDecision}
    (h : s.decisions.get? (service.idem_key call) = some existing) :
    service.outcome call s =
      (.ok (decision_to_result existing .duplicate (service.idem_key call)),
        if service.audited then
          [.audited ((call.run_id.filter fun id => id ≠ "").getD call.fresh_id) call.document.id
            existing .duplicate]
        else []) := by
  unfold RoutingService.outcome RoutingService.route
  rw [h]
  simp only [RoutingService.write_audit]
  split
  · simp
  · simp

/-- A call that decides answers something else than `duplicate`. -/
theorem decided_outcome {result : RouteResult}
    (hnone : s.decisions.get? (service.idem_key call) = none)
    (h : (service.route call s).1 = .ok result) : result.outcome ≠ .duplicate := by
  unfold RoutingService.route at h
  rw [hnone] at h
  cases hplan : service.plan call with
  | error e =>
    rw [hplan] at h
    cases h
  | ok planned =>
    obtain ⟨decision, acl⟩ := planned
    rw [hplan] at h
    simp only at h
    split at h
    · rw [← Except.ok.inj h]
      simp [RoutingService.conclude, decision_to_result, RoutingDecision.ending]
    split at h
    · rw [← Except.ok.inj h]
      simp [RoutingService.conclude, decision_to_result, RoutingDecision.ending]
    split at h
    · rw [← Except.ok.inj h]
      simp [RoutingService.conclude, decision_to_result, RoutingDecision.ending]
    · rw [← Except.ok.inj h]
      by_cases hfails : call.move_fails.isSome = true
      · simp [RoutingService.conclude, decision_to_result, RoutingDecision.ending, hfails]
      · simp [RoutingService.conclude, decision_to_result, RoutingDecision.ending, hfails]

/-- The plan of a call that may be filed leads past the gate and into a folder. -/
theorem plan_of_fileable {decision : RoutingDecision} {acl : ACL} (hfileable : Fileable service call)
    (h : service.plan call = .ok (decision, acl)) :
    decision.gate_verdict ≠ .fail ∧ decision.destination.kind = .folder := by
  obtain ⟨class_name, confidence, source, hknown, hclass, hsure, hfolder⟩ := hfileable.classified
  refine ⟨mt (plan_verdict h).2.2.mp hfileable.internal, ?_⟩
  obtain ⟨class_name', confidence', source', doc_name, hclass', rfl⟩ := plan_ok h
  rw [hclass] at hclass'
  cases hclass'
  have hreached : ¬ confidence < service.config.classification_threshold := by
    obtain hle | hnan := hsure
    · exact FloatValue.not_lt_of_le hle
    · rw [hnan]
      exact FloatValue.not_lt_nan
  have hlow : (call.options.force_review || (decide (class_name = "unknown") ||
      decide (confidence < service.config.classification_threshold))) = call.options.force_review := by
    simp [hknown, hreached]
  show (resolve service.config class_name (some call.matter) _).kind = .folder
  rw [hlow]
  exact hfolder

/-- A call that may be filed is, where nothing is filed under its key and the document store works. -/
theorem fileable_moved (hnone : s.decisions.get? (service.idem_key call) = none)
    (hfileable : Fileable service call) (hworking : call.move_fails = none) {result : RouteResult}
    (h : (service.route call s).1 = .ok result) :
    result.outcome = .moved ∧ (service.route call s).2.move_count = s.move_count + 1 := by
  unfold RoutingService.route at h ⊢
  rw [hnone] at h ⊢
  cases hplan : service.plan call with
  | error e =>
    rw [hplan] at h
    cases h
  | ok planned =>
    obtain ⟨decision, acl⟩ := planned
    obtain ⟨hgate, hkind⟩ := plan_of_fileable hfileable hplan
    have hqueue : decision.destination.kind ≠ .review_queue := by simp [hkind]
    have hreal : ¬ call.options.dry_run = true := by simp [hfileable.real]
    rw [hplan] at h
    simp only [if_neg hgate, if_neg hqueue, if_neg hreal, hworking] at h ⊢
    refine ⟨?_, ?_⟩
    · rw [← Except.ok.inj h]
      rfl
    · rw [(conclude_spec call decision _ _ (plan_verdict hplan).1).2.2]
      simp [RoutingState.move_count, Event.is_move]

/-- A call files a decision unless there is nothing to file. -/
theorem files (h : ¬ service.FilesNothing call s) : ∃ decision,
    (service.route call s).2.decisions.get? (service.idem_key call) = some decision := by
  obtain ⟨hundecided, hplanned⟩ := not_or.mp h
  obtain ⟨existing, hget, -⟩ | ⟨e, -, hplan, -⟩ | ⟨decision, acl, outcome, -, -, -, hdecisions, -⟩ :=
    route_cases service call s
  · simp [hget] at hundecided
  · simp [hplan, Except.isOk, Except.toBool] at hplanned
  · refine ⟨decision.ending outcome, ?_⟩
    rw [hdecisions, Dict.get?_set_self]

/-- A call whose move has raised has filed a decision. -/
theorem move_raised_files (h : service.MoveRaised call s) : ¬ service.FilesNothing call s := by
  obtain ⟨-, hmoved⟩ := h
  obtain ⟨existing, -, -, -, hcount⟩ | ⟨e, -, -, hraised⟩ | ⟨decision, acl, outcome, hnone, hplan, -⟩ :=
    route_cases service call s
  · omega
  · rw [hraised] at hmoved
    simp at hmoved
  · rintro (hdecided | hfailed)
    · simp [hnone] at hdecided
    · simp [hplan, Except.isOk, Except.toBool] at hfailed

/-! ## The later call -/

/-- Where the first call files nothing, the later one goes as it would have gone. -/
theorem no_trace_of_nothing (hsame : SameCall first later) (h : service.FilesNothing first s) :
    service.NoTrace first later s := by
  unfold RoutingService.NoTrace
  obtain ⟨existing, hget, -, hdecisions, -⟩ | ⟨e, -, -, hraised⟩ | ⟨decision, acl, outcome, hnone, hplan, -⟩ :=
    route_cases service first s
  · rw [← hsame.idem_key] at hget
    have hafter : (service.route first s).2.decisions.get? (service.idem_key later) = some existing := by
      rw [hdecisions]
      exact hget
    rw [outcome_decided hafter, outcome_decided hget]
  · rw [hraised]
  · -- then something was filed
    obtain hdecided | hfailed := h
    · simp [hnone] at hdecided
    · simp [hplan, Except.isOk, Except.toBool] at hfailed

/-- Where it files something, the later call answers `duplicate` instead. -/
theorem trace_of_filed (hsame : SameCall first later) (h : ¬ service.FilesNothing first s) :
    ¬ service.NoTrace first later s := by
  intro hno_trace
  obtain ⟨decision, hget⟩ := files h
  rw [← hsame.idem_key] at hget
  have hnone : s.decisions.get? (service.idem_key later) = none := by
    rw [hsame.idem_key]
    simpa using (not_or.mp h).1
  have hanswer := congrArg Prod.fst hno_trace
  rw [outcome_decided hget] at hanswer
  exact decided_outcome hnone hanswer.symm rfl

/-- **When a preview or a failed move leaves no trace.** The same call in earnest, after it, goes as it would
    have gone before it, if and only if the first call had nothing to file. After a failed move it
    never does. -/
theorem no_trace_iff (service : RoutingService) (s : RoutingState) (hsame : SameCall first later) :
    (service.NoTrace first later s ↔ service.FilesNothing first s) ∧
      (service.MoveRaised first s → ¬ service.NoTrace first later s) := by
  refine ⟨⟨?_, no_trace_of_nothing hsame⟩, ?_⟩
  · intro hno_trace
    by_contra hfiles
    exact trace_of_filed hsame hfiles hno_trace
  · intro hraised
    exact trace_of_filed hsame (move_raised_files hraised)

/-- **The document is not moved any more.** A call in earnest that would have moved its document
    answers `duplicate` after the first call, and moves nothing. -/
theorem move_lost (hsame : SameCall first later) (hfiles : ¬ service.FilesNothing first s)
    (hfileable : Fileable service later) (hworking : later.move_fails = none) {result : RouteResult}
    (h : (service.route later s).1 = .ok result) :
    result.outcome = .moved ∧
    ∃ replayed, (service.route later (service.route first s).2).1 = .ok replayed ∧
      replayed.outcome = .duplicate ∧
      (service.route later (service.route first s).2).2.move_count =
        (service.route first s).2.move_count := by
  have hnone : s.decisions.get? (service.idem_key later) = none := by
    rw [hsame.idem_key]
    simpa using (not_or.mp hfiles).1
  refine ⟨(fileable_moved hnone hfileable hworking h).1, ?_⟩
  obtain ⟨decision, hget⟩ := files hfiles
  rw [← hsame.idem_key] at hget
  obtain ⟨existing, -, hanswer, -, hcount⟩ | ⟨e, hunfiled, -⟩ | ⟨-, -, -, hunfiled, -⟩ :=
    route_cases service later (service.route first s).2
  · exact ⟨_, hanswer, rfl, hcount⟩
  · rw [hget] at hunfiled
    cases hunfiled
  · rw [hget] at hunfiled
    cases hunfiled

end previews

/-! ## A preview, and the call in earnest -/

section memo

/-- The memo of the sample, as a preview or in earnest, with a document store that may fail. -/
def memo_route (dry_run : Bool) (move_fails : Option Exn) : RouteCall :=
  { memo_call false none with options := ⟨false, dry_run⟩, move_fails := move_fails }

def docstore_down : Exn := .connector .TransientError "docstore" "timeout"

/-- The outcome of an answer. -/
def answered (answer : Except Exn RouteResult) : Option Outcome := answer.toOption.map RouteResult.outcome

/-- **A preview keeps the memo from being filed.** The call in earnest, which would move the memo, answers
    `duplicate` after a preview and after a failed move alike. -/
theorem preview_keeps_memo_out :
    answered (plain_service.route (memo_route false none) .empty).1 = some .moved ∧
    ∀ first ∈ [memo_route true none, memo_route false (some docstore_down)],
      answered (plain_service.route (memo_route false none)
        (plain_service.route first .empty).2).1 = some .duplicate ∧
      ¬ plain_service.NoTrace first (memo_route false none) .empty := by
  have hmoved : answered (plain_service.route (memo_route false none) .empty).1 = some .moved := by
    decide +kernel
  have hduplicate : ∀ first ∈ [memo_route true none, memo_route false (some docstore_down)],
      answered (plain_service.route (memo_route false none)
        (plain_service.route first .empty).2).1 = some .duplicate := by decide +kernel
  refine ⟨hmoved, ?_⟩
  intro first hfirst
  refine ⟨hduplicate first hfirst, ?_⟩
  intro hno_trace
  have hsame := congrArg (fun seen => answered seen.1) hno_trace
  have hanswers : some Outcome.duplicate = some .moved :=
    (hduplicate first hfirst).symm.trans (hsame.trans hmoved)
  cases hanswers

/-- A preview of a memo that is filed already leaves no trace. -/
theorem preview_of_filed_memo : plain_service.NoTrace (memo_route true none) (memo_route false none)
    (plain_service.after .empty [memo_route false none]) := by
  have hsame : SameCall (memo_route true none) (memo_route false none) := ⟨rfl, rfl, rfl, rfl, rfl, rfl⟩
  refine (no_trace_iff plain_service _ hsame).1.mpr (.inl ?_)
  decide +kernel

end memo

end CaseAutomation.Routing
