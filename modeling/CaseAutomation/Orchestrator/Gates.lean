import CaseAutomation.Orchestrator.World
import CaseAutomation.Orchestrator.Tokens
import CaseAutomation.Security.Rbac

/-! # Gate Resolution

    `resolve_gate` of `orchestrator/gates.py`: the single authority for approvals
    and rejections, over every channel.
-/

namespace CaseAutomation.Orchestrator

open Framework Program Security

/-- `_maybe_audit`: exceptions of the audit service are swallowed. -/
def maybe_audit (audited : Bool) (actor action : String) (inputs : JsonObj) : M Unit :=
  if audited then do
    let _ ← (await (.audit
      { actor := actor, action := action, inputs := inputs, outputs := [], run_id := none }) :
      M Unit).attempt
    pure ()
  else pure ()

/-- The authorisation check of step 6. `ok true` lets the actor through, `ok false`
    denies; an unknown required role is a `ValueError`. -/
def authorise_actor (actor required_role : String) : Except Exn Bool :=
  match Role.parse actor with
  | none => .ok false
  | some actor_role =>
    match Role.parse required_role with
    | none => .error (.value_error (repr_str required_role ++ " is not a valid Role"))
    | some required =>
      if actor_role ≠ required then .ok false
      else .ok (authorize { identity := actor, roles := [actor_role] } .GATE_APPROVE none none)

/-- Whoever is let through is the required role, and that role may approve gates. -/
theorem authorise_actor_true {actor required_role : String}
    (h : authorise_actor actor required_role = .ok true) :
    actor = required_role ∧
      ∃ role, Role.parse actor = some role ∧ Permission.GATE_APPROVE ∈ grants role := by
  unfold authorise_actor at h
  split at h
  · cases h
  · next actor_role hactor =>
    split at h
    · cases h
    · next required hrequired =>
      by_cases hne : actor_role ≠ required
      · rw [if_pos hne] at h
        cases h
      · rw [if_neg hne] at h
        obtain rfl : actor_role = required := not_not.mp hne
        refine ⟨?_, actor_role, hactor, ?_⟩
        · rw [← Role.value_of_parse hactor, ← Role.value_of_parse hrequired]
        · simpa [authorize] using h

/-- The arguments of a `resolve_gate` call. -/
structure ResolveArgs where
  raw_token : PyStr
  decision : Decision
  actor : String
  channel : Channel
  signing_key : Bytes
  audited : Bool
  reason : Option String

/-- The decision that step 7 records. -/
def ResolveArgs.approval_decision (args : ResolveArgs) (payload : TokenPayload)
    (decided_at : Time) : ApprovalDecision where
  gate_request_id := payload.gid
  run_id := payload.rid
  step := payload.step
  decision := args.decision
  actor := args.actor
  channel := args.channel
  token_id := payload.tid
  reason := args.reason
  decided_at := decided_at

/-- The gate status of a decision. -/
def Decision.gate_status : Decision → GateStatus
  | .approve => .approved
  | .reject => .rejected

/-- The run status of a decision. -/
def Decision.run_status : Decision → RunStatus
  | .approve => .RUNNING
  | .reject => .REJECTED

/-- On approval the gate step is marked `SUCCEEDED`, so that the engine skips it. -/
def resume_step (args : ResolveArgs) (payload : TokenPayload) : M Unit :=
  match args.decision with
  | .approve => await (.advance_gate_step payload.rid payload.step)
  | .reject => pure ()

/-- The audit record of a resolution. -/
def ResolveArgs.audit_inputs (args : ResolveArgs) (payload : TokenPayload) : JsonObj :=
  [("run_id", .str payload.rid), ("step", .str payload.step),
    ("channel", .str args.channel.value), ("token_id", .str payload.tid),
    ("reason", match args.reason with
      | none => .null
      | some reason => .str reason)]

/-- The audit action of a decision. -/
def Decision.audit_action : Decision → String
  | .approve => "gate.approved"
  | .reject => "gate.rejected"

/-- Steps 7 to 9: record the decision, update the gate, resume or reject the run. -/
def record_resolution (args : ResolveArgs) (payload : TokenPayload) (gate : GateRequest) :
    M ApprovalDecision := do
  let decided_at ← await .now
  await (.save_approval_decision (args.approval_decision payload decided_at))
  await (.update_gate_request { gate with status := args.decision.gate_status })
  maybe_audit args.audited args.actor args.decision.audit_action (args.audit_inputs payload)
  await (.update_run_status payload.rid args.decision.run_status none none)
  resume_step args payload
  pure (args.approval_decision payload decided_at)

/-- Steps 5 and 6: load the gate, check that it is pending and that the actor may decide. -/
def check_gate (args : ResolveArgs) (payload : TokenPayload) : M ApprovalDecision := do
  match ← await (.get_gate_request payload.gid) with
  | none => raise (.gate_resolution "Gate request not found." 404)
  | some gate =>
    if gate.status ≠ .pending then
      raise (.gate_resolution ("Gate is already " ++ repr_str gate.status.value ++ ".") 409)
    else
      match authorise_actor args.actor gate.required_role with
      | .error e => raise e
      | .ok false => do
        maybe_audit args.audited args.actor "gate.authz_denied"
          [("required_role", .str gate.required_role)]
        raise (.gate_resolution "Insufficient role to approve this gate." 403)
      | .ok true => record_resolution args payload gate

/-- Steps 2 to 4: check expiry, load the token and use it up. -/
def use_token (args : ResolveArgs) (payload : TokenPayload) : M ApprovalDecision := do
  let now ← await .now
  if payload.exp < now then do
    maybe_audit args.audited args.actor "gate.token_expired" [("token_id", .str payload.tid)]
    raise (.gate_resolution "Token has expired." 401)
  else
    match ← await (.get_token payload.tid) with
    | none => raise (.gate_resolution "Token not found." 404)
    | some _ => do
      let used_at ← await .now
      let first_use ← await (.mark_token_used payload.tid used_at)
      if first_use then check_gate args payload
      else do
        maybe_audit args.audited args.actor "gate.token_reused" [("token_id", .str payload.tid)]
        raise (.gate_resolution "Token has already been used." 409)

/-- `resolve_gate`: verify the token, then expiry, single use, authorisation, record. -/
def resolve_gate (crypto : Crypto) (args : ResolveArgs) : M ApprovalDecision :=
  match verify_token crypto args.raw_token args.signing_key with
  | .error e => raise e
  | .ok (.error err) => do
    maybe_audit args.audited args.actor "gate.token_verify_failed" [("reason", .str err)]
    raise (.gate_resolution ("Token verification failed: " ++ err) 401)
  | .ok (.ok payload) => use_token args payload

end CaseAutomation.Orchestrator
