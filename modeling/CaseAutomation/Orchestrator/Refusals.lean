import CaseAutomation.Orchestrator.Reference
import CaseAutomation.Orchestrator.TokenCodec
import Mathlib.Data.Prod.Basic

/-! # Refused Resolutions

    `resolve_gate` makes its checks in a fixed order: signature, expiry, single use, gate, role, and
    last the transition of the run. What it raises is what the first check that fails says
    (`resolve_gate_run`).

    The single-use check is where the token is marked as used, so a resolution that is refused by a
    later check has used the token up (`refused_keeps_store`). And some things that can go wrong are not
    turned into a `GateResolutionError`: a first part with a surrogate, a signature that is no ASCII text,
    and a role or a run that does not fit the gate (`only_refusals_iff`).
-/

namespace CaseAutomation.Orchestrator

open Framework Program Security

/-! ## The checks -/

/-- The checks of the token: expiry and single use. -/
def token_refusal (payload : TokenPayload) (s : RunStore) (now : Time) : Option Exn :=
  if payload.exp < now then some (.gate_resolution "Token has expired." 401)
  else
    match s.tokens.get? payload.tid with
    | none => some (.gate_resolution "Token not found." 404)
    | some token =>
      if token.is_used then some (.gate_resolution "Token has already been used." 409) else none

/-- The checks of the gate and of the actor. -/
def gate_refusal (args : ResolveArgs) (payload : TokenPayload) (s : RunStore) : Option Exn :=
  match s.gates.get? payload.gid with
  | none => some (.gate_resolution "Gate request not found." 404)
  | some gate =>
    if gate.status ≠ .pending then
      some (.gate_resolution ("Gate is already " ++ repr_str gate.status.value ++ ".") 409)
    else
      match authorise_actor args.actor gate.required_role with
      | .error e => some e
      | .ok false => some (.gate_resolution "Insufficient role to approve this gate." 403)
      | .ok true => none

/-- The run does not admit the decision. -/
def status_refusal (args : ResolveArgs) (payload : TokenPayload) (s : RunStore) : Option Exn :=
  match s.update_run_status payload.rid args.decision.run_status none none 0 with
  | .error e => some e
  | .ok _ => none

/-- What a call of `resolve_gate` answers. -/
def resolution (refusal : Option Exn) (decision : ApprovalDecision) :
    Except Exn ApprovalDecision :=
  match refusal with
  | some e => .error e
  | none => .ok decision

/-! ## Runs of the resolver -/

section runs
variable {env : Env} {args : ResolveArgs} {payload : TokenPayload}

theorem maybe_audit_run (env : Env) (audited : Bool) (actor action : String) (inputs : JsonObj)
    (w : World) : ∃ w', (maybe_audit audited actor action inputs).run (exec env) w = (.ok (), w') ∧
      w'.store = w.store ∧ w'.clock = w.clock := by
  cases audited with
  | false => exact ⟨w, rfl, rfl, rfl⟩
  | true => exact ⟨_, rfl, rfl, rfl⟩

/-- Why a run does not admit the decision. -/
theorem status_refusal_eq (args : ResolveArgs) (payload : TokenPayload) (s : RunStore) :
    status_refusal args payload s =
      match s.runs.get? payload.rid with
      | none => some (run_not_found payload.rid)
      | some run =>
        if is_legal_run_transition run.status args.decision.run_status then none
        else some (.illegal_transition ("Run " ++ payload.rid ++ ": " ++ run.status.repr ++ " → " ++
          args.decision.run_status.repr ++ " is not a legal transition.")) := by
  unfold status_refusal RunStore.update_run_status
  cases s.runs.get? payload.rid with
  | none => rfl
  | some run =>
    by_cases hlegal : is_legal_run_transition run.status args.decision.run_status = true
    · simp [hlegal]
    · simp [hlegal]

/-- The refusal of a status looks at the runs only. -/
theorem status_refusal_congr {s s' : RunStore} (h : s.runs = s'.runs) :
    status_refusal args payload s = status_refusal args payload s' := by
  rw [status_refusal_eq, status_refusal_eq, h]

/-- It does not depend on the time. -/
theorem update_run_status_refusal (args : ResolveArgs) (payload : TokenPayload) (s : RunStore)
    (now : Time) : (∃ e, status_refusal args payload s = some e ∧
        s.update_run_status payload.rid args.decision.run_status none none now = .error e) ∨
      (status_refusal args payload s = none ∧
        ∃ s', s.update_run_status payload.rid args.decision.run_status none none now = .ok s') := by
  unfold status_refusal RunStore.update_run_status
  cases s.runs.get? payload.rid with
  | none => exact .inl ⟨_, rfl, rfl⟩
  | some run =>
    by_cases hlegal : is_legal_run_transition run.status args.decision.run_status = true
    · simp [hlegal]
    · simp [hlegal]

/-- Steps 7 to 9 fail only where the run does not admit the decision. -/
theorem record_resolution_run (gate : GateRequest) (w : World) :
    ∃ d w', (record_resolution args payload gate).run (exec env) w =
      (resolution (status_refusal args payload w.store) d, w') := by
  let w₁ := w.tick.with_store (w.store.save_approval_decision
    (args.approval_decision payload (env.time w.clock)))
  let w₂ := w₁.with_store (w₁.store.put_gate { gate with status := args.decision.gate_status })
  have hnow : (await .now : M Time).run (exec env) w = (.ok (env.time w.clock), w.tick) := rfl
  have hsave : (await (.save_approval_decision (args.approval_decision payload
      (env.time w.clock))) : M Unit).run (exec env) w.tick = (.ok (), w₁) := rfl
  have hgate : (await (.update_gate_request { gate with status := args.decision.gate_status }) :
      M Unit).run (exec env) w₁ = (.ok (), w₂) := rfl
  obtain ⟨w₃, haudit, hstore, -⟩ := maybe_audit_run env args.audited args.actor
    args.decision.audit_action (args.audit_inputs payload) w₂
  unfold record_resolution
  simp only [monad_bind]
  rw [run_bind_ok hnow, run_bind_ok hsave, run_bind_ok hgate, run_bind_ok haudit]
  -- neither the decision nor the gate touches the runs
  have hruns : w₃.store.runs = w.store.runs := by
    rw [hstore]
    rfl
  rw [← status_refusal_congr hruns]
  obtain ⟨e, hrefusal, hupdate⟩ | ⟨hrefusal, s', hupdate⟩ :=
    update_run_status_refusal args payload w₃.store (env.time w₃.clock)
  · have hexec : exec env (.update_run_status payload.rid args.decision.run_status none none) w₃ =
        (.error e, w₃) := by
      simp only [exec, hupdate, World.write]
    refine ⟨args.approval_decision payload (env.time w.clock), w₃, ?_⟩
    rw [hrefusal, run_bind_error ((run_perform _ _).trans hexec)]
    rfl
  · have hexec : exec env (.update_run_status payload.rid args.decision.run_status none none) w₃ =
        (.ok (), w₃.tick.with_store s') := by
      simp only [exec, hupdate, World.write]
    rw [hrefusal, run_bind_ok ((run_perform _ _).trans hexec)]
    unfold resume_step
    cases args.decision with
    | approve => exact ⟨_, _, rfl⟩
    | reject => exact ⟨_, _, rfl⟩

/-- Steps 5 to 9. Before anything is recorded, the store is left alone. -/
theorem check_gate_run (env : Env) (args : ResolveArgs) (payload : TokenPayload) (w : World) : ∃ d w',
    (check_gate args payload).run (exec env) w =
      (resolution ((gate_refusal args payload w.store).or (status_refusal args payload w.store)) d,
        w') ∧
      (gate_refusal args payload w.store ≠ none → w'.store = w.store) := by
  have hany : ApprovalDecision := args.approval_decision payload 0
  unfold check_gate
  simp only [monad_bind]
  rw [run_bind_ok (run_perform _ _)]
  unfold gate_refusal
  cases w.store.gates.get? payload.gid with
  | none => exact ⟨hany, w, rfl, fun _ => rfl⟩
  | some gate =>
    simp only
    by_cases hpending : gate.status ≠ .pending
    · rw [if_pos hpending, if_pos hpending]
      exact ⟨hany, w, rfl, fun _ => rfl⟩
    · rw [if_neg hpending, if_neg hpending]
      cases authorise_actor args.actor gate.required_role with
      | error e => exact ⟨hany, w, rfl, fun _ => rfl⟩
      | ok passed =>
        cases passed with
        | false =>
          obtain ⟨w₁, haudit, hstore, -⟩ := maybe_audit_run env args.audited args.actor
            "gate.authz_denied" [("required_role", .str gate.required_role)] w
          refine ⟨hany, w₁, ?_, fun _ => hstore⟩
          simp only [run_bind_ok haudit]
          rfl
        | true =>
          obtain ⟨d, w', hrecord⟩ := record_resolution_run gate w
          exact ⟨d, w', hrecord, fun hne => absurd rfl hne⟩

/-- The checks that a resolution makes once the signature is verified. -/
def use_refusal (args : ResolveArgs) (payload : TokenPayload) (s : RunStore) (now : Time) :
    Option Exn :=
  (token_refusal payload s now).or
    ((gate_refusal args payload s).or (status_refusal args payload s))

/-- Steps 2 to 9. A refused token leaves the store alone; a refusal by the gate leaves it with the token
    marked. -/
theorem use_token_run (env : Env) (args : ResolveArgs) (payload : TokenPayload) (w : World) : ∃ d w',
    (use_token args payload).run (exec env) w =
      (resolution (use_refusal args payload w.store (env.time w.clock)) d, w') ∧
    (token_refusal payload w.store (env.time w.clock) ≠ none → w'.store = w.store) ∧
    (token_refusal payload w.store (env.time w.clock) = none →
      gate_refusal args payload w.store ≠ none →
      ∃ used_at, w'.store = (w.store.mark_token_used payload.tid used_at).2) := by
  have hany : ApprovalDecision := args.approval_decision payload 0
  unfold use_token use_refusal
  simp only [monad_bind]
  rw [run_bind_ok (run_perform _ _)]
  unfold token_refusal
  by_cases hexpired : payload.exp < env.time w.clock
  · rw [if_pos hexpired, if_pos hexpired]
    obtain ⟨w₁, haudit, hstore, -⟩ := maybe_audit_run env args.audited args.actor
      "gate.token_expired" [("token_id", .str payload.tid)] w.tick
    refine ⟨hany, w₁, ?_, fun _ => hstore, fun hne => by cases hne⟩
    rw [run_bind_ok haudit]
    rfl
  · rw [if_neg hexpired, if_neg hexpired]
    have hget : (await (.get_token payload.tid) : M (Option ApprovalToken)).run (exec env) w.tick =
        (.ok (w.store.tokens.get? payload.tid), w.tick) := rfl
    rw [run_bind_ok hget]
    cases htoken : w.store.tokens.get? payload.tid with
    | none => exact ⟨hany, w.tick, rfl, fun _ => rfl, fun hne => by cases hne⟩
    | some token =>
      simp only
      let used_at := env.time w.tick.clock
      have hnow : (await .now : M Time).run (exec env) w.tick = (.ok used_at, w.tick.tick) := rfl
      have hmark : (await (.mark_token_used payload.tid used_at) : M Bool).run (exec env) w.tick.tick =
          (.ok (w.store.mark_token_used payload.tid used_at).1,
            w.tick.tick.with_store (w.store.mark_token_used payload.tid used_at).2) := rfl
      rw [run_bind_ok hnow, run_bind_ok hmark]
      have hresult : w.store.mark_token_used payload.tid used_at =
          if token.is_used then (false, w.store) else (true, { w.store with
            tokens := w.store.tokens.set payload.tid { token with used_at := some used_at } }) := by
        unfold RunStore.mark_token_used
        rw [htoken]
      by_cases hused : token.is_used = true
      · rw [if_pos hused] at hresult
        rw [hresult, if_pos hused]
        obtain ⟨w₁, haudit, hstore, -⟩ := maybe_audit_run env args.audited args.actor
          "gate.token_reused" [("token_id", .str payload.tid)] (w.tick.tick.with_store w.store)
        refine ⟨hany, w₁, ?_, fun _ => hstore, fun hne => by cases hne⟩
        simp only [run_bind_ok haudit, Bool.false_eq_true, if_false]
        rfl
      · rw [if_neg hused] at hresult
        rw [hresult, if_neg hused]
        let marked := w.tick.tick.with_store { w.store with
          tokens := w.store.tokens.set payload.tid { token with used_at := some used_at } }
        -- the checks that are left do not look at the tokens
        obtain ⟨d, w', hcheck, hstore⟩ := check_gate_run env args payload marked
        have hstatus : status_refusal args payload marked.store =
            status_refusal args payload w.store := status_refusal_congr rfl
        rw [hstatus] at hcheck
        refine ⟨d, w', ?_, fun hne => absurd rfl hne, fun _ hne => ⟨used_at, ?_⟩⟩
        · simp only [if_true]
          exact hcheck
        · rw [hresult]
          exact hstore hne

end runs

/-! ## What a refusal leaves behind -/

section store
variable {crypto : Crypto} {env : Env} {args : ResolveArgs} {payload : TokenPayload} {w w' : World}
  {e : Exn}

/-- The token is not expired, known and unused. -/
def Usable (payload : TokenPayload) (s : RunStore) (now : Time) : Prop :=
  ¬ payload.exp < now ∧ ∃ token, s.tokens.get? payload.tid = some token ∧ token.is_used = false

/-- The error of a check. -/
def IsRefusal (e : Exn) : Prop := ∃ reason status_code, e = .gate_resolution reason status_code

theorem token_refusal_none {s : RunStore} {now : Time} :
    token_refusal payload s now = none ↔ Usable payload s now := by
  unfold token_refusal Usable
  by_cases hexpired : payload.exp < now
  · simp [hexpired]
  · rw [if_neg hexpired]
    cases s.tokens.get? payload.tid with
    | none => simp
    | some token => simp [hexpired]

theorem token_refusal_some {s : RunStore} {now : Time}
    (h : token_refusal payload s now = some e) : IsRefusal e := by
  unfold token_refusal at h
  split at h
  · cases h
    exact ⟨_, _, rfl⟩
  · split at h
    · cases h
      exact ⟨_, _, rfl⟩
    · split at h
      · cases h
        exact ⟨_, _, rfl⟩
      · cases h

/-- The run is missing, or the transition is not legal. -/
theorem status_refusal_some {s : RunStore} (h : status_refusal args payload s = some e) :
    (∃ m, e = .key_error m) ∨ ∃ m, e = .illegal_transition m := by
  rw [status_refusal_eq] at h
  split at h
  · cases h
    exact .inl ⟨_, rfl⟩
  · split at h
    · cases h
    · cases h
      exact .inr ⟨_, rfl⟩

/-- The parts of a raw token can be used: the first one has no surrogates, and the signature part is
    ASCII text. -/
def WellFormed (raw : PyStr) : Prop :=
  ∀ p sig, split_dot raw = some (p, sig) → p.all CodePoint.is_char = true ∧ sig.is_ascii = true

/-- `verify_token` raises only for a first part with a surrogate, and for a signature that is no
    ASCII text, and what it raises is no refusal. -/
theorem verify_token_cases (crypto : Crypto) (raw : PyStr) (signing_key : Bytes) :
    (WellFormed raw ∧ ∃ r, verify_token crypto raw signing_key = .ok r) ∨
      (¬ WellFormed raw ∧ ∃ e, verify_token crypto raw signing_key = .error e ∧ ¬ IsRefusal e) := by
  unfold verify_token WellFormed
  cases split_dot raw with
  | none => simp
  | some parts =>
    obtain ⟨p, sig⟩ := parts
    simp only [Option.some.injEq, Prod.mk.injEq, sign, PyStr.encode, compare_digest]
    by_cases htext : p.all CodePoint.is_char = true
    · by_cases hascii : sig.is_ascii = true
      · refine .inl ⟨?_, ?_⟩
        · rintro p' sig' ⟨rfl, rfl⟩
          exact ⟨htext, hascii⟩
        · simp only [htext, hascii, crypto.hmac_hex_ascii, Bool.and_true, if_true, Bind.bind, Except.bind,
            Pure.pure, Except.pure]
          split
          · split <;> exact ⟨_, rfl⟩
          · exact ⟨_, rfl⟩
      · refine .inr ⟨fun h => hascii (h p sig ⟨rfl, rfl⟩).2, .type_error
          "comparing strings with non-ASCII characters is not supported", ?_, ?_⟩
        · simp only [htext, hascii, Bool.and_false, Bool.false_eq_true, if_true, if_false, Bind.bind,
            Except.bind, Pure.pure, Except.pure]
        · simp [IsRefusal]
    · refine .inr ⟨fun h => htext (h p sig ⟨rfl, rfl⟩).1, p.encode_error, ?_, ?_⟩
      · simp only [htext, Bool.false_eq_true, if_false, Bind.bind, Except.bind]
      · simp [IsRefusal, PyStr.encode_error]

/-- `verify_token` returns for exactly those tokens. -/
theorem verify_token_returns_iff (crypto : Crypto) (raw : PyStr) (signing_key : Bytes) :
    (∃ r, verify_token crypto raw signing_key = .ok r) ↔ WellFormed raw := by
  obtain ⟨hparts, r, hr⟩ | ⟨hparts, e, he, -⟩ := verify_token_cases crypto raw signing_key
  · exact iff_of_true ⟨r, hr⟩ hparts
  · refine iff_of_false ?_ hparts
    rintro ⟨r, hr⟩
    rw [he] at hr
    cases hr

/-- What `resolve_gate` does with a token that does not verify. -/
theorem resolve_gate_unverified (env : Env) (w : World)
    (h : ∀ payload, verify_token crypto args.raw_token args.signing_key ≠ .ok (.ok payload)) :
    ∃ e w', (resolve_gate crypto args).run (exec env) w = (.error e, w') ∧ w'.store = w.store ∧
      (IsRefusal e ↔ ∃ r, verify_token crypto args.raw_token args.signing_key = .ok r) := by
  unfold resolve_gate
  cases hverify : verify_token crypto args.raw_token args.signing_key with
  | error e =>
    refine ⟨e, w, rfl, rfl, ?_⟩
    obtain ⟨-, r, hr⟩ | ⟨-, e', he', hnot⟩ :=
      verify_token_cases crypto args.raw_token args.signing_key
    · rw [hverify] at hr
      cases hr
    · rw [hverify] at he'
      cases he'
      simp [hnot]
  | ok r =>
    cases r with
    | ok payload => exact absurd hverify (h payload)
    | error err =>
      obtain ⟨w₁, haudit, hstore, -⟩ := maybe_audit_run env args.audited args.actor
        "gate.token_verify_failed" [("reason", .str err)] w
      refine ⟨_, w₁, run_bind_ok haudit, hstore, ?_⟩
      exact ⟨fun _ => ⟨_, rfl⟩, fun _ => ⟨_, _, rfl⟩⟩

/-- And with one that does. -/
theorem resolve_gate_verified
    (h : verify_token crypto args.raw_token args.signing_key = .ok (.ok payload)) :
    resolve_gate crypto args = use_token args payload := by
  unfold resolve_gate
  rw [h]

end store

/-- **A refused resolution records nothing.** Where `resolve_gate` raises, and it is not the transition of
    the run that is refused, the store is left exactly as it was if the token is not usable, and
    otherwise differs in that one token only, which is used from then on. -/
theorem refused_keeps_store {crypto : Crypto} {env : Env} {args : ResolveArgs} {w w' : World}
    {e : Exn} (h : (resolve_gate crypto args).run (exec env) w = (.error e, w'))
    (hfound : ∀ m, e ≠ .key_error m) (hlegal : ∀ m, e ≠ .illegal_transition m) :
    ((∀ payload, verify_token crypto args.raw_token args.signing_key = .ok (.ok payload) →
        ¬ Usable payload w.store (env.time w.clock)) → w'.store = w.store) ∧
    ∀ payload, verify_token crypto args.raw_token args.signing_key = .ok (.ok payload) →
      Usable payload w.store (env.time w.clock) →
      ∃ token used_at, w.store.tokens.get? payload.tid = some token ∧
        w'.store = { w.store with
          tokens := w.store.tokens.set payload.tid { token with used_at := some used_at } } := by
  by_cases hverified : ∃ payload,
      verify_token crypto args.raw_token args.signing_key = .ok (.ok payload)
  · obtain ⟨payload, hverify⟩ := hverified
    rw [resolve_gate_verified hverify] at h
    obtain ⟨d, w₁, hrun, hkeeps, hmarks⟩ := use_token_run env args payload w
    obtain ⟨hanswer, rfl⟩ := Prod.mk.inj (h.symm.trans hrun)
    refine ⟨?_, ?_⟩
    · intro hall
      exact hkeeps fun hnone => hall payload hverify (token_refusal_none.mp hnone)
    · intro payload' hverify' husable
      cases hverify.symm.trans hverify'
      have hnone := token_refusal_none.mpr husable
      -- so it was the gate that refused
      have hgate : gate_refusal args payload w.store ≠ none := by
        intro hpassed
        unfold use_refusal at hanswer
        rw [hnone, hpassed, Option.none_or, Option.none_or] at hanswer
        cases hstatus : status_refusal args payload w.store with
        | none =>
          rw [hstatus] at hanswer
          cases hanswer
        | some e' =>
          rw [hstatus] at hanswer
          cases hanswer
          obtain ⟨m, hm⟩ | ⟨m, hm⟩ := status_refusal_some hstatus
          · exact hfound m hm
          · exact hlegal m hm
      obtain ⟨used_at, hmarked⟩ := hmarks hnone hgate
      obtain ⟨-, token, htoken, hunused⟩ := husable
      refine ⟨token, used_at, htoken, ?_⟩
      rw [hmarked]
      unfold RunStore.mark_token_used
      rw [htoken]
      simp [hunused]
  · have hnot : ∀ payload, verify_token crypto args.raw_token args.signing_key ≠ .ok (.ok payload) :=
      fun payload hverify => hverified ⟨payload, hverify⟩
    obtain ⟨e', w₁, hrun, hstore, -⟩ := resolve_gate_unverified env w hnot
    obtain ⟨-, rfl⟩ := Prod.mk.inj (h.symm.trans hrun)
    exact ⟨fun _ => hstore, fun payload hverify => absurd hverify (hnot payload)⟩

/-- An intake coordinator tries to approve the gate of a waiting run. -/
def wrong_role : Except Exn ApprovalDecision × World :=
  (resolve_gate reference_crypto (resolve_with (first_token (signature_waiting 1)) .approve
    "intake_coordinator")).run (exec reference_env) (signature_waiting 1)

theorem wrong_role_eq : wrong_role =
    (use_token (resolve_with (first_token (signature_waiting 1)) .approve "intake_coordinator")
      (first_token (signature_waiting 1)).payload).run (exec reference_env) (signature_waiting 1) := by
  unfold wrong_role
  rw [resolve_gate_with]

/-- The attempt is refused, and nothing but the token has changed. -/
theorem wrong_role_changes_token : ∃ token used_at,
    (signature_waiting 1).store.tokens.get? (first_token (signature_waiting 1)).id = some token ∧
    wrong_role.2.store = { (signature_waiting 1).store with
      tokens := (signature_waiting 1).store.tokens.set (first_token (signature_waiting 1)).id
        { token with used_at := some used_at } } := by
  have hanswer : wrong_role.1 =
      .error (.gate_resolution "Insufficient role to approve this gate." 403) := by
    rw [wrong_role_eq]
    decide +kernel
  have hrun : wrong_role =
      (.error (.gate_resolution "Insufficient role to approve this gate." 403), wrong_role.2) :=
    Prod.fst_eq_iff.mp hanswer
  have husable : Usable (first_token (signature_waiting 1)).payload (signature_waiting 1).store
      (reference_env.time (signature_waiting 1).clock) :=
    token_refusal_none.mp (by decide +kernel)
  exact (refused_keeps_store hrun (by simp) (by simp)).2 _ (verify_resolve_with _ _ _) husable

/-- But the token is used: the attorney, who has the required role, is refused with it. -/
theorem wrong_role_uses_token :
    wrong_role.1 = .error (.gate_resolution "Insufficient role to approve this gate." 403) ∧
    (first_token (signature_waiting 1)).is_used = false ∧
    (first_token wrong_role.2).is_used = true ∧
    ((resolve_gate reference_crypto (resolve_with (first_token (signature_waiting 1)) .approve
      "attorney")).run (exec reference_env) wrong_role.2).1 =
        .error (.gate_resolution "Token has already been used." 409) := by
  rw [resolve_gate_with, wrong_role_eq]
  decide +kernel

/-! ## Which exceptions are raised -/

/-- The condition under which every failure is a `GateResolutionError`: the parts of the token can be
    used; where a usable token meets a pending gate and the actor has a role, the gate asks for a
    role that there is; and where the actor may decide, the run is there and admits the
    decision. -/
structure Regular (crypto : Crypto) (env : Env) (args : ResolveArgs) (w : World) : Prop where
  parts : WellFormed args.raw_token
  role : ∀ payload gate, Signed crypto.payloads args.raw_token args.signing_key payload →
    Usable payload w.store (env.time w.clock) → w.store.gates.get? payload.gid = some gate →
    gate.status = .pending → Role.parse args.actor ≠ none → Role.parse gate.required_role ≠ none
  run : ∀ payload gate, Signed crypto.payloads args.raw_token args.signing_key payload →
    Usable payload w.store (env.time w.clock) → w.store.gates.get? payload.gid = some gate →
    gate.status = .pending → authorise_actor args.actor gate.required_role = .ok true →
    ∃ run, w.store.runs.get? payload.rid = some run ∧
      is_legal_run_transition run.status args.decision.run_status = true

section raised
variable {crypto : Crypto} {env : Env} {args : ResolveArgs} {payload : TokenPayload} {s : RunStore}

/-- The gate refuses with another exception only for a role that there is not. -/
theorem gate_refusal_isRefusal : (∀ e, gate_refusal args payload s = some e → IsRefusal e) ↔
    ∀ gate, s.gates.get? payload.gid = some gate → gate.status = .pending →
      Role.parse args.actor ≠ none → Role.parse gate.required_role ≠ none := by
  unfold gate_refusal
  cases hgate : s.gates.get? payload.gid with
  | none => simp [IsRefusal]
  | some gate =>
    by_cases hpending : gate.status = .pending
    · simp only [hpending, ne_eq, not_true_eq_false, if_false, Option.some.injEq, forall_eq']
      unfold authorise_actor
      cases Role.parse args.actor with
      | none => simp [IsRefusal]
      | some actor_role =>
        cases Role.parse gate.required_role with
        | none => simp [IsRefusal]
        | some required =>
          by_cases hsame : actor_role = required
          · subst hsame
            simp only [ne_eq, not_true_eq_false, if_false]
            generalize authorize { identity := args.actor, roles := [actor_role] } .GATE_APPROVE none
              none = passed
            cases passed <;> simp [IsRefusal]
          · simp [IsRefusal, hsame]
    · simp [IsRefusal, hpending]

/-- It lets the actor pass if the gate is pending and the actor may decide. -/
theorem gate_refusal_none : gate_refusal args payload s = none ↔
    ∃ gate, s.gates.get? payload.gid = some gate ∧ gate.status = .pending ∧
      authorise_actor args.actor gate.required_role = .ok true := by
  unfold gate_refusal
  cases s.gates.get? payload.gid with
  | none => simp
  | some gate =>
    by_cases hpending : gate.status = .pending
    · cases hauth : authorise_actor args.actor gate.required_role with
      | error e => simp [hpending, hauth]
      | ok passed => cases passed <;> simp [hpending, hauth]
    · simp [hpending]

/-- The run admits the decision. -/
theorem status_refusal_none : status_refusal args payload s = none ↔
    ∃ run, s.runs.get? payload.rid = some run ∧
      is_legal_run_transition run.status args.decision.run_status = true := by
  rw [status_refusal_eq]
  cases s.runs.get? payload.rid with
  | none => simp
  | some run => simp

/-- All the checks behind the signature. -/
theorem use_refusal_isRefusal (args : ResolveArgs) (payload : TokenPayload) (s : RunStore)
    (now : Time) :
    (∀ e, use_refusal args payload s now = some e → IsRefusal e) ↔
      (Usable payload s now → (∀ e, gate_refusal args payload s = some e → IsRefusal e) ∧
        (gate_refusal args payload s = none → status_refusal args payload s = none)) := by
  unfold use_refusal
  rw [← token_refusal_none]
  cases htoken : token_refusal payload s now with
  | some e =>
    have hrefusal := token_refusal_some htoken
    simp [hrefusal]
  | none =>
    simp only [Option.none_or, forall_const]
    cases hgate : gate_refusal args payload s with
    | some e => simp
    | none =>
      cases hstatus : status_refusal args payload s with
      | none => simp
      | some e =>
        obtain ⟨m, rfl⟩ | ⟨m, rfl⟩ := status_refusal_some hstatus
        · simp [IsRefusal]
        · simp [IsRefusal]

end raised

/-- **Only refusals.** For every raw token, decision, actor and store: `resolve_gate` returns a decision
    or raises `GateResolutionError`, and `verify_token` does not raise, if and only if the input
    is regular. -/
theorem only_refusals_iff (crypto : Crypto) (env : Env) (args : ResolveArgs) (w : World) :
    ((∀ e, ((resolve_gate crypto args).run (exec env) w).1 = .error e →
        ∃ reason status_code, e = .gate_resolution reason status_code) ∧
      ∃ r, verify_token crypto args.raw_token args.signing_key = .ok r) ↔
      Regular crypto env args w := by
  rw [verify_token_returns_iff]
  by_cases hverified : ∃ payload,
      verify_token crypto args.raw_token args.signing_key = .ok (.ok payload)
  · obtain ⟨payload, hverify⟩ := hverified
    have hsigned := hverify
    rw [← verify_object_payloads, verify_object_ok] at hsigned
    have hsame : ∀ payload', Signed crypto.payloads args.raw_token args.signing_key payload' →
        payload' = payload := by
      intro payload' hsigned'
      rw [← verify_object_ok, verify_object_payloads, hverify] at hsigned'
      cases hsigned'
      rfl
    have hparts := (verify_token_returns_iff crypto args.raw_token args.signing_key).mp ⟨_, hverify⟩
    obtain ⟨d, w', hrun, -⟩ := use_token_run env args payload w
    rw [resolve_gate_verified hverify, hrun]
    -- what is raised is what the checks say
    have hraised : (∀ e, resolution (use_refusal args payload w.store (env.time w.clock)) d =
        .error e → IsRefusal e) ↔
        ∀ e, use_refusal args payload w.store (env.time w.clock) = some e → IsRefusal e := by
      cases use_refusal args payload w.store (env.time w.clock) <;> simp [resolution]
    have hchecks := use_refusal_isRefusal args payload w.store (env.time w.clock)
    rw [gate_refusal_isRefusal, gate_refusal_none, status_refusal_none] at hchecks
    constructor
    · rintro ⟨hrefusals, -⟩
      have hall := hchecks.mp (hraised.mp hrefusals)
      refine ⟨hparts, ?_, ?_⟩
      · intro payload' gate hsigned' husable hgate
        cases hsame payload' hsigned'
        exact (hall husable).1 gate hgate
      · intro payload' gate hsigned' husable hgate hpending hauth
        cases hsame payload' hsigned'
        exact (hall husable).2 ⟨gate, hgate, hpending, hauth⟩
    · intro hregular
      refine ⟨hraised.mpr (hchecks.mpr fun husable => ⟨?_, ?_⟩), hparts⟩
      · exact fun gate hgate => hregular.role payload gate hsigned husable hgate
      · rintro ⟨gate, hgate, hpending, hauth⟩
        exact hregular.run payload gate hsigned husable hgate hpending hauth
  · have hnot : ∀ payload, verify_token crypto args.raw_token args.signing_key ≠ .ok (.ok payload) :=
      fun payload hverify => hverified ⟨payload, hverify⟩
    have hunsigned : ∀ payload, ¬ Signed crypto.payloads args.raw_token args.signing_key payload := by
      intro payload hsigned
      rw [← verify_object_ok, verify_object_payloads] at hsigned
      exact hnot payload hsigned
    obtain ⟨e, w', hrun, -, hrefusal⟩ := resolve_gate_unverified env w hnot
    rw [verify_token_returns_iff] at hrefusal
    constructor
    · rintro ⟨-, hparts⟩
      exact ⟨hparts, fun payload _ hsigned => absurd hsigned (hunsigned payload),
        fun payload _ hsigned => absurd hsigned (hunsigned payload)⟩
    · intro hregular
      refine ⟨?_, hregular.parts⟩
      intro e' he'
      rw [hrun] at he'
      cases he'
      exact hrefusal.mpr hregular.parts

/-- A signature part that is not ASCII text, as it may stand in an e-mail link: `compare_digest` raises a
    `TypeError`, and neither `verify_token` nor `resolve_gate` catches it. Nor do they catch the
    `UnicodeEncodeError` for a surrogate in the first part. -/
theorem accented_signature_raises :
    let call (raw_token : PyStr) :=
      { resolve_with (first_token (signature_waiting 1)) .approve "attorney" with raw_token := raw_token }
    (verify_token reference_crypto "e30.é" reference_engine.signing_key =
      .error (.type_error "comparing strings with non-ASCII characters is not supported") ∧
    ((resolve_gate reference_crypto (call "e30.é")).run (exec reference_env) (signature_waiting 1)).1 =
      .error (.type_error "comparing strings with non-ASCII characters is not supported")) ∧
    ((resolve_gate reference_crypto (call (.surrogate 0 :: PyStr.of_text ".abc"))).run
        (exec reference_env) (signature_waiting 1)).1 =
      .error (.other "UnicodeEncodeError" ("'utf-8' codec can't encode character '\\ud800' in position 0: " ++
        "surrogates not allowed")) := by
  have hsplit : split_dot "e30.é" = some (PyStr.of_text "e30", PyStr.of_text "é") := by decide +kernel
  have hverify : verify_token reference_crypto "e30.é" reference_engine.signing_key =
      .error (.type_error "comparing strings with non-ASCII characters is not supported") := by
    have hascii : is_ascii "é" = false := by decide +kernel
    unfold verify_token
    rw [hsplit]
    simp [sign_of_text, Bind.bind, Except.bind, compare_digest, hascii]
  have hsurrogate : verify_token reference_crypto (.surrogate 0 :: PyStr.of_text ".abc")
      reference_engine.signing_key = .error (.other "UnicodeEncodeError"
        ("'utf-8' codec can't encode character '\\ud800' in position 0: " ++ "surrogates not allowed")) := by
    rfl
  -- what `verify_token` raises, `resolve_gate` raises
  have hraises : ∀ (args : ResolveArgs) (w : World) (e : Exn),
      verify_token reference_crypto args.raw_token args.signing_key = .error e →
      ((resolve_gate reference_crypto args).run (exec reference_env) w).1 = .error e := by
    intro args w e h
    unfold resolve_gate
    rw [h]
    rfl
  exact ⟨⟨hverify, hraises _ _ _ hverify⟩, hraises _ _ _ hsurrogate⟩

end CaseAutomation.Orchestrator
