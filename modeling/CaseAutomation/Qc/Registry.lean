import CaseAutomation.Base.Errors
import CaseAutomation.Framework.Dict
import Mathlib.Data.List.Perm.Basic

/-! # The QC Registry

    `qc/registry.py`: checks are registered under distinct ids, selected for a packet, run one
    by one under a time limit, and their verdicts aggregated. A check that raises, times out,
    returns nothing or leaves its severity policy counts as failed.

    What the checks read of a packet and of the configuration is a parameter
    (`Content`, `Settings`); durations, time stamps and the configuration fingerprint are
    left out of the report.
-/

namespace CaseAutomation.Qc

open Framework

/-! ## Verdicts -/

inductive Verdict where
  | PASS
  | WARN
  | FAIL
  | SKIPPED
  deriving DecidableEq, Repr

inductive Aggregate where
  | PASS
  | PASS_WITH_WARNINGS
  | BLOCK
  deriving DecidableEq, Repr

inductive SkipReason where
  | NOT_APPLICABLE
  | FIELD_ABSENT
  | DISABLED
  | UNSUPPORTED_PACKET_KIND
  deriving DecidableEq, Repr

/-- `repr` of a `Verdict` member. -/
def Verdict.repr : Verdict → String
  | .PASS => "<Verdict.PASS: 'pass'>"
  | .WARN => "<Verdict.WARN: 'warn'>"
  | .FAIL => "<Verdict.FAIL: 'fail'>"
  | .SKIPPED => "<Verdict.SKIPPED: 'skipped'>"

/-- Which verdicts a check may emit. -/
structure SeverityPolicy where
  allowed : List Verdict

def SeverityPolicy.allows (policy : SeverityPolicy) (verdict : Verdict) : Bool :=
  decide (verdict ∈ policy.allowed) || decide (verdict = .SKIPPED)

def FAIL_OR_PASS : SeverityPolicy := ⟨[.PASS, .FAIL, .SKIPPED]⟩

def WARN_OR_FAIL_OR_PASS : SeverityPolicy := ⟨[.PASS, .WARN, .FAIL, .SKIPPED]⟩

/-- Result from running one check. -/
structure CheckResult where
  check_id : String
  check_version : String
  verdict : Verdict
  reason : String
  evidence : JsonObj
  skip_reason : Option SkipReason

/-! ## Packets and checks -/

inductive PacketKind where
  | EMAIL_SEND
  | DOCUMENT_GENERATE
  | DOCUMENT_ROUTE
  | INTAKE_FINALIZE
  | GENERIC
  deriving DecidableEq, Repr

def PacketKind.value : PacketKind → String
  | .EMAIL_SEND => "email_send"
  | .DOCUMENT_GENERATE => "document_generate"
  | .DOCUMENT_ROUTE => "document_route"
  | .INTAKE_FINALIZE => "intake_finalize"
  | .GENERIC => "generic"

/-- The unit that the checks receive. -/
structure VerificationPacket (Content : Type) where
  packet_id : String
  run_id : Option String
  kind : PacketKind
  content : Content

structure QCConfig (Settings : Type) where
  check_timeout_ms : PyFloat
  settings : Settings

/-- What becomes of a call of `check.run` under the time limit. -/
inductive Behaviour where
  | returned (result : Option CheckResult)
  | raised (exn : Exn)
  | timed_out

section registry
variable {Content Settings : Type}

/-- A check. -/
structure Check (Content Settings : Type) where
  id : String
  version : String
  /-- The packet kinds it applies to; `None` means all. -/
  applies_to : Option (List String)
  severity_policy : SeverityPolicy
  run : VerificationPacket Content → QCConfig Settings → Behaviour

/-- `_REGISTRY`: every check is filed under its own id. -/
structure Registry (Content Settings : Type) where
  checks : Dict String (Check Content Settings)
  keyed : ∀ id check, checks.get? id = some check → check.id = id

/-- `clear_registry`. -/
def Registry.empty : Registry Content Settings where
  checks := ∅
  keyed := by
    intro id check h
    cases h

/-- `register_check`. -/
def register_check (registry : Registry Content Settings) (check : Check Content Settings) :
    Except Exn (Registry Content Settings) :=
  match registry.checks.get? check.id with
  | some _ => .error (.other "RuntimeError" ("Check " ++ repr_str check.id ++
      " is already registered. Duplicate ids are not allowed (spec §6)."))
  | none => .ok
    { checks := registry.checks.set check.id check
      keyed := by
        intro id found h
        rcases Dict.get?_set_cases h with ⟨rfl, rfl⟩ | ⟨-, hold⟩
        · rfl
        · exact registry.keyed id found hold }

/-- Whether a check applies to packets of this kind. -/
def Check.applies (check : Check Content Settings) (packet_kind : String) : Bool :=
  match check.applies_to with
  | none => true
  | some kinds => decide (packet_kind ∈ kinds)

/-- `applicable_checks`: id-sorted for stable order. -/
def applicable_checks (registry : Registry Content Settings) (packet_kind : String) :
    List (Check Content Settings) :=
  (registry.checks.values.filter fun check => check.applies packet_kind).mergeSort
    fun a b => decide (a.id ≤ b.id)

/-! ## Running one check -/

/-- `_run_with_timeout`: the result or the exception of the thread. -/
def run_with_timeout (timeout_ms : PyFloat) : Behaviour → Option CheckResult × Option Exn
  | .returned result => (result, none)
  | .raised exn => (none, some exn)
  | .timed_out => (none, some (.other "TimeoutError"
      ("Check timed out after " ++ timeout_ms.repr ++ "ms.")))

/-- The result in place of a verdict outside the policy. -/
def policy_violation (check : Check Content Settings) (verdict : Verdict) : CheckResult where
  check_id := check.id
  check_version := check.version
  verdict := .FAIL
  reason := "Check emitted " ++ verdict.repr ++ " outside its declared severity policy."
  evidence := []
  skip_reason := none

/-- The result in place of an exception. -/
def check_errored (check : Check Content Settings) (exn : Exn) : CheckResult where
  check_id := check.id
  check_version := check.version
  verdict := .FAIL
  reason := "check errored"
  evidence := [("error_type", .str exn.class_name)]
  skip_reason := none

/-- The body of the loop of `run_checks`. -/
def run_check (packet : VerificationPacket Content) (cfg : QCConfig Settings)
    (check : Check Content Settings) : CheckResult :=
  match run_with_timeout cfg.check_timeout_ms (check.run packet cfg) with
  | (_, some exc) => check_errored check exc
  -- `assert result is not None`
  | (none, none) => check_errored check .assertion_error
  | (some result, none) =>
    if result.verdict ≠ .SKIPPED ∧ check.severity_policy.allows result.verdict = false then
      policy_violation check result.verdict
    else result

/-! ## The report -/

structure QCReport where
  packet_id : String
  run_id : Option String
  results : List CheckResult
  aggregate : Aggregate
  checks_selected : List String
  checks_skipped : Dict String SkipReason

/-- `_aggregate`: any fail blocks; else any warning is reported; else pass. -/
def aggregate (results : List CheckResult) : Aggregate :=
  if results.any fun r => decide (r.verdict = .FAIL) then .BLOCK
  else if results.any fun r => decide (r.verdict = .WARN) then .PASS_WITH_WARNINGS
  else .PASS

/-- `{c.id: c for c in all_applicable}`. -/
def applicable_map (checks : List (Check Content Settings)) : Dict String (Check Content Settings) :=
  checks.foldl (fun found check => found.set check.id check) ∅

/-- The loop over the requested ids, in either direction of its `if`. -/
def select (applicable : Dict String (Check Content Settings)) :
    List String → List (Check Content Settings) × Dict String SkipReason →
      List (Check Content Settings) × Dict String SkipReason
  | [], found => found
  | cid :: rest, (selected, skipped) =>
    match applicable.get? cid with
    | some check => select applicable rest (selected ++ [check], skipped)
    | none => select applicable rest (selected, skipped.set cid .UNSUPPORTED_PACKET_KIND)

/-- The checks to run, and the requested ids that do not apply. -/
def selection (registry : Registry Content Settings) (packet : VerificationPacket Content)
    (requested_ids : Option (List String)) :
    List (Check Content Settings) × Dict String SkipReason :=
  let all_applicable := applicable_checks registry packet.kind.value
  match requested_ids with
  | some ids => select (applicable_map all_applicable) ids ([], ∅)
  | none => (all_applicable, ∅)

/-- What a result adds to the skipped checks. -/
def note_skip (skipped : Dict String SkipReason)
    (done : Check Content Settings × CheckResult) : Dict String SkipReason :=
  match done.2.skip_reason with
  | some reason => skipped.set done.1.id reason
  | none => skipped

/-- `run_checks`. -/
def run_checks (registry : Registry Content Settings) (packet : VerificationPacket Content)
    (requested_ids : Option (List String)) (cfg : QCConfig Settings) : QCReport :=
  let (selected, skipped) := selection registry packet requested_ids
  let results := selected.map (run_check packet cfg)
  { packet_id := packet.packet_id
    run_id := packet.run_id
    results := results
    aggregate := aggregate results
    checks_selected := selected.map Check.id
    checks_skipped := (selected.zip results).foldl note_skip skipped }

/-! ## Which checks are selected -/

/-- A registry holds one check for each id. -/
theorem Registry.unique (registry : Registry Content Settings) {a b : Check Content Settings}
    (ha : a ∈ registry.checks.values) (hb : b ∈ registry.checks.values) (hid : a.id = b.id) :
    a = b := by
  obtain ⟨ka, hka⟩ := Dict.mem_values_iff.mp ha
  obtain ⟨kb, hkb⟩ := Dict.mem_values_iff.mp hb
  have hsame : ka = kb := by
    rw [← registry.keyed ka a hka, ← registry.keyed kb b hkb, hid]
  rw [hsame, hkb] at hka
  exact (Option.some.inj hka).symm

theorem mem_applicable_checks {registry : Registry Content Settings} {packet_kind : String}
    {check : Check Content Settings} : check ∈ applicable_checks registry packet_kind ↔
      check ∈ registry.checks.values ∧ check.applies packet_kind = true := by
  unfold applicable_checks
  rw [List.mem_mergeSort, List.mem_filter]

/-- The map holds what was put in, if no two checks have the same id. -/
theorem applicable_map_get? {checks : List (Check Content Settings)}
    (hunique : ∀ a ∈ checks, ∀ b ∈ checks, a.id = b.id → a = b)
    {found : Dict String (Check Content Settings)} {cid : String} {check : Check Content Settings} :
    (checks.foldl (fun found check => found.set check.id check) found).get? cid = some check ↔
      (check ∈ checks ∧ check.id = cid) ∨
        ((∀ c ∈ checks, c.id ≠ cid) ∧ found.get? cid = some check) := by
  rw [Dict.get?_foldl_set]
  cases hlast : checks.reverse.find? fun c => decide (c.id = cid) with
  | none =>
    have hnone : ∀ c ∈ checks, c.id ≠ cid := by
      intro c hc
      simpa using List.find?_eq_none.mp hlast c (List.mem_reverse.mpr hc)
    constructor
    · intro hfound
      exact Or.inr ⟨hnone, by simpa using hfound⟩
    · rintro (⟨hmem, hid⟩ | ⟨-, hfound⟩)
      · exact absurd hid (hnone check hmem)
      · simpa using hfound
  | some last =>
    -- it was put in under its id, and no other check has that
    have hid : last.id = cid := by simpa using List.find?_some hlast
    have hmem : last ∈ checks := List.mem_reverse.mp (List.mem_of_find?_eq_some hlast)
    constructor
    · intro hsame
      obtain rfl : last = check := Option.some.inj hsame
      exact Or.inl ⟨hmem, hid⟩
    · rintro (⟨hcheck, hcid⟩ | ⟨hnone, -⟩)
      · rw [hunique last hmem check hcheck (hid.trans hcid.symm)]
        rfl
      · exact absurd hid (hnone last hmem)

theorem get?_applicable_map (registry : Registry Content Settings) (packet_kind : String)
    {cid : String} {check : Check Content Settings} :
    (applicable_map (applicable_checks registry packet_kind)).get? cid = some check ↔
      check ∈ applicable_checks registry packet_kind ∧ check.id = cid := by
  unfold applicable_map
  rw [applicable_map_get?]
  · simp
  · intro a ha b hb hid
    exact registry.unique (mem_applicable_checks.mp ha).1 (mem_applicable_checks.mp hb).1 hid

/-- The loop selects the ids that apply, in the order of the request. -/
theorem select_selected (applicable : Dict String (Check Content Settings)) (ids : List String)
    (selected : List (Check Content Settings)) (skipped : Dict String SkipReason) :
    (select applicable ids (selected, skipped)).1 = selected ++ ids.filterMap applicable.get? := by
  induction ids generalizing selected skipped with
  | nil => simp [select]
  | cons cid rest ih =>
    unfold select
    cases hget : applicable.get? cid with
    | some check =>
      rw [ih, List.filterMap_cons_some hget, List.append_assoc, List.singleton_append]
    | none => rw [ih, List.filterMap_cons_none hget]

/-- The loop notes the ids that do not apply, and forgets none. -/
theorem select_skipped (applicable : Dict String (Check Content Settings)) (ids : List String)
    (selected : List (Check Content Settings)) (skipped : Dict String SkipReason) (cid : String)
    (h : cid ∈ skipped.keys ∨ (cid ∈ ids ∧ applicable.get? cid = none)) :
    cid ∈ (select applicable ids (selected, skipped)).2.keys := by
  induction ids generalizing selected skipped with
  | nil => simpa [select] using h
  | cons first rest ih =>
    unfold select
    cases hget : applicable.get? first with
    | some check =>
      apply ih
      rcases h with hold | ⟨hmem, hnone⟩
      · exact Or.inl hold
      · rcases List.mem_cons.mp hmem with rfl | hmem
        · rw [hget] at hnone
          cases hnone
        · exact Or.inr ⟨hmem, hnone⟩
    | none =>
      apply ih
      rw [Dict.mem_keys_set]
      rcases h with hold | ⟨hmem, hnone⟩
      · exact Or.inl (Or.inr hold)
      · rcases List.mem_cons.mp hmem with rfl | hmem
        · exact Or.inl (Or.inl rfl)
        · exact Or.inr ⟨hmem, hnone⟩

/-- **What is selected**: the registered checks that apply and, given a request, are in it. -/
theorem mem_selection {registry : Registry Content Settings} {packet : VerificationPacket Content}
    {requested_ids : Option (List String)} {check : Check Content Settings} :
    check ∈ (selection registry packet requested_ids).1 ↔
      check ∈ registry.checks.values ∧ check.applies packet.kind.value = true ∧
        ∀ ids, requested_ids = some ids → check.id ∈ ids := by
  cases requested_ids with
  | none => simp [selection, mem_applicable_checks]
  | some ids =>
    simp only [selection, select_selected, List.nil_append, List.mem_filterMap,
      get?_applicable_map, mem_applicable_checks, Option.some.injEq]
    constructor
    · rintro ⟨cid, hcid, ⟨hmem, happlies⟩, rfl⟩
      refine ⟨hmem, happlies, ?_⟩
      rintro ids' rfl
      exact hcid
    · rintro ⟨hmem, happlies, hids⟩
      exact ⟨check.id, hids ids rfl, ⟨hmem, happlies⟩, rfl⟩

/-- Results add to the skipped checks. -/
theorem note_skip_grows (done : List (Check Content Settings × CheckResult))
    (skipped : Dict String SkipReason) {cid : String} (h : cid ∈ skipped.keys) :
    cid ∈ (done.foldl note_skip skipped).keys := by
  induction done generalizing skipped with
  | nil => exact h
  | cons first rest ih =>
    apply ih
    unfold note_skip
    split
    · rw [Dict.mem_keys_set]
      exact Or.inr h
    · exact h

/-! ## Verdicts and the aggregate -/

/-- The check counts as failed: it says so, leaves its policy, or has nothing to say. -/
def Blocks (check : Check Content Settings) : Behaviour → Prop
  | .returned (some result) => result.verdict = .FAIL ∨
      (result.verdict ≠ .SKIPPED ∧ result.verdict ∉ check.severity_policy.allowed)
  | .returned none => True
  | .raised _ => True
  | .timed_out => True

/-- The check warns, as its policy allows. -/
def Warns (check : Check Content Settings) : Behaviour → Prop
  | .returned (some result) => result.verdict = .WARN ∧ .WARN ∈ check.severity_policy.allowed
  | _ => False

theorem allows_eq_false {policy : SeverityPolicy} {verdict : Verdict} :
    policy.allows verdict = false ↔ verdict ∉ policy.allowed ∧ verdict ≠ .SKIPPED := by
  simp [SeverityPolicy.allows]

/-- One check, fail-closed. -/
theorem run_check_fail_iff (packet : VerificationPacket Content) (cfg : QCConfig Settings)
    (check : Check Content Settings) :
    (run_check packet cfg check).verdict = .FAIL ↔ Blocks check (check.run packet cfg) := by
  unfold run_check
  cases check.run packet cfg with
  | raised exn => simp [run_with_timeout, check_errored, Blocks]
  | timed_out => simp [run_with_timeout, check_errored, Blocks]
  | returned result =>
    cases result with
    | none => simp [run_with_timeout, check_errored, Blocks]
    | some result =>
      show (if result.verdict ≠ .SKIPPED ∧ check.severity_policy.allows result.verdict = false then
        policy_violation check result.verdict else result).verdict = .FAIL ↔ _
      simp only [allows_eq_false]
      split
      · next h => simp [policy_violation, Blocks, h.1, h.2.1]
      · next h =>
        have hinside : ¬ (result.verdict ≠ .SKIPPED ∧
            result.verdict ∉ check.severity_policy.allowed) :=
          fun hout => h ⟨hout.1, hout.2, hout.1⟩
        simp only [Blocks, hinside, or_false]

theorem run_check_warn_iff (packet : VerificationPacket Content) (cfg : QCConfig Settings)
    (check : Check Content Settings) :
    (run_check packet cfg check).verdict = .WARN ↔ Warns check (check.run packet cfg) := by
  unfold run_check
  cases check.run packet cfg with
  | raised exn => simp [run_with_timeout, check_errored, Warns]
  | timed_out => simp [run_with_timeout, check_errored, Warns]
  | returned result =>
    cases result with
    | none => simp [run_with_timeout, check_errored, Warns]
    | some result =>
      show (if result.verdict ≠ .SKIPPED ∧ check.severity_policy.allows result.verdict = false then
        policy_violation check result.verdict else result).verdict = .WARN ↔ _
      simp only [allows_eq_false]
      split
      · next h =>
        have hnot : ¬ Warns check (.returned (some result)) := by
          rintro ⟨hwarn, hallowed⟩
          exact h.2.1 (hwarn ▸ hallowed)
        simp [policy_violation, hnot]
      · next h =>
        constructor
        · intro hwarn
          refine ⟨hwarn, ?_⟩
          by_contra hout
          exact h ⟨by simp [hwarn], by rwa [hwarn], by simp [hwarn]⟩
        · intro hwarns
          exact hwarns.1

theorem aggregate_block_iff (results : List CheckResult) :
    aggregate results = .BLOCK ↔ ∃ r ∈ results, r.verdict = .FAIL := by
  unfold aggregate
  by_cases hfail : ∃ r ∈ results, r.verdict = .FAIL
  · simp [hfail]
  · have hany : results.any (fun r => decide (r.verdict = .FAIL)) = false := by
      rw [List.any_eq_false]
      intro r hr
      simpa using fun hf => hfail ⟨r, hr, hf⟩
    rw [hany]
    simp only [Bool.false_eq_true, if_false, hfail, iff_false]
    split <;> simp

theorem aggregate_warn_iff (results : List CheckResult) :
    aggregate results = .PASS_WITH_WARNINGS ↔
      (¬ ∃ r ∈ results, r.verdict = .FAIL) ∧ ∃ r ∈ results, r.verdict = .WARN := by
  rw [← aggregate_block_iff]
  unfold aggregate
  by_cases hfail : results.any (fun r => decide (r.verdict = .FAIL)) = true
  · simp [hfail]
  · rw [if_neg hfail]
    by_cases hwarn : results.any (fun r => decide (r.verdict = .WARN)) = true
    · rw [if_pos hwarn]
      simpa using hwarn
    · rw [if_neg hwarn]
      simpa using hwarn

/-! ## The report as a whole -/

section report
variable (registry : Registry Content Settings) (packet : VerificationPacket Content)
  (requested_ids : Option (List String)) (cfg : QCConfig Settings)

theorem report_block_iff : (run_checks registry packet requested_ids cfg).aggregate = .BLOCK ↔
    ∃ check ∈ (selection registry packet requested_ids).1, Blocks check (check.run packet cfg) := by
  show aggregate ((selection registry packet requested_ids).1.map (run_check packet cfg)) = .BLOCK ↔ _
  rw [aggregate_block_iff]
  simp [run_check_fail_iff]

theorem report_warn_iff :
    (run_checks registry packet requested_ids cfg).aggregate = .PASS_WITH_WARNINGS ↔
      (¬ ∃ check ∈ (selection registry packet requested_ids).1, Blocks check (check.run packet cfg)) ∧
        ∃ check ∈ (selection registry packet requested_ids).1, Warns check (check.run packet cfg) := by
  show aggregate ((selection registry packet requested_ids).1.map (run_check packet cfg)) =
    .PASS_WITH_WARNINGS ↔ _
  rw [aggregate_warn_iff]
  simp [run_check_fail_iff, run_check_warn_iff]

theorem report_pass_iff : (run_checks registry packet requested_ids cfg).aggregate = .PASS ↔
    (¬ ∃ check ∈ (selection registry packet requested_ids).1, Blocks check (check.run packet cfg)) ∧
      ¬ ∃ check ∈ (selection registry packet requested_ids).1, Warns check (check.run packet cfg) := by
  have hblock := report_block_iff registry packet requested_ids cfg
  have hwarn := report_warn_iff registry packet requested_ids cfg
  cases hreport : (run_checks registry packet requested_ids cfg).aggregate with
  | BLOCK => simp [hblock.mp hreport]
  | PASS_WITH_WARNINGS => simp [(hwarn.mp hreport).2]
  | PASS =>
    rw [hreport] at hblock hwarn
    have hfree : ¬ ∃ check ∈ (selection registry packet requested_ids).1,
        Blocks check (check.run packet cfg) := by
      intro h
      cases hblock.mpr h
    refine ⟨fun _ => ⟨hfree, ?_⟩, fun _ => rfl⟩
    intro h
    cases hwarn.mpr ⟨hfree, h⟩

/-- The aggregate looks only at which checks are selected. -/
theorem report_aggregate_congr {registry' : Registry Content Settings}
    {requested_ids' : Option (List String)}
    (h : ∀ check, check ∈ (selection registry' packet requested_ids').1 ↔
      check ∈ (selection registry packet requested_ids).1) :
    (run_checks registry' packet requested_ids' cfg).aggregate =
      (run_checks registry packet requested_ids cfg).aggregate := by
  cases hreport : (run_checks registry packet requested_ids cfg).aggregate with
  | BLOCK =>
    rw [report_block_iff] at hreport ⊢
    simpa only [h] using hreport
  | PASS_WITH_WARNINGS =>
    rw [report_warn_iff] at hreport ⊢
    simpa only [h] using hreport
  | PASS =>
    rw [report_pass_iff] at hreport ⊢
    simpa only [h] using hreport

/-- A requested id is selected, or noted as skipped. -/
theorem requested_covered {requested_ids : Option (List String)} {ids : List String}
    (hids : requested_ids = some ids) (cfg : QCConfig Settings) {cid : String} (hcid : cid ∈ ids) :
    cid ∈ (run_checks registry packet requested_ids cfg).checks_selected ∨
      cid ∈ (run_checks registry packet requested_ids cfg).checks_skipped.keys := by
  subst hids
  cases hget : (applicable_map (applicable_checks registry packet.kind.value)).get? cid with
  | some check =>
    left
    obtain ⟨hmem, rfl⟩ := (get?_applicable_map registry packet.kind.value).mp hget
    obtain ⟨hvalues, happlies⟩ := mem_applicable_checks.mp hmem
    have hselected : check ∈ (selection registry packet (some ids)).1 := by
      refine mem_selection.mpr ⟨hvalues, happlies, ?_⟩
      intro ids' hids'
      cases hids'
      exact hcid
    exact List.mem_map_of_mem hselected
  | none =>
    right
    apply note_skip_grows
    exact select_skipped _ ids [] ∅ cid (Or.inr ⟨hcid, hget⟩)

end report

/-- **QC is total and fail-closed.** One result for each selected check in the order of
    selection; every requested id is accounted for; and the aggregate depends on what the selected
    checks did, not on the order in which they were registered or requested. -/
theorem qc_total_and_fail_closed (registry : Registry Content Settings)
    (packet : VerificationPacket Content) (requested_ids : Option (List String))
    (cfg : QCConfig Settings) :
    let selected := (selection registry packet requested_ids).1
    let report := run_checks registry packet requested_ids cfg
    report.checks_selected = selected.map Check.id ∧
    report.results = selected.map (run_check packet cfg) ∧
    (∀ ids, requested_ids = some ids → ∀ cid ∈ ids,
      cid ∈ report.checks_selected ∨ cid ∈ report.checks_skipped.keys) ∧
    (report.aggregate = .BLOCK ↔ ∃ check ∈ selected, Blocks check (check.run packet cfg)) ∧
    (report.aggregate = .PASS_WITH_WARNINGS ↔
      (¬ ∃ check ∈ selected, Blocks check (check.run packet cfg)) ∧
        ∃ check ∈ selected, Warns check (check.run packet cfg)) ∧
    (report.aggregate = .PASS ↔
      (¬ ∃ check ∈ selected, Blocks check (check.run packet cfg)) ∧
        ¬ ∃ check ∈ selected, Warns check (check.run packet cfg)) ∧
    ∀ (registry' : Registry Content Settings) (requested_ids' : Option (List String)),
      registry'.checks.values.Perm registry.checks.values →
      Option.Rel List.Perm requested_ids' requested_ids →
      (run_checks registry' packet requested_ids' cfg).aggregate = report.aggregate := by
  intro selected report
  refine ⟨rfl, rfl, ?_, report_block_iff registry packet requested_ids cfg,
    report_warn_iff registry packet requested_ids cfg, report_pass_iff registry packet requested_ids cfg,
    ?_⟩
  · intro ids hids cid hcid
    exact requested_covered registry packet hids cfg hcid
  · intro registry' requested_ids' hregistry hrequested
    apply report_aggregate_congr
    intro check
    rw [mem_selection, mem_selection, hregistry.mem_iff]
    have hids : (∀ ids, requested_ids' = some ids → check.id ∈ ids) ↔
        ∀ ids, requested_ids = some ids → check.id ∈ ids := by
      cases hrequested with
      | none => simp
      | some hperm => simp [hperm.mem_iff]
    rw [hids]

end registry

end CaseAutomation.Qc
