import CaseAutomation.Routing.Service
import Mathlib.Algebra.Order.Ring.Unbundled.Rat

/-! # Histories of Routing Calls

    One service, any sequence of calls. A call is decided once: the decision is filed under the
    derived key before the call returns, also when the move has failed, and every later call
    with that key replays it.

    * The document store is asked at most once for each key, and only for calls that may be filed. Where the
      threshold is `nan`, no confidence is below it.
    * The replayed verdict is the verdict on the *first* call with that key, which need not be
      about a privileged document or an external recipient.
-/

namespace CaseAutomation.Routing

open Framework Domain

/-- The event is a call of `docstore.move`. -/
def Event.is_move : Event → Bool
  | .move _ _ _ => true
  | .audited _ _ _ _ => false

/-- How often the document store was asked to move a document. -/
def RoutingState.move_count (s : RoutingState) : Nat := s.log.countP Event.is_move

namespace RoutingService

variable (service : RoutingService)

/-- The state after a sequence of calls. -/
def after (s : RoutingState) (calls : List RouteCall) : RoutingState :=
  calls.foldl (fun s call => (service.route call s).2) s

/-- The calls of `docstore.move` in a sequence, each given by the call of `route` that makes it. -/
def moves : List RouteCall → RoutingState → List RouteCall
  | [], _ => []
  | call :: rest, s =>
    List.replicate ((service.route call s).2.move_count - s.move_count) call ++
      moves rest (service.route call s).2

end RoutingService

/-! ## What one call does -/

/-- The call may be filed. -/
structure Fileable (service : RoutingService) (call : RouteCall) : Prop where
  internal : ¬ (call.document.privileged = true ∧ call.recipient_id ≠ none)
  classified : ∃ class_name confidence source, class_name ≠ "unknown" ∧
    classify service.platform service.config call.document call.extraction_fields =
      .ok (class_name, confidence, source) ∧
    (service.config.classification_threshold ≤ confidence ∨
      service.config.classification_threshold = .nan) ∧
    (resolve service.config class_name (some call.matter) call.options.force_review).kind = .folder
  unforced : call.options.force_review = false
  real : call.options.dry_run = false

section call
variable {service : RoutingService} {call : RouteCall} {s : RoutingState}

/-- A running maximum that starts with a number is a number: `nan` is above nothing. -/
theorem best_field_ne_nan {classes : List String} {fields : List ExtractionField}
    {best best' : Option String × FloatValue} (hbest : best.2 ≠ .nan)
    (h : best_field classes fields best = .ok best') : best'.2 ≠ .nan := by
  induction fields generalizing best with
  | nil =>
    obtain rfl := Except.ok.inj h
    exact hbest
  | cons field rest ih =>
    obtain ⟨best_class, best_confidence⟩ := best
    obtain ⟨conf, -, h⟩ := ok_of_bind h
    obtain ⟨found, -, h⟩ := ok_of_bind h
    cases found with
    | none => exact ih hbest h
    | some field_class =>
      simp only at h
      by_cases hhigher : best_confidence < conf
      · rw [if_pos hhigher] at h
        refine ih ?_ h
        rintro rfl
        exact FloatValue.not_lt_nan hhigher
      · rw [if_neg hhigher] at h
        exact ih hbest h

/-- The classifier answers with a number. -/
theorem classify_ne_nan {platform : Platform} {cfg : RoutingConfig} {document : Document}
    {fields : Option (List ExtractionField)} {class_name : String} {confidence : FloatValue}
    {source : ClassificationSource}
    (h : classify platform cfg document fields = .ok (class_name, confidence, source)) :
    confidence ≠ .nan := by
  unfold classify classify_among at h
  split at h
  · cases h
    exact nofun
  split at h
  · cases h
    exact nofun
  obtain ⟨⟨best_class, best_confidence⟩, hbest, h⟩ := ok_of_bind h
  have hzero : (0 : FloatValue) ≠ .nan := nofun
  have hnumber : best_confidence ≠ .nan := best_field_ne_nan hzero hbest
  cases best_class with
  | none =>
    cases h
    exact nofun
  | some c =>
    simp only at h
    split at h
    · cases h
      exact hnumber
    · cases h
      exact nofun

theorem check_privilege_fail_iff (document : Document) (recipient_id : Option String) :
    (check_privilege document recipient_id recipient_id.isSome).verdict = .fail ↔
      document.privileged = true ∧ recipient_id ≠ none := by
  cases recipient_id with
  | none => simp [check_privilege]
  | some r =>
    cases hpriv : document.privileged with
    | false => simp [check_privilege, hpriv]
    | true => simp [check_privilege, hpriv]

/-- What a plan is made of. -/
theorem plan_ok {decision : RoutingDecision} {acl : ACL}
    (h : service.plan call = .ok (decision, acl)) : ∃ class_name confidence source doc_name,
      classify service.platform service.config call.document call.extraction_fields =
        .ok (class_name, confidence, source) ∧
      decision = service.draft call class_name confidence source doc_name := by
  unfold RoutingService.plan at h
  cases hclass : classify service.platform service.config call.document call.extraction_fields with
  | error e =>
    rw [hclass] at h
    cases h
  | ok found =>
    obtain ⟨class_name, confidence, source⟩ := found
    rw [hclass] at h
    simp only [bind, Except.bind] at h
    split at h
    · cases h
    · next doc_name _ =>
      simp only [pure, Except.pure, Except.ok.injEq, Prod.mk.injEq] at h
      exact ⟨class_name, confidence, source, doc_name, rfl, h.1.symm⟩

/-- What the plan says about privilege. -/
theorem plan_verdict {decision : RoutingDecision} {acl : ACL}
    (h : service.plan call = .ok (decision, acl)) :
    decision.idempotency_key = service.idem_key call ∧
    decision.privileged = call.document.privileged ∧
    (decision.gate_verdict = .fail ↔ call.document.privileged = true ∧ call.recipient_id ≠ none) := by
  obtain ⟨class_name, confidence, source, doc_name, -, rfl⟩ := plan_ok h
  exact ⟨rfl, rfl, check_privilege_fail_iff call.document call.recipient_id⟩

/-- A plan that leads to a folder is one for a call that may be filed. -/
theorem plan_fileable {decision : RoutingDecision} {acl : ACL}
    (h : service.plan call = .ok (decision, acl)) (hgate : decision.gate_verdict ≠ .fail)
    (hkind : decision.destination.kind ≠ .review_queue) (hdry : call.options.dry_run = false) :
    Fileable service call := by
  have hinternal := mt (plan_verdict h).2.2.mpr hgate
  obtain ⟨class_name, confidence, source, doc_name, hclass, rfl⟩ := plan_ok h
  -- a forced review or a doubtful class would have led to the queue
  simp only [RoutingService.draft] at hkind
  cases hforce : call.options.force_review with
  | true => simp [resolve, hforce] at hkind
  | false =>
    by_cases hlow : class_name = "unknown" ∨ confidence < service.config.classification_threshold
    · simp [resolve, hlow] at hkind
    · rw [not_or] at hlow
      have hnot : (decide (class_name = "unknown") ||
          decide (confidence < service.config.classification_threshold)) = false := by
        simp [hlow.1, hlow.2]
      rw [hforce, hnot, Bool.or_false] at hkind
      -- the confidence is a number, so that only a threshold that is none is not reached
      have hsure : service.config.classification_threshold ≤ confidence ∨
          service.config.classification_threshold = .nan := by
        rcases FloatValue.le_of_not_lt hlow.2 with hreached | hnan | hnan
        · exact .inl hreached
        · exact absurd hnan (classify_ne_nan hclass)
        · exact .inr hnan
      refine ⟨hinternal, ⟨class_name, confidence, source, hlow.1, hclass, hsure, ?_⟩, hforce, hdry⟩
      rw [hforce]
      cases hres : (resolve service.config class_name (some call.matter) false).kind with
      | folder => rfl
      | review_queue => exact absurd hres hkind

/-- Audits move nothing and decide nothing. -/
theorem write_audit_keeps (service : RoutingService) (call : RouteCall) (decision : RoutingDecision)
    (outcome : Outcome) (s : RoutingState) :
    (service.write_audit call decision outcome s).decisions = s.decisions ∧
      (service.write_audit call decision outcome s).move_count = s.move_count := by
  unfold RoutingService.write_audit
  split
  · refine ⟨rfl, ?_⟩
    simp [RoutingState.move_count, Event.is_move]
  · exact ⟨rfl, rfl⟩

/-- The decision is filed under its key and returned. -/
theorem conclude_spec (call : RouteCall) (decision : RoutingDecision) (outcome : Outcome)
    (s : RoutingState) (hkey : decision.idempotency_key = service.idem_key call) :
    (service.conclude call (decision.ending outcome) s).1 =
      decision_to_result (decision.ending outcome) outcome (service.idem_key call) ∧
    (service.conclude call (decision.ending outcome) s).2.decisions =
      s.decisions.set (service.idem_key call) (decision.ending outcome) ∧
    (service.conclude call (decision.ending outcome) s).2.move_count = s.move_count := by
  obtain ⟨hdecisions, hcount⟩ := write_audit_keeps service call (decision.ending outcome) outcome
    { s with decisions := s.decisions.set decision.idempotency_key (decision.ending outcome) }
  rw [← hkey]
  exact ⟨rfl, hdecisions, hcount⟩

/-- **What a call of `route` can do**: replay, raise, or decide. -/
theorem route_cases (service : RoutingService) (call : RouteCall) (s : RoutingState) :
    (∃ existing, s.decisions.get? (service.idem_key call) = some existing ∧
      (service.route call s).1 = .ok (decision_to_result existing .duplicate (service.idem_key call)) ∧
      (service.route call s).2.decisions = s.decisions ∧
      (service.route call s).2.move_count = s.move_count) ∨
    (∃ e, s.decisions.get? (service.idem_key call) = none ∧ service.plan call = .error e ∧
      service.route call s = (.error e, s)) ∨
    (∃ decision acl outcome, s.decisions.get? (service.idem_key call) = none ∧
      service.plan call = .ok (decision, acl) ∧
      (service.route call s).1 =
        .ok (decision_to_result (decision.ending outcome) outcome (service.idem_key call)) ∧
      (service.route call s).2.decisions =
        s.decisions.set (service.idem_key call) (decision.ending outcome) ∧
      ((service.route call s).2.move_count = s.move_count ∨
        (service.route call s).2.move_count = s.move_count + 1 ∧ Fileable service call)) := by
  unfold RoutingService.route
  cases hget : s.decisions.get? (service.idem_key call) with
  | some existing =>
    left
    obtain ⟨hdecisions, hcount⟩ := write_audit_keeps service call existing .duplicate s
    exact ⟨existing, rfl, rfl, hdecisions, hcount⟩
  | none =>
    right
    cases hplan : service.plan call with
    | error e => exact Or.inl ⟨e, rfl, rfl, rfl⟩
    | ok planned =>
      obtain ⟨decision, acl⟩ := planned
      right
      have hkey := (plan_verdict hplan).1
      simp only
      by_cases hgate : decision.gate_verdict = .fail
      · rw [if_pos hgate]
        obtain ⟨hresult, hdecisions, hcount⟩ := conclude_spec call decision .blocked s hkey
        exact ⟨decision, acl, .blocked, trivial, rfl, congrArg Except.ok hresult, hdecisions, Or.inl hcount⟩
      rw [if_neg hgate]
      by_cases hkind : decision.destination.kind = .review_queue
      · rw [if_pos hkind]
        obtain ⟨hresult, hdecisions, hcount⟩ := conclude_spec call decision .queued s hkey
        exact ⟨decision, acl, .queued, trivial, rfl, congrArg Except.ok hresult, hdecisions, Or.inl hcount⟩
      rw [if_neg hkind]
      by_cases hdry : call.options.dry_run = true
      · rw [if_pos hdry]
        obtain ⟨hresult, hdecisions, hcount⟩ := conclude_spec call decision .dry_run s hkey
        exact ⟨decision, acl, .dry_run, trivial, rfl, congrArg Except.ok hresult, hdecisions, Or.inl hcount⟩
      rw [if_neg hdry]
      obtain ⟨hresult, hdecisions, hcount⟩ := conclude_spec call decision
        (if call.move_fails.isSome then .blocked else .moved) { s with log := s.log ++
          [.move call.document.id (decision.destination.folder.getD "review_queue") acl] } hkey
      refine ⟨decision, acl, _, trivial, rfl, congrArg Except.ok hresult, hdecisions, Or.inr ⟨?_, ?_⟩⟩
      · rw [hcount]
        simp [RoutingState.move_count, Event.is_move]
      · exact plan_fileable hplan hgate hkind (Bool.eq_false_iff.mpr hdry)

end call

/-! ## What a sequence of calls does -/

section sequence
variable (service : RoutingService)

/-- Every call that moves its document may be filed, had no decision under its key at the
    start, and shares its key with no other. -/
theorem moves_spec (calls : List RouteCall) (s : RoutingState) :
    (∀ call ∈ service.moves calls s, Fileable service call ∧
      s.decisions.get? (service.idem_key call) = none) ∧
    ((service.moves calls s).map service.idem_key).Nodup := by
  induction calls generalizing s with
  | nil =>
    refine ⟨?_, List.nodup_nil⟩
    intro call hcall
    cases hcall
  | cons first rest ih =>
    obtain ⟨hrest, hnodup⟩ := ih (service.route first s).2
    unfold RoutingService.moves
    rcases route_cases service first s with ⟨existing, -, -, hdecisions, hcount⟩ |
      ⟨e, -, -, hraised⟩ | ⟨decision, acl, outcome, hnone, -, -, hdecisions, hmoved⟩
    · rw [hcount, Nat.sub_self, List.replicate_zero, List.nil_append]
      rw [hdecisions] at hrest
      exact ⟨hrest, hnodup⟩
    · rw [hraised] at hrest hnodup ⊢
      rw [Nat.sub_self, List.replicate_zero, List.nil_append]
      exact ⟨hrest, hnodup⟩
    · -- whatever is moved later has another key
      have hother : ∀ call ∈ service.moves rest (service.route first s).2,
          service.idem_key call ≠ service.idem_key first := by
        intro call hcall hkey
        have hget := (hrest call hcall).2
        rw [hdecisions, hkey, Dict.get?_set_self] at hget
        cases hget
      have hlater : ∀ call ∈ service.moves rest (service.route first s).2,
          Fileable service call ∧ s.decisions.get? (service.idem_key call) = none := by
        intro call hcall
        obtain ⟨hfileable, hget⟩ := hrest call hcall
        rw [hdecisions, Dict.get?_set_ne _ _ (hother call hcall)] at hget
        exact ⟨hfileable, hget⟩
      rcases hmoved with hcount | ⟨hcount, hfileable⟩
      · rw [hcount, Nat.sub_self, List.replicate_zero, List.nil_append]
        exact ⟨hlater, hnodup⟩
      · rw [hcount, Nat.add_sub_cancel_left, List.replicate_one, List.singleton_append]
        constructor
        · intro call hcall
          rcases List.mem_cons.mp hcall with rfl | hcall
          · exact ⟨hfileable, hnone⟩
          · exact hlater call hcall
        · rw [List.map_cons, List.nodup_cons]
          refine ⟨?_, hnodup⟩
          intro hmem
          obtain ⟨call, hcall, hkey⟩ := List.mem_map.mp hmem
          exact hother call hcall hkey

/-- **Privileged documents never leave, and nothing is filed twice.** In any sequence of calls,
    from any decision store, the document store is asked to move a document at most once for
    each derived key, and only for calls that may be filed. -/
theorem documents_filed_once (calls : List RouteCall) (s : RoutingState) :
    ((service.moves calls s).map service.idem_key).Nodup ∧
      ∀ call ∈ service.moves calls s, Fileable service call := by
  obtain ⟨hall, hnodup⟩ := moves_spec service calls s
  exact ⟨hnodup, fun call hcall => (hall call hcall).1⟩

/-! ## Replayed verdicts -/

/-- The first of the calls that was decided under this key. -/
def first_decided (calls : List RouteCall) (key : String) : Option RouteCall :=
  calls.find? fun call => decide (service.idem_key call = key) && (service.plan call).isOk

/-- The decision is the one on this call. -/
structure DecidedOn (call : RouteCall) (decision : RoutingDecision) : Prop where
  privileged : decision.privileged = call.document.privileged
  verdict : decision.gate_verdict = .fail ↔ call.document.privileged = true ∧ call.recipient_id ≠ none

/-- What is decided stays decided. -/
theorem after_keeps (calls : List RouteCall) {s : RoutingState} {key : String}
    {decision : RoutingDecision} (h : s.decisions.get? key = some decision) :
    (service.after s calls).decisions.get? key = some decision := by
  induction calls generalizing s with
  | nil => exact h
  | cons first rest ih =>
    apply ih
    show (service.route first s).2.decisions.get? key = some decision
    rcases route_cases service first s with ⟨existing, -, -, hdecisions, -⟩ |
      ⟨e, -, -, hraised⟩ | ⟨found, acl, outcome, hnone, -, -, hdecisions, -⟩
    · rw [hdecisions]
      exact h
    · rw [hraised]
      exact h
    · have hother : key ≠ service.idem_key first := by
        rintro rfl
        rw [hnone] at h
        cases h
      rw [hdecisions, Dict.get?_set_ne _ _ hother]
      exact h

theorem first_decided_cons (first : RouteCall) (rest : List RouteCall) (key : String) :
    first_decided service (first :: rest) key =
      if service.idem_key first = key ∧ (service.plan first).isOk = true then some first
      else first_decided service rest key := by
  unfold first_decided
  rw [List.find?_cons]
  by_cases h : service.idem_key first = key ∧ (service.plan first).isOk = true
  · rw [if_pos h]
    simp [h.1, h.2]
  · rw [if_neg h]
    have hno : (decide (service.idem_key first = key) && (service.plan first).isOk) = false := by
      rw [Bool.and_eq_false_iff, decide_eq_false_iff_not]
      by_cases hkey : service.idem_key first = key
      · exact Or.inr (Bool.eq_false_iff.mpr fun hok => h ⟨hkey, hok⟩)
      · exact Or.inl hkey
    rw [hno]

/-- Nothing is stored under a key, or the decision on the first call decided under it. -/
theorem after_decisions (calls : List RouteCall) {s : RoutingState} {key : String}
    (h : s.decisions.get? key = none) :
    (first_decided service calls key = none → (service.after s calls).decisions.get? key = none) ∧
    ∀ call, first_decided service calls key = some call → ∃ decision,
      (service.after s calls).decisions.get? key = some decision ∧ DecidedOn call decision := by
  induction calls generalizing s with
  | nil =>
    refine ⟨fun _ => h, ?_⟩
    intro call hcall
    cases hcall
  | cons first rest ih =>
    have hafter : service.after s (first :: rest) = service.after (service.route first s).2 rest := rfl
    rw [first_decided_cons, hafter]
    rcases route_cases service first s with ⟨existing, hsome, -, hdecisions, -⟩ |
      ⟨e, -, hplan, hraised⟩ | ⟨found, acl, outcome, -, hplan, -, hdecisions, -⟩
    · have hother : service.idem_key first ≠ key := by
        rintro rfl
        rw [h] at hsome
        cases hsome
      rw [if_neg fun hfirst => hother hfirst.1]
      apply ih
      rw [hdecisions]
      exact h
    · have hfailed : (service.plan first).isOk = false := by
        rw [hplan]
        rfl
      rw [if_neg (by simp [hfailed]), hraised]
      exact ih h
    · have hdone : (service.plan first).isOk = true := by
        rw [hplan]
        rfl
      by_cases hkey : service.idem_key first = key
      · rw [if_pos ⟨hkey, hdone⟩]
        constructor
        · intro hnone
          cases hnone
        intro call hcall
        obtain rfl := Option.some.inj hcall
        obtain ⟨-, hprivileged, hverdict⟩ := plan_verdict hplan
        refine ⟨found.ending outcome, ?_, hprivileged, hverdict⟩
        apply after_keeps service rest
        rw [hdecisions, hkey, Dict.get?_set_self]
      · rw [if_neg fun hfirst => hkey hfirst.1]
        apply ih
        rw [hdecisions, Dict.get?_set_ne _ _ (Ne.symm hkey)]
        exact h

/-- **When the privilege verdict is right.** After any history, a call for a privileged document
    with a recipient answers `fail` if and only if the first call decided under the same key, if
    there was one, was also for a privileged document with a recipient. -/
theorem privilege_verdict_kept_iff (calls : List RouteCall) (call : RouteCall) (result : RouteResult)
    (hprivileged : call.document.privileged = true) (hrecipient : call.recipient_id ≠ none)
    (hresult : (service.route call (service.after .empty calls)).1 = .ok result) :
    (result.privileged = true ∧ result.gate_verdict = .fail) ↔
      ∀ earlier, first_decided service calls (service.idem_key call) = some earlier →
        earlier.document.privileged = true ∧ earlier.recipient_id ≠ none := by
  obtain ⟨hundecided, hdecision⟩ := after_decisions service calls (s := .empty)
    (Dict.get?_empty (service.idem_key call))
  rcases route_cases service call (service.after .empty calls) with ⟨existing, hsome, hreplay, -⟩ |
    ⟨e, -, -, hraised⟩ | ⟨found, acl, outcome, hnone, hplan, hdecided, -⟩
  · rw [hreplay] at hresult
    obtain rfl := Except.ok.inj hresult
    cases hfirst : first_decided service calls (service.idem_key call) with
    | none =>
      rw [hundecided hfirst] at hsome
      cases hsome
    | some earlier =>
      obtain ⟨decision, hget, hon⟩ := hdecision earlier hfirst
      rw [hget] at hsome
      obtain rfl := Option.some.inj hsome
      have hverdict : decision.privileged = true ∧ decision.gate_verdict = .fail ↔
          earlier.document.privileged = true ∧ earlier.recipient_id ≠ none := by
        rw [hon.privileged, hon.verdict]
        exact ⟨fun h => h.2, fun h => ⟨h.1, h⟩⟩
      constructor
      · intro h e he
        obtain rfl := Option.some.inj he
        exact hverdict.mp h
      · intro h
        exact hverdict.mpr (h earlier rfl)
  · rw [hraised] at hresult
    cases hresult
  · -- nothing was decided under this key, so the gate decides
    rw [hdecided] at hresult
    obtain rfl := Except.ok.inj hresult
    obtain ⟨-, hpriv, hverdict⟩ := plan_verdict hplan
    cases hfirst : first_decided service calls (service.idem_key call) with
    | none =>
      constructor
      · intro _ e he
        cases he
      · intro _
        exact ⟨hpriv.trans hprivileged, hverdict.mpr ⟨hprivileged, hrecipient⟩⟩
    | some earlier =>
      obtain ⟨decision, hget, -⟩ := hdecision earlier hfirst
      rw [hnone] at hget
      cases hget

end sequence

/-! ## One memo, routed twice -/

/-- Every class has a folder of its own; names are the reference of the matter. -/
def plain_config : RoutingConfig where
  classes := DOCUMENT_CLASSES
  classification_rules := []
  folder_map := DOCUMENT_CLASSES.foldl (fun m c => m.set c ("docs/" ++ c)) ∅
  render_name := fun reference class_name date _ => .ok (reference ++ "_" ++ class_name ++ "_" ++ date)
  class_policies := ∅
  classification_threshold := (4 / 5 : ℚ)
  routing_intent_version := "v1"
  total := by decide +kernel

def plain_service : RoutingService where
  platform := ⟨id, fun _ => none⟩
  config := plain_config
  audited := false

def ana : Contact := ⟨"c1", "crm", "Ana Garcia", none, none, none, ∅⟩

def memo (privileged : Bool) : Document where
  id := "d1"
  matter_id := "m1"
  name := "memo.pdf"
  mime_type := "application/pdf"
  uri := "s3://d1"
  classification := some "internal_memo"
  version := 1
  privileged := privileged
  checksum := "abc"
  created_at := 0

def ana_matter : Matter :=
  ⟨"m1", "case", "REF-001", "T", "open", none, ana, none, 0, [], ∅⟩

def memo_call (privileged : Bool) (recipient_id : Option String) : RouteCall where
  document := memo privileged
  matter := ana_matter
  options := ⟨false, false⟩
  extraction_fields := none
  recipient_id := recipient_id
  run_id := some "r1"
  date := "20260101"
  fresh_id := "u1"
  move_fails := none

/-- A service whose threshold is not a number. -/
def nan_service : RoutingService :=
  { plain_service with config := { plain_config with classification_threshold := .nan } }

/-- **No confidence is below a threshold that is not a number.** The memo is moved, though its
    confidence, 1.0, is not at least `nan`. -/
theorem nan_threshold_moves :
    (nan_service.moves [memo_call false none] .empty).length = 1 ∧
    ¬ ∀ call ∈ nan_service.moves [memo_call false none] .empty, ∃ class_name confidence source,
      classify nan_service.platform nan_service.config call.document call.extraction_fields =
        .ok (class_name, confidence, source) ∧
      nan_service.config.classification_threshold ≤ confidence := by
  have hone : (nan_service.moves [memo_call false none] .empty).length = 1 := by decide +kernel
  refine ⟨hone, ?_⟩
  intro hall
  obtain ⟨call, hcall⟩ := List.exists_mem_of_length_pos (l := nan_service.moves [memo_call false none] .empty)
    (by omega)
  obtain ⟨-, confidence, -, -, hreached⟩ := hall call hcall
  exact FloatValue.not_nan_le hreached

/-- The gate verdict of an answer. -/
def verdict_of (answer : Except Exn RouteResult) : Option GateResult :=
  answer.toOption.map RouteResult.gate_verdict

theorem answer_of_verdict {answer : Except Exn RouteResult} {verdict : GateResult}
    (h : verdict_of answer = some verdict) :
    ∃ result, answer = .ok result ∧ result.gate_verdict = verdict := by
  cases answer with
  | error e => cases h
  | ok result => exact ⟨result, rfl, Option.some.inj h⟩

/-- The memo was filed without a recipient, then it is sent to the empty recipient. -/
theorem empty_recipient_passes :
    (memo_call true (some "")).document.privileged = true ∧
    (memo_call true (some "")).recipient_id ≠ none ∧
    ∃ result, (plain_service.route (memo_call true (some ""))
        (plain_service.after .empty [memo_call true none])).1 = .ok result ∧
      ¬ (result.privileged = true ∧ result.gate_verdict = .fail) := by
  have hverdict : verdict_of (plain_service.route (memo_call true (some ""))
      (plain_service.after .empty [memo_call true none])).1 = some .pass := by decide +kernel
  obtain ⟨result, hanswer, hpass⟩ := answer_of_verdict hverdict
  refine ⟨rfl, by simp [memo_call], result, hanswer, ?_⟩
  rw [hpass]
  simp

/-- The memo is sent to the same recipient twice. -/
theorem repeated_recipient_fails :
    ∃ result, (plain_service.route (memo_call true (some "x"))
        (plain_service.after .empty [memo_call true (some "x")])).1 = .ok result ∧
      result.privileged = true ∧ result.gate_verdict = .fail := by
  have hverdict : verdict_of (plain_service.route (memo_call true (some "x"))
      (plain_service.after .empty [memo_call true (some "x")])).1 = some .fail := by decide +kernel
  obtain ⟨result, hanswer, -⟩ := answer_of_verdict hverdict
  refine ⟨result, hanswer, ?_⟩
  apply (privilege_verdict_kept_iff plain_service [memo_call true (some "x")]
    (memo_call true (some "x")) result rfl (by simp [memo_call]) hanswer).mpr
  intro earlier hearlier
  have hmem := List.mem_of_find?_eq_some hearlier
  rw [List.mem_singleton] at hmem
  rw [hmem]
  exact ⟨rfl, by simp [memo_call]⟩

end CaseAutomation.Routing
