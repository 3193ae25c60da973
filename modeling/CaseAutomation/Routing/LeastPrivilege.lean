import CaseAutomation.Base.JsonCodec
import CaseAutomation.Framework.Joined
import CaseAutomation.Obs.Scrubbing
import CaseAutomation.Routing.Histories
import Mathlib.Data.List.Dedup
import Mathlib.Data.String.Basic

/-! # Least Privilege

    What a filing gives away, and what the decision store says about it.

    * `filings_least_privilege` : over any sequence of calls, each document is moved into the folder
      of its matter and class, readable for the principals that both the matter and the
      policy of the class allow and for nobody else; the store of decisions and the document store
      tell the same story.
    * `acl_encodings_agree_iff` : the two encodings of the principals of a matter mean the same
      exactly if no principal has a comma.
-/

namespace CaseAutomation.Routing

open Framework Domain Security

/-! ## Names -/

/-- `[\w\-._]`. -/
def is_name_char (u : Obs.Unicode) (c : Char) : Bool :=
  u.is_word c || c == '-' || c == '.' || c == '_'

/-- `re.sub(r"[^\w\-._]", "_", name)`. -/
def sanitise (u : Obs.Unicode) (name : String) : String :=
  String.ofList (name.toList.map fun c => if is_name_char u c then c else '_')

/-- `NamingTemplate.render`; `format` is `self.pattern.format`. -/
def render (u : Obs.Unicode) (format : String → String → String → Int → Except Exn String)
    (matter_reference class_name date : String) (version : Int) : Except Exn String :=
  (format matter_reference class_name date version).map (sanitise u)

/-- A name that is safe in a file system: one segment of a path. -/
def SafeName (u : Obs.Unicode) (name : String) : Prop :=
  (∀ c ∈ name.toList, is_name_char u c = true) ∧ '/' ∉ name.toList

theorem safe_sanitise (u : Obs.Unicode) (name : String) : SafeName u (sanitise u name) := by
  have hchars : ∀ c ∈ (sanitise u name).toList, is_name_char u c = true := by
    intro c hc
    rw [sanitise, String.toList_ofList] at hc
    obtain ⟨d, -, rfl⟩ := List.mem_map.mp hc
    by_cases hd : is_name_char u d = true
    · rw [if_pos hd]
      exact hd
    · rw [if_neg hd]
      simp [is_name_char]
  refine ⟨hchars, ?_⟩
  intro hslash
  have hword := hchars '/' hslash
  have halnum : u.isalnum '/' = false := u.isalnum_ascii '/' (by decide)
  simp [is_name_char, Obs.Unicode.is_word, halnum] at hword

/-! ## Access -/

section acl
variable {platform : Platform} {cfg : RoutingConfig} {matter : Matter} {class_name p : String}

/-- The matter allows the principal. -/
inductive AllowedBy (platform : Platform) (matter : Matter) (p : String) : Prop where
  | listed : p ∈ parse_principals platform matter.external_ids → AllowedBy platform matter p
  | responsible : matter.responsible = some p → p ≠ "" → AllowedBy platform matter p

/-- The class has no policy, or its policy names the principal. -/
def Admits (cfg : RoutingConfig) (class_name p : String) : Prop :=
  ∀ policy, cfg.class_policies.get? class_name = some policy → policy ≠ [] → p ∈ policy

/-- Exactly the principals that matter and class allow, and only to read. -/
structure LeastPrivilege (platform : Platform) (cfg : RoutingConfig) (matter : Matter)
    (class_name : String) (acl : ACL) : Prop where
  principals : ∀ p, p ∈ acl.principals ↔ AllowedBy platform matter p ∧ Admits cfg class_name p
  sorted : acl.principals.Pairwise (· < ·)
  permission : acl.permission = "read"
  external : acl.external = false

theorem mem_sorted_set {xs : List String} : p ∈ sorted_set xs ↔ p ∈ xs := by
  unfold sorted_set
  rw [List.mem_mergeSort, List.mem_dedup]

theorem sorted_set_increasing (xs : List String) : (sorted_set xs).Pairwise (· < ·) := by
  have hle : (sorted_set xs).Pairwise fun a b => decide (a ≤ b) = true := by
    refine List.pairwise_mergeSort ?_ ?_ xs.dedup
    · intro a b c hab hbc
      exact decide_eq_true (le_trans (of_decide_eq_true hab) (of_decide_eq_true hbc))
    · intro a b
      simpa using le_total a b
  have hnodup : (sorted_set xs).Nodup :=
    (List.mergeSort_perm xs.dedup _).nodup_iff.mpr (List.nodup_dedup xs)
  refine (hle.and hnodup).imp ?_
  rintro a b ⟨hab, hne⟩
  exact lt_of_le_of_ne (of_decide_eq_true hab) hne

theorem allowed_iff : AllowedBy platform matter p ↔ p ∈ parse_principals platform matter.external_ids ++
    (matter.responsible.filter fun r => decide (r ≠ "")).toList := by
  rw [List.mem_append, Option.mem_toList, Option.filter_eq_some_iff, decide_eq_true_eq]
  constructor
  · intro h
    cases h with
    | listed hmem => exact .inl hmem
    | responsible hresponsible hne => exact .inr ⟨hresponsible, hne⟩
  · rintro (hmem | ⟨hresponsible, hne⟩)
    · exact .listed hmem
    · exact .responsible hresponsible hne

theorem admits_iff : Admits cfg class_name p ↔ (cfg.class_policies.get? class_name).getD [] = [] ∨
    p ∈ (cfg.class_policies.get? class_name).getD [] := by
  unfold Admits
  cases hpolicy : cfg.class_policies.get? class_name with
  | none => simp
  | some policy =>
    by_cases hempty : policy = []
    · simp [hempty]
    · simp [hempty]

theorem build_acl_least (platform : Platform) (cfg : RoutingConfig) (matter : Matter)
    (class_name : String) :
    LeastPrivilege platform cfg matter class_name (build_acl platform cfg matter class_name) := by
  refine ⟨?_, sorted_set_increasing _, rfl, rfl⟩
  intro p
  unfold build_acl
  rw [mem_sorted_set, allowed_iff, admits_iff]
  by_cases hempty : (cfg.class_policies.get? class_name).getD [] = []
  · simp [hempty]
  · simp [hempty, or_and_right]

/-- Nobody is let in by default. -/
theorem LeastPrivilege.nobody {acl : ACL} (h : LeastPrivilege platform cfg matter class_name acl)
    (hnone : ∀ p, ¬ AllowedBy platform matter p) : acl.principals = [] := by
  refine List.eq_nil_iff_forall_not_mem.mpr ?_
  intro p hp
  exact hnone p ((h.principals p).mp hp).1

end acl

/-! ## One call -/

section call
variable {service : RoutingService} {call : RouteCall} {s : RoutingState}

/-- The digest of an access list. -/
def acl_digest (acl : ACL) : String :=
  slice_to (hexdigest (sha256 (encode_utf8 (repr_strs acl.principals)))) 12

/-- The filing is the one that the call asks for. -/
structure FiledFor (service : RoutingService) (call : RouteCall) (document_id folder : String)
    (acl : ACL) : Prop where
  document : document_id = call.document.id
  fileable : Fileable service call
  place : ∃ class_name confidence source entry,
    classify service.platform service.config call.document call.extraction_fields =
      .ok (class_name, confidence, source) ∧
    class_name ≠ "unknown" ∧ service.config.folder_map.get? class_name = some entry ∧
    folder = call.matter.reference ++ "/" ++ entry ∧
    LeastPrivilege service.platform service.config call.matter class_name acl

/-- The decision speaks of this filing. -/
structure Tells (decision : RoutingDecision) (document_id folder : String) (acl : ACL) : Prop where
  document : decision.document_id = document_id
  folder : decision.destination.folder = some folder
  digest : decision.acl_digest = acl_digest acl

/-- What the audit service is told. -/
def audits (service : RoutingService) (call : RouteCall) (decision : RoutingDecision)
    (outcome : Outcome) : List Event :=
  if service.audited then
    [.audited ((call.run_id.filter fun id => id ≠ "").getD call.fresh_id) call.document.id decision
      outcome]
  else []

theorem write_audit_log (decision : RoutingDecision) (outcome : Outcome) :
    (service.write_audit call decision outcome s).log = s.log ++ audits service call decision outcome := by
  unfold RoutingService.write_audit audits
  by_cases haudited : service.audited = true
  · rw [if_pos haudited, if_pos haudited]
  · rw [if_neg haudited, if_neg haudited, List.append_nil]

/-- What a plan is made of, with its access list. -/
theorem plan_made {decision : RoutingDecision} {acl : ACL}
    (h : service.plan call = .ok (decision, acl)) : ∃ class_name confidence source doc_name,
      classify service.platform service.config call.document call.extraction_fields =
        .ok (class_name, confidence, source) ∧
      service.config.render_name call.matter.reference class_name call.date call.document.version =
        .ok doc_name ∧
      decision = service.draft call class_name confidence source doc_name ∧
      acl = build_acl service.platform service.config call.matter class_name := by
  obtain ⟨⟨class_name, confidence, source⟩, hclass, h⟩ := ok_of_bind h
  obtain ⟨doc_name, hname, h⟩ := ok_of_bind h
  simp only [pure, Except.pure, Except.ok.injEq, Prod.mk.injEq] at h
  exact ⟨class_name, confidence, source, doc_name, hclass, hname, h.1.symm, h.2.symm⟩

/-- A folder is that of a class in a matter. -/
theorem resolve_folder {cfg : RoutingConfig} {class_name : String} {matter : Matter}
    {force_review : Bool}
    (h : (resolve cfg class_name (some matter) force_review).kind ≠ .review_queue) :
    class_name ≠ "unknown" ∧ ∃ entry, cfg.folder_map.get? class_name = some entry ∧
      (resolve cfg class_name (some matter) force_review).folder =
        some (matter.reference ++ "/" ++ entry) := by
  unfold resolve at h ⊢
  cases force_review with
  | true => exact absurd rfl h
  | false =>
    by_cases hunknown : class_name = "unknown"
    · simp [hunknown] at h
    · cases hentry : cfg.folder_map.get? class_name with
      | none => simp [hunknown, hentry] at h
      | some entry => simp [hunknown]

theorem filed_for_plan {decision : RoutingDecision} {acl : ACL}
    (hplan : service.plan call = .ok (decision, acl)) (hgate : decision.gate_verdict ≠ .fail)
    (hkind : decision.destination.kind ≠ .review_queue) (hdry : call.options.dry_run = false) :
    FiledFor service call call.document.id (decision.destination.folder.getD "review_queue") acl ∧
      Tells decision call.document.id (decision.destination.folder.getD "review_queue") acl := by
  have hfileable := plan_fileable hplan hgate hkind hdry
  obtain ⟨class_name, confidence, source, doc_name, hclass, -, rfl, rfl⟩ := plan_made hplan
  obtain ⟨hknown, entry, hentry, hfolder⟩ := resolve_folder hkind
  have hdestination : (service.draft call class_name confidence source doc_name).destination.folder =
      some (call.matter.reference ++ "/" ++ entry) := hfolder
  rw [hdestination]
  exact ⟨⟨rfl, hfileable, class_name, confidence, source, entry, hclass, hknown, hentry, rfl,
    build_acl_least _ _ _ _⟩, rfl, hdestination, rfl⟩

/-- What is logged and stored in one call. -/
inductive Logged (service : RoutingService) (call : RouteCall) (s s' : RoutingState) : Prop where
  | nothing_moved (decision : RoutingDecision) (outcome : Outcome) :
      outcome ≠ .moved → s'.log = s.log ++ audits service call decision outcome →
      (s'.decisions = s.decisions ∨ s.decisions.get? (service.idem_key call) = none ∧
        (∃ doc_name class_name, decision.name = doc_name ∧ service.config.render_name
          call.matter.reference class_name call.date call.document.version = .ok doc_name) ∧
        decision.outcome = outcome ∧
        s'.decisions = s.decisions.set (service.idem_key call) decision) → Logged service call s s'
  | raised : s' = s → Logged service call s s'
  | asked_to_move (decision : RoutingDecision) (folder : String) (acl : ACL) (outcome : Outcome) :
      FiledFor service call call.document.id folder acl →
      Tells decision call.document.id folder acl → decision.outcome = outcome →
      (outcome = .moved ∨ outcome = .blocked) →
      (∃ doc_name class_name, decision.name = doc_name ∧ service.config.render_name
        call.matter.reference class_name call.date call.document.version = .ok doc_name) →
      s.decisions.get? (service.idem_key call) = none →
      s'.log = s.log ++ (.move call.document.id folder acl :: audits service call decision outcome) →
      s'.decisions = s.decisions.set (service.idem_key call) decision → Logged service call s s'

/-- **What a call logs.** -/
theorem route_logged (service : RoutingService) (call : RouteCall) (s : RoutingState) :
    Logged service call s (service.route call s).2 := by
  unfold RoutingService.route
  cases hget : s.decisions.get? (service.idem_key call) with
  | some existing =>
    refine .nothing_moved existing .duplicate (by decide) (write_audit_log existing .duplicate) (.inl ?_)
    exact (write_audit_keeps service call existing .duplicate s).1
  | none =>
    cases hplan : service.plan call with
    | error e => exact .raised rfl
    | ok planned =>
      obtain ⟨decision, acl⟩ := planned
      obtain ⟨class_name, confidence, source, doc_name, -, hname, hdraft, -⟩ := plan_made hplan
      have hkey : decision.idempotency_key = service.idem_key call := by
        rw [hdraft]
        rfl
      have hnamed : ∀ outcome, ∃ doc_name class_name, (decision.ending outcome).name = doc_name ∧
          service.config.render_name call.matter.reference class_name call.date
            call.document.version = .ok doc_name := by
        intro outcome
        refine ⟨doc_name, class_name, ?_, hname⟩
        rw [hdraft]
        rfl
      -- a decision that moves nothing
      have hdecided : ∀ outcome, outcome ≠ .moved → Logged service call s
          (service.conclude call (decision.ending outcome) s).2 := by
        intro outcome hmoved
        refine .nothing_moved (decision.ending outcome) outcome hmoved (write_audit_log _ _)
          (.inr ⟨hget, hnamed outcome, rfl, ?_⟩)
        exact (conclude_spec call decision outcome s hkey).2.1
      simp only
      by_cases hgate : decision.gate_verdict = .fail
      · rw [if_pos hgate]
        exact hdecided .blocked (by decide)
      rw [if_neg hgate]
      by_cases hkind : decision.destination.kind = .review_queue
      · rw [if_pos hkind]
        exact hdecided .queued (by decide)
      rw [if_neg hkind]
      by_cases hdry : call.options.dry_run = true
      · rw [if_pos hdry]
        exact hdecided .dry_run (by decide)
      rw [if_neg hdry]
      obtain ⟨hfiled, htells⟩ := filed_for_plan hplan hgate hkind (Bool.eq_false_iff.mpr hdry)
      refine .asked_to_move (decision.ending (if call.move_fails.isSome then .blocked else .moved)) _ acl
        (if call.move_fails.isSome then .blocked else .moved) hfiled
        ⟨htells.document, htells.folder, htells.digest⟩ rfl ?_ (hnamed _) hget ?_ ?_
      · split_ifs
        · exact .inr rfl
        · exact .inl rfl
      · refine (write_audit_log _ _).trans ?_
        rw [List.append_assoc]
        rfl
      · exact (conclude_spec call decision _ _ hkey).2.1

end call

/-! ## Sequences of calls -/

section story
variable {service : RoutingService} {calls : List RouteCall} {call : RouteCall} {s s' : RoutingState}

/-- Log and decision store tell the same story of these calls. -/
structure Story (service : RoutingService) (calls : List RouteCall) (s : RoutingState) : Prop where
  moves : ∀ document_id folder acl, .move document_id folder acl ∈ s.log →
    ∃ call ∈ calls, FiledFor service call document_id folder acl ∧
      ∃ decision, s.decisions.get? (service.idem_key call) = some decision ∧
        Tells decision document_id folder acl ∧
        (decision.outcome = .moved ∨ decision.outcome = .blocked)
  /-- What is stored as moved was moved. -/
  moved : ∀ key decision, s.decisions.get? key = some decision → decision.outcome = .moved →
    ∃ folder acl, .move decision.document_id folder acl ∈ s.log ∧
      Tells decision decision.document_id folder acl
  /-- What is audited as moved was moved. -/
  audited : ∀ run_id document_id decision, .audited run_id document_id decision .moved ∈ s.log →
    ∃ folder acl, .move document_id folder acl ∈ s.log ∧ Tells decision document_id folder acl
  named : ∀ key decision, s.decisions.get? key = some decision →
    ∃ call ∈ calls, ∃ class_name, service.config.render_name call.matter.reference class_name
      call.date call.document.version = .ok decision.name

theorem story_empty (service : RoutingService) : Story service [] .empty := by
  refine ⟨?_, ?_, ?_, ?_⟩
  · intro document_id folder acl h
    cases h
  · intro key decision h
    cases h
  · intro run_id document_id decision h
    cases h
  · intro key decision h
    cases h

theorem mem_audits {event : Event} {decision : RoutingDecision} {outcome : Outcome}
    (h : event ∈ audits service call decision outcome) :
    ∃ run_id, event = .audited run_id call.document.id decision outcome := by
  unfold audits at h
  by_cases haudited : service.audited = true
  · rw [if_pos haudited, List.mem_singleton] at h
    exact ⟨_, h⟩
  · rw [if_neg haudited] at h
    cases h

/-- A decision is added under a new key, or none. -/
theorem kept_decision {key : String} {decision old : RoutingDecision}
    (hnone : s.decisions.get? (service.idem_key call) = none)
    (hset : s'.decisions = s.decisions.set (service.idem_key call) decision)
    (hold : s.decisions.get? key = some old) : s'.decisions.get? key = some old := by
  have hne : key ≠ service.idem_key call := by
    rintro rfl
    rw [hnone] at hold
    cases hold
  rw [hset, Dict.get?_set_ne _ _ hne]
  exact hold

/-- **One call goes on with the story.** -/
theorem Story.step (h : Story service calls s) (hlogged : Logged service call s s') :
    Story service (calls ++ [call]) s' := by
  have hmem : ∀ c ∈ calls, c ∈ calls ++ [call] := fun c hc => List.mem_append_left _ hc
  have hlast : call ∈ calls ++ [call] := List.mem_append_right _ (List.mem_singleton_self _)
  cases hlogged with
  | raised hsame =>
    subst hsame
    refine ⟨?_, h.moved, h.audited, ?_⟩
    · intro document_id folder acl hmove
      obtain ⟨c, hc, hfiled⟩ := h.moves document_id folder acl hmove
      exact ⟨c, hmem c hc, hfiled⟩
    · intro key decision hget
      obtain ⟨c, hc, hname⟩ := h.named key decision hget
      exact ⟨c, hmem c hc, hname⟩
  | nothing_moved decision outcome hmoved hlog hdecisions =>
    have hkeeps : ∀ key old, s.decisions.get? key = some old → s'.decisions.get? key = some old := by
      intro key old hold
      rcases hdecisions with hsame | ⟨hnone, -, -, hset⟩
      · rw [hsame]
        exact hold
      · exact kept_decision hnone hset hold
    -- the only news is about something that was not moved
    have hnew : ∀ event, event ∈ s'.log → event ∈ s.log ∨
        ∃ run_id, event = .audited run_id call.document.id decision outcome := by
      intro event hevent
      rw [hlog] at hevent
      rcases List.mem_append.mp hevent with hevent | hevent
      · exact .inl hevent
      · exact .inr (mem_audits hevent)
    have hstays : ∀ event ∈ s.log, event ∈ s'.log := by
      intro event hevent
      rw [hlog]
      exact List.mem_append_left _ hevent
    refine ⟨?_, ?_, ?_, ?_⟩
    · intro document_id folder acl hmove
      rcases hnew _ hmove with hmove | ⟨run_id, hno⟩
      · obtain ⟨c, hc, hfiled, found, hget, htells⟩ := h.moves document_id folder acl hmove
        exact ⟨c, hmem c hc, hfiled, found, hkeeps _ _ hget, htells⟩
      · cases hno
    · intro key found hget hfound
      rcases hdecisions with hsame | ⟨-, -, houtcome, hset⟩
      · rw [hsame] at hget
        obtain ⟨folder, acl, hmove, htells⟩ := h.moved key found hget hfound
        exact ⟨folder, acl, hstays _ hmove, htells⟩
      · rw [hset] at hget
        rcases Dict.get?_set_cases hget with ⟨-, rfl⟩ | ⟨-, hget⟩
        · exact absurd (houtcome.symm.trans hfound) hmoved
        · obtain ⟨folder, acl, hmove, htells⟩ := h.moved key found hget hfound
          exact ⟨folder, acl, hstays _ hmove, htells⟩
    · intro run_id document_id found haudit
      rcases hnew _ haudit with haudit | ⟨run_id', hnews⟩
      · obtain ⟨folder, acl, hmove, htells⟩ := h.audited run_id document_id found haudit
        exact ⟨folder, acl, hstays _ hmove, htells⟩
      · injection hnews with _ _ _ houtcome
        exact absurd houtcome.symm hmoved
    · intro key found hget
      rcases hdecisions with hsame | ⟨-, ⟨doc_name, class_name, hname, hrender⟩, -, hset⟩
      · rw [hsame] at hget
        obtain ⟨c, hc, hnamed⟩ := h.named key found hget
        exact ⟨c, hmem c hc, hnamed⟩
      · rw [hset] at hget
        rcases Dict.get?_set_cases hget with ⟨-, rfl⟩ | ⟨-, hget⟩
        · exact ⟨call, hlast, class_name, by rw [hname]; exact hrender⟩
        · obtain ⟨c, hc, hnamed⟩ := h.named key found hget
          exact ⟨c, hmem c hc, hnamed⟩
  | asked_to_move decision folder acl outcome hfiled htells houtcome hends hnamed hnone hlog hset =>
    obtain ⟨doc_name, class_name, hname, hrender⟩ := hnamed
    have hnew : ∀ event, event ∈ s'.log → event ∈ s.log ∨ event = .move call.document.id folder acl ∨
        ∃ run_id, event = .audited run_id call.document.id decision outcome := by
      intro event hevent
      rw [hlog] at hevent
      rcases List.mem_append.mp hevent with hevent | hevent
      · exact .inl hevent
      rcases List.mem_cons.mp hevent with hevent | hevent
      · exact .inr (.inl hevent)
      · exact .inr (.inr (mem_audits hevent))
    have hstays : ∀ event ∈ s.log, event ∈ s'.log := by
      intro event hevent
      rw [hlog]
      exact List.mem_append_left _ hevent
    have hthis : .move call.document.id folder acl ∈ s'.log := by
      rw [hlog]
      exact List.mem_append_right _ List.mem_cons_self
    have hown : s'.decisions.get? (service.idem_key call) = some decision := by
      rw [hset]
      exact Dict.get?_set_self _ _ _
    refine ⟨?_, ?_, ?_, ?_⟩
    · intro document_id folder' acl' hmove
      rcases hnew _ hmove with hmove | heq | ⟨run_id, hno⟩
      · obtain ⟨c, hc, hfiled', found, hget, htells'⟩ := h.moves document_id folder' acl' hmove
        exact ⟨c, hmem c hc, hfiled', found, kept_decision hnone hset hget, htells'⟩
      · injection heq with hid hfolder hacl
        subst hid hfolder hacl
        exact ⟨call, hlast, hfiled, decision, hown, htells, houtcome ▸ hends⟩
      · cases hno
    · intro key found hget hfound
      rw [hset] at hget
      rcases Dict.get?_set_cases hget with ⟨-, rfl⟩ | ⟨-, hget⟩
      · rw [htells.document]
        exact ⟨folder, acl, hthis, htells⟩
      · obtain ⟨folder', acl', hmove, htells'⟩ := h.moved key found hget hfound
        exact ⟨folder', acl', hstays _ hmove, htells'⟩
    · intro run_id document_id found haudit
      rcases hnew _ haudit with haudit | hno | ⟨run_id', hnews⟩
      · obtain ⟨folder', acl', hmove, htells'⟩ := h.audited run_id document_id found haudit
        exact ⟨folder', acl', hstays _ hmove, htells'⟩
      · cases hno
      · injection hnews with _ hid hdecision _
        subst hid hdecision
        exact ⟨folder, acl, hthis, htells⟩
    · intro key found hget
      rw [hset] at hget
      rcases Dict.get?_set_cases hget with ⟨-, rfl⟩ | ⟨-, hget⟩
      · exact ⟨call, hlast, class_name, by rw [hname]; exact hrender⟩
      · obtain ⟨c, hc, hnamed⟩ := h.named key found hget
        exact ⟨c, hmem c hc, hnamed⟩

theorem story_after (service : RoutingService) (calls : List RouteCall) :
    Story service calls (service.after .empty calls) := by
  induction calls using List.reverseRecOn with
  | nil => exact story_empty service
  | append_singleton calls call ih =>
    have hafter : service.after .empty (calls ++ [call]) =
        (service.route call (service.after .empty calls)).2 := by
      unfold RoutingService.after
      rw [List.foldl_append]
      rfl
    rw [hafter]
    exact ih.step (route_logged service call _)

end story

section encodings
variable {platform : Platform} {cfg : RoutingConfig} {matter matter' : Matter} {class_name : String}
  {ps : List String} {p : String}

/-- `json.dumps(principals)`. -/
def dumps_principals (ps : List String) : String :=
  String.ofList (JsonCodec.text [' '] (.arr (ps.map Json.str)))

/-- The preferred encoding. -/
def json_ids (ps : List String) : Dict String String :=
  (∅ : Dict String String).set "allowed_principals_json" (dumps_principals ps)

/-- The legacy encoding. -/
def csv_ids (ps : List String) : Dict String String :=
  (∅ : Dict String String).set "allowed_principals" (",".intercalate ps)

/-- `json.loads` reads back what `json.dumps` wrote. -/
def ReadsBack (platform : Platform) (ps : List String) : Prop :=
  platform.json_loads (dumps_principals ps) = some (.arr (ps.map Json.str))

theorem mem_stripped {entries : List String} : p ∈ stripped entries ↔
    (∃ entry ∈ entries, strip entry = p) ∧ p ≠ "" := by
  unfold stripped
  rw [List.mem_filter, List.mem_map, decide_eq_true_eq]

/-- An entry keeps its commas when it is stripped. -/
theorem comma_mem_strip (entry : String) : ',' ∈ (strip entry).toList ↔ ',' ∈ entry.toList := by
  have hdrop : ∀ cs : List Char, ',' ∈ cs.dropWhile is_space ↔ ',' ∈ cs := by
    intro cs
    constructor
    · exact fun h => (List.dropWhile_suffix is_space).subset h
    · intro h
      rw [← List.takeWhile_append_dropWhile (p := is_space) (l := cs)] at h
      rcases List.mem_append.mp h with htake | hdrop
      · have hspace := List.mem_takeWhile_imp htake
        cases hspace
      · exact hdrop
  unfold strip
  rw [String.toList_ofList, List.mem_reverse, hdrop, List.mem_reverse, hdrop]

theorem parse_json (hloads : ReadsBack platform ps) :
    parse_principals platform (json_ids ps) = stripped ps := by
  have hget : (json_ids ps).get? "allowed_principals_json" = some (dumps_principals ps) :=
    Dict.get?_set_self _ _ _
  have hstrings : (ps.map Json.str).map py_str = ps := by
    rw [List.map_map]
    exact List.map_id ps
  unfold parse_principals
  rw [hget, Option.bind_some, hloads]
  simp only [hstrings]

theorem parse_csv (ps : List String) :
    parse_principals platform (csv_ids ps) = stripped (split_on ',' (",".intercalate ps)) := by
  have hjson : (csv_ids ps).get? "allowed_principals_json" = none := rfl
  have hcsv : (csv_ids ps).get? "allowed_principals" = some (",".intercalate ps) :=
    Dict.get?_set_self _ _ _
  unfold parse_principals
  rw [hjson, hcsv]
  rfl

/-- Entries without commas are what the joined text is cut into. -/
theorem stripped_split (h : ∀ p ∈ ps, ',' ∉ p.toList) :
    stripped (split_on ',' (",".intercalate ps)) = stripped ps := by
  by_cases hne : ps = []
  · subst hne
    rfl
  · have hsplit : split_on ',' (",".intercalate ps) = ps := by
      have hpieces : ([','].intercalate (ps.map String.toList)).splitOn ',' = ps.map String.toList := by
        refine List.splitOn_intercalate ',' ?_ (mt List.map_eq_nil_iff.mp hne)
        intro piece hpiece
        obtain ⟨p, hp, rfl⟩ := List.mem_map.mp hpiece
        exact h p hp
      have hlist : (",".intercalate ps).toList = [','].intercalate (ps.map String.toList) := by
        rw [String.toList_intercalate]
        rfl
      unfold split_on
      rw [hlist, hpieces, List.map_map]
      have hid : (String.ofList ∘ String.toList) = id := funext fun _ => String.ofList_toList
      rw [hid, List.map_id]
    rw [hsplit]

/-- Who is allowed decides the access list. -/
theorem build_acl_congr (hresponsible : matter.responsible = matter'.responsible)
    (h : ∀ p, p ∈ parse_principals platform matter.external_ids ↔
      p ∈ parse_principals platform matter'.external_ids) :
    build_acl platform cfg matter class_name = build_acl platform cfg matter' class_name := by
  have hleast := build_acl_least platform cfg matter class_name
  have hleast' := build_acl_least platform cfg matter' class_name
  have hallowed : ∀ p, AllowedBy platform matter p ↔ AllowedBy platform matter' p := by
    intro p
    rw [allowed_iff, allowed_iff, List.mem_append, List.mem_append, h, hresponsible]
  have hmem : ∀ p, p ∈ (build_acl platform cfg matter class_name).principals ↔
      p ∈ (build_acl platform cfg matter' class_name).principals := by
    intro p
    rw [hleast.principals, hleast'.principals, hallowed]
  have hperm := (List.perm_ext_iff_of_nodup (hleast.sorted.imp ne_of_lt)
    (hleast'.sorted.imp ne_of_lt)).mpr hmem
  have hsame := hperm.eq_of_pairwise (fun a b _ _ hab hba => absurd hab (lt_asymm hba)) hleast.sorted
    hleast'.sorted
  show (⟨_, _, _⟩ : ACL) = ⟨_, _, _⟩
  exact congrArg (ACL.mk · "read" false) hsame

end encodings

/-- **The two encodings of the principals.** They mean the same exactly if no principal has a
    comma. Then every matter gets the same access lists from either. -/
theorem acl_encodings_agree_iff (platform : Platform) (ps : List String)
    (hloads : ReadsBack platform ps) :
    ((∀ p, p ∈ parse_principals platform (csv_ids ps) ↔
      p ∈ parse_principals platform (json_ids ps)) ↔ ∀ p ∈ ps, ',' ∉ p.toList) ∧
    ((∀ p ∈ ps, ',' ∉ p.toList) → ∀ (cfg : RoutingConfig) (matter : Matter) (class_name : String),
      build_acl platform cfg { matter with external_ids := csv_ids ps } class_name =
        build_acl platform cfg { matter with external_ids := json_ids ps } class_name) := by
  have hjson : parse_principals platform (json_ids ps) = stripped ps := parse_json hloads
  have hsame : (∀ p ∈ ps, ',' ∉ p.toList) → ∀ p, p ∈ parse_principals platform (csv_ids ps) ↔
      p ∈ parse_principals platform (json_ids ps) := by
    intro hplain p
    rw [hjson, parse_csv, stripped_split hplain]
  refine ⟨⟨?_, hsame⟩, ?_⟩
  · intro hagree p hp hcomma
    -- the principal is there in one encoding, and no piece of the other has a comma
    have hstripped := (comma_mem_strip p).mpr hcomma
    have hne : strip p ≠ "" := by
      intro hempty
      rw [hempty] at hstripped
      cases hstripped
    have hlisted : strip p ∈ parse_principals platform (csv_ids ps) := by
      rw [hagree, hjson, mem_stripped]
      exact ⟨⟨p, hp, rfl⟩, hne⟩
    rw [parse_csv, mem_stripped] at hlisted
    obtain ⟨⟨entry, hentry, heq⟩, -⟩ := hlisted
    obtain ⟨piece, hpiece, rfl⟩ := List.mem_map.mp hentry
    rw [← heq, comma_mem_strip, String.toList_ofList] at hstripped
    exact not_mem_of_mem_splitOn ',' hpiece hstripped
  · intro hplain cfg matter class_name
    exact build_acl_congr rfl (hsame hplain)

/-- A platform that reads what it wrote. -/
def reading_platform : Platform where
  lower s := s
  json_loads s :=
    match JsonCodec.read [' '] s.toList.length s.toList with
    | some (value, []) => some value
    | _ => none

theorem reads_back (ps : List String) : ReadsBack reading_platform ps := by
  have hread := JsonCodec.read_text [' '] (.arr (ps.map Json.str))
    (JsonCodec.text [' '] (.arr (ps.map Json.str))).length [] (Nat.le_refl _) JsonCodec.noNumber_nil
  rw [List.append_nil] at hread
  unfold ReadsBack reading_platform dumps_principals
  simp only [String.toList_ofList, hread]

/-- A paralegal with a comma in the name is somebody else in the legacy encoding. -/
theorem comma_paralegal_split : ¬ ∀ p,
    p ∈ parse_principals reading_platform (csv_ids ["attorney-1", "Doe, Jane"]) ↔
      p ∈ parse_principals reading_platform (json_ids ["attorney-1", "Doe, Jane"]) := by
  intro hagree
  have hplain := (acl_encodings_agree_iff reading_platform ["attorney-1", "Doe, Jane"]
    (reads_back _)).1.mp hagree "Doe, Jane" (by decide)
  exact hplain (by decide)

end CaseAutomation.Routing
