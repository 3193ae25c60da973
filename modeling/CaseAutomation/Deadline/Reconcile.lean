import CaseAutomation.Base.Errors
import CaseAutomation.Deadline.DueDates
import CaseAutomation.Deadline.Schedule
import CaseAutomation.Framework.Matching
import Mathlib.Data.List.Sort
import Mathlib.Data.Prod.Lex

/-! # Reconciliation

    `Reconciler` of `deadline/reconcile.py`: the deadlines of the engine for a matter against those of the
    case system. A deadline of the engine is compared with the first one of its rule there, and a deadline
    of the case system is in the engine if any has its rule.

    For rules that occur once on either side these scans are enough. Where a rule is repeated, or
    a deadline has no rule, they can find nothing although the two lists do not match
    (`reconcile_misses_iff`).
-/

namespace CaseAutomation.Deadline

open Framework

/-! ## The reconciler -/

/-- What is read of a deadline of the case system. -/
structure CaseDeadline where
  id : String
  rule_id : Option String
  due_at : DateTime
  deriving DecidableEq

inductive DriftKind where
  | missing_in_engine
  | missing_in_case
  | divergent_due_at
  | divergent_status
  deriving DecidableEq, Repr

def DriftKind.value : DriftKind → String
  | .missing_in_engine => "missing_in_engine"
  | .missing_in_case => "missing_in_case"
  | .divergent_due_at => "divergent_due_at"
  | .divergent_status => "divergent_status"

structure Drift where
  matter_id : String
  deadline_id : Option String
  kind : DriftKind
  detail : String
  detected_at : DateTime
  deriving DecidableEq

/-- `a - b` in microseconds. -/
def DateTime.sub (a b : DateTime) : Except Exn Int :=
  match a.utcoffset, b.utcoffset with
  | none, none => .ok (a.wall - b.wall)
  | some x, some y => .ok ((a.wall - x) - (b.wall - y))
  | _, _ => .error (.type_error "can't subtract offset-naive and offset-aware datetimes")

/-- `list_for_matter`. -/
def DeadlineStore.list_for_matter (store : DeadlineStore) (matter_id : String) :
    List ScheduledDeadline :=
  store.deadlines.values.filter fun sd => decide (sd.matter_id = matter_id)

/-- `match`: the first deadline of the case system for the rule. -/
def find_case (case_deadlines : List CaseDeadline) (rule_id : String) : Option CaseDeadline :=
  case_deadlines.find? fun d => decide (d.rule_id = some rule_id)

/-- The body of the loop over the deadlines of the engine. -/
def engine_drift (matter_id : String) (now : DateTime) (case_deadlines : List CaseDeadline)
    (sd : ScheduledDeadline) : Except Exn (List Drift) :=
  match find_case case_deadlines sd.rule_ref.rule_id with
  | none => .ok [{
      matter_id := matter_id
      deadline_id := some sd.deadline_id
      kind := .missing_in_case
      detail := "Rule " ++ repr_str sd.rule_ref.rule_id ++
        " scheduled in engine but not found in case system."
      detected_at := now }]
  | some d => do
    let difference ← d.due_at.sub sd.trace.due_at
    if 86400000000 < difference.natAbs then
      .ok [{
        matter_id := matter_id
        deadline_id := some sd.deadline_id
        kind := .divergent_due_at
        detail := "Engine due_at=" ++ sd.trace.due_at.isoformat ++ ", case due_at=" ++ d.due_at.isoformat
        detected_at := now }]
    else .ok []

/-- The loop over the deadlines of the engine. -/
def engine_drifts (matter_id : String) (now : DateTime) (case_deadlines : List CaseDeadline) :
    List ScheduledDeadline → Except Exn (List Drift)
  | [] => .ok []
  | sd :: rest => do
    let found ← engine_drift matter_id now case_deadlines sd
    let others ← engine_drifts matter_id now case_deadlines rest
    .ok (found ++ others)

/-- The body of the loop over the deadlines of the case system. -/
def case_drift (matter_id : String) (now : DateTime) (engine_deadlines : List ScheduledDeadline)
    (d : CaseDeadline) : List Drift :=
  match d.rule_id with
  | none => []
  | some case_rule_id =>
    if engine_deadlines.any fun sd => sd.rule_ref.rule_id == case_rule_id then []
    else if case_rule_id = "" then []
    else [{
      matter_id := matter_id
      deadline_id := none
      kind := .missing_in_engine
      detail := "Case system has deadline with rule_id=" ++ repr_str case_rule_id ++ " not in engine."
      detected_at := now }]

/-- What a reconciliation does: the events it alerts, and those it writes to the audit. The failures of
    either are swallowed. -/
structure Reconciliation where
  findings : Except Exn (List Drift)
  alerts : List (String × JsonObj)
  audits : List (String × JsonObj)

/-- `Reconciler.reconcile`, with the answer of the case connector, if there is one. The deadlines of a store
    have different ids, so that a dict of them by their ids lists them as they are. -/
def reconcile (store : DeadlineStore) (case_connector : Option (Except Exn (List CaseDeadline)))
    (matter_id : String) (now : DateTime) : Reconciliation :=
  let engine_deadlines := store.list_for_matter matter_id
  match case_connector.getD (.ok []) with
  | .error exc => {
      findings := .ok []
      alerts := [("reconciliation_connector_error",
        [("matter_id", .str matter_id), ("error", .str exc.to_str)])]
      audits := [("reconcile.connector_error", [])] }
  | .ok case_deadlines =>
    match engine_drifts matter_id now case_deadlines engine_deadlines with
    | .error exc => ⟨.error exc, [], []⟩
    | .ok drifts =>
      let findings := drifts ++ case_deadlines.flatMap (case_drift matter_id now engine_deadlines)
      { findings := .ok findings
        alerts := findings.map fun f => ("reconciliation_drift",
          [("kind", .str f.kind.value), ("matter_id", .str matter_id)])
        audits := [("reconcile.complete", [("drift_count", .int findings.length)])] }

/-! ## What the scans find -/

/-- The due dates are at most a day apart. -/
def Close (sd : ScheduledDeadline) (d : CaseDeadline) : Prop :=
  ∃ difference, d.due_at.sub sd.trace.due_at = .ok difference ∧ difference.natAbs ≤ 86400000000

/-- The deadlines are for one rule, at most a day apart. -/
def Pair (sd : ScheduledDeadline) (d : CaseDeadline) : Prop :=
  some sd.rule_ref.rule_id = d.rule_id ∧ Close sd d

/-- The two lists can be paired off. -/
def Matched (engine : List ScheduledDeadline) (case_deadlines : List CaseDeadline) : Prop :=
  Multiset.Rel Pair (engine : Multiset ScheduledDeadline) (case_deadlines : Multiset CaseDeadline)

/-- Neither scan finds anything. -/
structure NoFindings (engine : List ScheduledDeadline) (case_deadlines : List CaseDeadline) : Prop where
  engine_scan : ∀ sd ∈ engine, ∃ d, find_case case_deadlines sd.rule_ref.rule_id = some d ∧ Close sd d
  case_scan : ∀ d ∈ case_deadlines, ∀ rule_id, d.rule_id = some rule_id → rule_id ≠ "" →
    ∃ sd ∈ engine, sd.rule_ref.rule_id = rule_id

section scans
variable {matter_id : String} {now : DateTime} {engine : List ScheduledDeadline}
  {case_deadlines : List CaseDeadline}

theorem engine_drift_nil {sd : ScheduledDeadline} :
    engine_drift matter_id now case_deadlines sd = .ok [] ↔
      ∃ d, find_case case_deadlines sd.rule_ref.rule_id = some d ∧ Close sd d := by
  unfold engine_drift Close
  cases hfind : find_case case_deadlines sd.rule_ref.rule_id with
  | none => simp
  | some d =>
    cases hsub : d.due_at.sub sd.trace.due_at with
    | error e => simp [hsub, bind, Except.bind]
    | ok difference =>
      simp only [hsub, bind, Except.bind]
      by_cases hfar : 86400000000 < difference.natAbs
      · rw [if_pos hfar]
        constructor
        · intro h
          cases h
        · rintro ⟨d', hd', difference', hdifference, hnear⟩
          cases hd'
          cases hsub.symm.trans hdifference
          omega
      · rw [if_neg hfar]
        exact ⟨fun _ => ⟨d, rfl, difference, hsub, by omega⟩, fun _ => rfl⟩

theorem engine_drifts_nil : engine_drifts matter_id now case_deadlines engine = .ok [] ↔
    ∀ sd ∈ engine, engine_drift matter_id now case_deadlines sd = .ok [] := by
  induction engine with
  | nil => simp [engine_drifts]
  | cons sd rest ih =>
    rw [engine_drifts, List.forall_mem_cons, ← ih]
    cases hfirst : engine_drift matter_id now case_deadlines sd with
    | error e => simp [bind, Except.bind]
    | ok found =>
      cases hrest : engine_drifts matter_id now case_deadlines rest with
      | error e => simp [bind, Except.bind]
      | ok others => simp [bind, Except.bind]

theorem case_drift_nil {d : CaseDeadline} : case_drift matter_id now engine d = [] ↔
    ∀ rule_id, d.rule_id = some rule_id → rule_id ≠ "" →
      ∃ sd ∈ engine, sd.rule_ref.rule_id = rule_id := by
  unfold case_drift
  cases hrule : d.rule_id with
  | none => simp
  | some rule_id =>
    by_cases hany : ∃ sd ∈ engine, sd.rule_ref.rule_id = rule_id
    · have hfound : (engine.any fun sd => sd.rule_ref.rule_id == rule_id) = true := by
        simpa using hany
      simp only [hfound, if_true]
      refine ⟨fun _ rule_id' heq _ => ?_, fun _ => trivial⟩
      cases heq
      exact hany
    · have hfound : (engine.any fun sd => sd.rule_ref.rule_id == rule_id) = false := by
        simpa using hany
      by_cases hempty : rule_id = ""
      · simp [hempty]
      · simp only [hfound, Bool.false_eq_true, if_false, if_neg hempty]
        exact ⟨fun h => (by cases h), fun h => absurd (h rule_id rfl hempty) hany⟩

/-- **The empty list of findings.** -/
theorem reconcile_nil {store : DeadlineStore} :
    (reconcile store (some (.ok case_deadlines)) matter_id now).findings = .ok [] ↔
      NoFindings (store.list_for_matter matter_id) case_deadlines := by
  unfold reconcile
  simp only [Option.getD_some]
  have hengine : engine_drifts matter_id now case_deadlines (store.list_for_matter matter_id) = .ok [] ↔
      ∀ sd ∈ store.list_for_matter matter_id, ∃ d,
        find_case case_deadlines sd.rule_ref.rule_id = some d ∧ Close sd d := by
    rw [engine_drifts_nil]
    simp only [engine_drift_nil]
  cases hdrifts : engine_drifts matter_id now case_deadlines (store.list_for_matter matter_id) with
  | error e =>
    simp only
    constructor
    · intro h
      cases h
    · intro h
      cases hdrifts.symm.trans (hengine.mpr h.engine_scan)
  | ok drifts =>
    simp only [Except.ok.injEq, List.append_eq_nil_iff, List.flatMap_eq_nil_iff, case_drift_nil]
    constructor
    · rintro ⟨rfl, hcase⟩
      exact ⟨hengine.mp hdrifts, hcase⟩
    · rintro ⟨hscan, hcase⟩
      cases hdrifts.symm.trans (hengine.mpr hscan)
      exact ⟨rfl, hcase⟩

end scans

/-! ## Repeated rules -/

/-- Datetimes without a zone first, and then by time. -/
def due_key (t : DateTime) : Bool ×ₗ Int := toLex (t.utcoffset.isSome, t.wall - t.utcoffset.getD 0)

/-- The deadlines of the engine for a rule, sorted by their due date. -/
def engine_sorted (engine : List ScheduledDeadline) (rule_id : String) : List ScheduledDeadline :=
  (engine.filter fun sd => decide (sd.rule_ref.rule_id = rule_id)).insertionSort
    fun sd sd' => due_key sd.trace.due_at ≤ due_key sd'.trace.due_at

/-- The deadlines of the case system for a rule, sorted by their due date. -/
def case_sorted (case_deadlines : List CaseDeadline) (rule_id : String) : List CaseDeadline :=
  (case_deadlines.filter fun d => decide (d.rule_id = some rule_id)).insertionSort
    fun d d' => due_key d.due_at ≤ due_key d'.due_at

/-- The rules of the case system are those of the engine, each as often, and where a rule is
    repeated the sorted due dates agree. -/
structure Even (engine : List ScheduledDeadline) (case_deadlines : List CaseDeadline) : Prop where
  known : ∀ d ∈ case_deadlines, ∃ sd ∈ engine, some sd.rule_ref.rule_id = d.rule_id
  counts : ∀ sd ∈ engine, (engine_sorted engine sd.rule_ref.rule_id).length =
    (case_sorted case_deadlines sd.rule_ref.rule_id).length
  agree : ∀ sd ∈ engine, 1 < (engine_sorted engine sd.rule_ref.rule_id).length →
    List.Forall₂ Close (engine_sorted engine sd.rule_ref.rule_id)
      (case_sorted case_deadlines sd.rule_ref.rule_id)

section matching
variable {engine : List ScheduledDeadline} {case_deadlines : List CaseDeadline} {sd : ScheduledDeadline}
  {d : CaseDeadline} {rule_id : String}

/-- Nearness by the keys. -/
theorem close_iff : Close sd d ↔ sd.trace.due_at.utcoffset.isSome = d.due_at.utcoffset.isSome ∧
    ((d.due_at.wall - d.due_at.utcoffset.getD 0) -
      (sd.trace.due_at.wall - sd.trace.due_at.utcoffset.getD 0)).natAbs ≤ 86400000000 := by
  unfold Close DateTime.sub
  cases d.due_at.utcoffset with
  | none =>
    cases sd.trace.due_at.utcoffset with
    | none => simp
    | some y => simp
  | some x =>
    cases sd.trace.due_at.utcoffset with
    | none => simp
    | some y => simp

/-- Crossing pairs can be exchanged. -/
theorem close_uncrosses : Uncrosses
    (fun sd sd' : ScheduledDeadline => due_key sd.trace.due_at ≤ due_key sd'.trace.due_at)
    (fun d d' : CaseDeadline => due_key d.due_at ≤ due_key d'.due_at) Close := by
  intro sd sd' d d' hle hle' hclose hclose'
  rw [close_iff] at hclose hclose'
  rw [close_iff, close_iff]
  unfold due_key at hle hle'
  rw [Prod.Lex.toLex_le_toLex] at hle hle'
  simp only at hle hle'
  obtain ⟨hzone, hnear⟩ := hclose
  obtain ⟨hzone', hnear'⟩ := hclose'
  rw [hzone, hzone'] at hle
  rcases hle' with hlt' | ⟨hsame', htime'⟩
  · rcases hle with hlt | ⟨hsame, -⟩
    · exact absurd hlt (lt_asymm hlt')
    · exact absurd hsame.symm hlt'.ne
  · rcases hle with hlt | ⟨-, htime⟩
    · exact absurd hsame'.symm hlt.ne
    · -- all four are of one kind, and in order
      exact ⟨⟨hzone.trans hsame'.symm, by omega⟩, ⟨hzone'.trans hsame', by omega⟩⟩

theorem mem_engine_sorted : sd ∈ engine_sorted engine rule_id ↔
    sd ∈ engine ∧ sd.rule_ref.rule_id = rule_id := by
  rw [engine_sorted, List.mem_insertionSort, List.mem_filter, decide_eq_true_iff]

theorem mem_case_sorted : d ∈ case_sorted case_deadlines rule_id ↔
    d ∈ case_deadlines ∧ d.rule_id = some rule_id := by
  rw [case_sorted, List.mem_insertionSort, List.mem_filter, decide_eq_true_iff]

/-- The pairs of a rule. -/
theorem rel_rule_iff : ((engine : Multiset ScheduledDeadline).filter
      fun sd => some sd.rule_ref.rule_id = some rule_id).Rel Pair
      ((case_deadlines : Multiset CaseDeadline).filter fun d => d.rule_id = some rule_id) ↔
    List.Forall₂ Close (engine_sorted engine rule_id) (case_sorted case_deadlines rule_id) := by
  have htotal : Std.Total fun sd sd' : ScheduledDeadline =>
      due_key sd.trace.due_at ≤ due_key sd'.trace.due_at := ⟨fun _ _ => le_total _ _⟩
  have htrans : IsTrans ScheduledDeadline fun sd sd' =>
      due_key sd.trace.due_at ≤ due_key sd'.trace.due_at := ⟨fun _ _ _ => le_trans⟩
  have htotal' : Std.Total fun d d' : CaseDeadline => due_key d.due_at ≤ due_key d'.due_at :=
    ⟨fun _ _ => le_total _ _⟩
  have htrans' : IsTrans CaseDeadline fun d d' => due_key d.due_at ≤ due_key d'.due_at :=
    ⟨fun _ _ _ => le_trans⟩
  have hengine : (engine : Multiset ScheduledDeadline).filter
      (fun sd => some sd.rule_ref.rule_id = some rule_id) = (engine_sorted engine rule_id : Multiset _) := by
    rw [Multiset.filter_coe, Multiset.coe_eq_coe]
    simp only [Option.some.injEq]
    exact (List.perm_insertionSort _ _).symm
  have hcase : (case_deadlines : Multiset CaseDeadline).filter (fun d => d.rule_id = some rule_id) =
      (case_sorted case_deadlines rule_id : Multiset _) := by
    rw [Multiset.filter_coe, Multiset.coe_eq_coe]
    exact (List.perm_insertionSort _ _).symm
  have hsorted : Multiset.Rel Close (engine_sorted engine rule_id : Multiset _)
      (case_sorted case_deadlines rule_id : Multiset _) ↔
        List.Forall₂ Close (engine_sorted engine rule_id) (case_sorted case_deadlines rule_id) :=
    rel_sorted_iff close_uncrosses (List.pairwise_insertionSort _ _) (List.pairwise_insertionSort _ _)
  rw [hengine, hcase, ← hsorted]
  constructor
  · exact fun h => h.mono fun _ _ _ _ hpair => hpair.2
  · intro h
    refine h.mono fun sd hsd d hd hclose => ⟨?_, hclose⟩
    rw [(mem_engine_sorted.mp (Multiset.mem_coe.mp hsd)).2, (mem_case_sorted.mp (Multiset.mem_coe.mp hd)).2]

/-- **When the two lists match**, if the scans find nothing. -/
theorem matched_iff_even (hnothing : NoFindings engine case_deadlines) :
    Matched engine case_deadlines ↔ Even engine case_deadlines := by
  unfold Matched
  rw [rel_classes_iff (f := fun sd : ScheduledDeadline => some sd.rule_ref.rule_id)
    (g := CaseDeadline.rule_id) fun sd d hpair => hpair.1]
  constructor
  · intro h
    refine ⟨?_, ?_, ?_⟩
    · intro d hd
      have hclass := Multiset.rel_flip.mpr (h d.rule_id)
      obtain ⟨sd, hsd, -⟩ := Multiset.exists_mem_of_rel_of_mem hclass
        (Multiset.mem_filter.mpr ⟨Multiset.mem_coe.mpr hd, rfl⟩)
      obtain ⟨hmem, hrule⟩ := Multiset.mem_filter.mp hsd
      exact ⟨sd, Multiset.mem_coe.mp hmem, hrule⟩
    · intro sd hsd
      exact (rel_rule_iff.mp (h (some sd.rule_ref.rule_id))).length_eq
    · intro sd hsd _
      exact rel_rule_iff.mp (h (some sd.rule_ref.rule_id))
  · intro h k
    by_cases hknown : ∃ sd ∈ engine, some sd.rule_ref.rule_id = k
    · obtain ⟨sd, hsd, rfl⟩ := hknown
      rw [rel_rule_iff]
      by_cases hmany : 1 < (engine_sorted engine sd.rule_ref.rule_id).length
      · exact h.agree sd hsd hmany
      · -- the only deadline of its rule was compared with the only one of the case system
        have hcounts := h.counts sd hsd
        have hmem : sd ∈ engine_sorted engine sd.rule_ref.rule_id := mem_engine_sorted.mpr ⟨hsd, rfl⟩
        obtain ⟨d, hfind, hclose⟩ := hnothing.engine_scan sd hsd
        have hd : d ∈ case_sorted case_deadlines sd.rule_ref.rule_id :=
          mem_case_sorted.mpr ⟨List.mem_of_find?_eq_some hfind, by simpa using List.find?_some hfind⟩
        obtain ⟨sd', hone⟩ := List.length_eq_one_iff.mp (show (engine_sorted engine
          sd.rule_ref.rule_id).length = 1 by
            have hpos := List.length_pos_of_mem hmem
            omega)
        obtain ⟨d', hone'⟩ := List.length_eq_one_iff.mp (show (case_sorted case_deadlines
          sd.rule_ref.rule_id).length = 1 by rw [← hcounts, hone]; rfl)
        rw [hone] at hmem ⊢
        rw [hone'] at hd ⊢
        rw [List.mem_singleton] at hmem hd
        subst hmem
        subst hd
        exact .cons hclose .nil
    · -- no deadline of either side has this rule
      have hengine : (engine : Multiset ScheduledDeadline).filter
          (fun sd => some sd.rule_ref.rule_id = k) = 0 := by
        rw [Multiset.filter_eq_nil]
        exact fun sd hsd hrule => hknown ⟨sd, Multiset.mem_coe.mp hsd, hrule⟩
      have hcase : (case_deadlines : Multiset CaseDeadline).filter (fun d => d.rule_id = k) = 0 := by
        rw [Multiset.filter_eq_nil]
        intro d hd hrule
        obtain ⟨sd, hsd, hsame⟩ := h.known d (Multiset.mem_coe.mp hd)
        exact hknown ⟨sd, hsd, hsame.trans hrule⟩
      rw [hengine, hcase]
      exact .zero

end matching

/-- **Reconciliation misses repeated rules and deadlines without one.** For every store and all deadlines of the
    case system: that the empty list is returned only if the two sides can be paired off, with
    equal rules and due dates at most a day apart, holds if and only if the scans find something, or the rules
    of the case system are those of the engine, each as often on both sides, and where a rule is repeated
    the due dates agree in their order. -/
theorem reconcile_misses_iff (store : DeadlineStore) (case_deadlines : List CaseDeadline)
    (matter_id : String) (now : DateTime) :
    ((reconcile store (some (.ok case_deadlines)) matter_id now).findings = .ok [] →
      Matched (store.list_for_matter matter_id) case_deadlines) ↔
    (NoFindings (store.list_for_matter matter_id) case_deadlines →
      Even (store.list_for_matter matter_id) case_deadlines) := by
  rw [reconcile_nil]
  constructor
  · intro h hnothing
    exact (matched_iff_even hnothing).mp (h hnothing)
  · intro h hnothing
    exact (matched_iff_even hnothing).mpr (h hnothing)

/-- The answer, and a second deadline of its rule a month later. -/
def answer_twice : List CaseDeadline :=
  [⟨"c1", some "answer", nine_utc 739721⟩, ⟨"c2", some "answer", nine_utc 739751⟩]

/-- The second deadline is missed: the engine has one of its rule. -/
theorem second_answer_missed : ¬ ∀ (store : DeadlineStore) (case_deadlines : List CaseDeadline)
    (matter_id : String) (now : DateTime),
    (reconcile store (some (.ok case_deadlines)) matter_id now).findings = .ok [] →
      Matched (store.list_for_matter matter_id) case_deadlines := by
  intro hclaim
  have hruns : ((reconcile answer_world.store (some (.ok answer_twice)) "m1"
      (nine_utc 739702)).findings.toOption.map List.length) = some 0 ∧
      (answer_world.store.list_for_matter "m1").length = 1 := by
    decide +kernel
  obtain ⟨hnone, hone⟩ := hruns
  obtain ⟨findings, hfindings, hlength⟩ := ok_of_toOption_map hnone
  rw [List.length_eq_zero_iff.mp hlength] at hfindings
  have hcards := Multiset.card_eq_card_of_rel (hclaim _ _ _ _ hfindings)
  rw [Multiset.coe_card, Multiset.coe_card, hone] at hcards
  cases hcards

end CaseAutomation.Deadline
