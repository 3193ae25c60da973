import CaseAutomation.Framework.Threads
import CaseAutomation.Audit.Service

/-! # Concurrent Audit Writers

    Transactions (`unit_of_work`) that call `AuditService.record` one or more times, interleaved
    statement by statement under read-committed isolation. Each `record` reads the last row it
    can see, then inserts a row that refers to it; nothing keeps another transaction
    from doing the same in between. The log stays a chain as long as the writers take turns:
    a record reads the head when no other transaction has an uncommitted row, and
    appends before another transaction does.

    A statement may fail, and then the transaction is rolled back.
-/

namespace CaseAutomation.Audit

open Framework Program

/-! ## Statements -/

/-- What a transaction does. -/
inductive Stmt where
  | get_latest
  /-- Read the clock. -/
  | now
  /-- INSERT and flush; the table assigns the id. -/
  | append (row : Int → AuditRow)
  /-- What else the transaction does to its tables. -/
  | work
  | commit
  | rollback

abbrev Stmt.Resp : Stmt → Type
  | .get_latest => Option AuditRow
  | .now => Timestamp
  | .append _ => AuditRow
  | .work => Unit
  | .commit => Unit
  | .rollback => Unit

/-- An exception of a statement or of the work around it. -/
inductive Failure where
  | failed

/-- Programs over statements. -/
abbrev T (α : Type) : Type := Program Stmt Stmt.Resp Failure α

abbrev issue (q : Stmt) : T q.Resp := Program.perform q

/-- The arguments of a `record` call. -/
structure Entry where
  actor : String
  action : String
  inputs : JsonObj
  outputs : JsonObj
  run_id : Option String
  approval : Option JsonObj

/-- The row that `record` builds. -/
def Entry.row (entry : Entry) (prev_hash : String) (now : Timestamp) (id : Int) : AuditRow :=
  RecordArgs.row ⟨entry.actor, entry.action, entry.inputs, entry.outputs, entry.run_id,
    entry.approval, now⟩ id prev_hash

/-- `AuditService.record`. -/
def record_entry (entry : Entry) : T AuditRow := do
  let latest ← issue .get_latest
  let prev_hash := head_hash latest
  let now ← issue .now
  issue (.append (entry.row prev_hash now))

/-- What the body of a transaction does, in order. -/
inductive Task where
  | record (entry : Entry)
  | work

/-- The body of a transaction. -/
def body : List Task → T Unit
  | [] => pure ()
  | .record entry :: tasks => do
    let _ ← record_entry entry
    body tasks
  | .work :: tasks => do
    issue .work
    body tasks

/-- `unit_of_work`: commit at the end, roll back on an exception. -/
def unit_of_work (tasks : List Task) : T Unit := do
  match ← (body tasks).attempt with
  | .ok () => issue .commit
  | .error e => do
    issue .rollback
    .raise e

/-! ## The table -/

/-- A row with the transaction that inserted it. -/
structure Stored where
  row : AuditRow
  owner : Nat
  committed : Bool

/-- The row after transaction `i` has committed. -/
def Stored.commit_by (i : Nat) (r : Stored) : Stored :=
  if r.owner = i then { r with committed := true } else r

/-- The table in id order, the next id, and who has read the head since the last append. -/
structure AuditDb where
  rows : List Stored
  seq : Int
  fresh : List Nat

namespace AuditDb

def empty : AuditDb := ⟨[], 1, []⟩

/-- Transaction `i` sees the row: it is committed or its own. -/
def visible (i : Nat) (r : Stored) : Bool := r.committed || decide (r.owner = i)

/-- The rows that transaction `i` sees. -/
def seen (i : Nat) (s : AuditDb) : List AuditRow := (s.rows.filter (visible i)).map Stored.row

/-- The committed log. -/
def log (s : AuditDb) : List AuditRow := (s.rows.filter Stored.committed).map Stored.row

def commit (i : Nat) (s : AuditDb) : AuditDb := { s with rows := s.rows.map (Stored.commit_by i) }

def rollback (i : Nat) (s : AuditDb) : AuditDb :=
  { s with rows := s.rows.filter fun r => r.committed || decide (r.owner ≠ i) }

end AuditDb

/-- What statement `q` of transaction `i` does at time `now`. -/
def exec_stmt (now : Timestamp) (i : Nat) : (q : Stmt) → AuditDb → q.Resp × AuditDb
  | .get_latest, s => ((s.seen i).getLast?, { s with fresh := i :: s.fresh })
  | .now, s => (now, s)
  | .append row, s => (row s.seq,
      { rows := s.rows ++ [⟨row s.seq, i, false⟩], seq := s.seq + 1, fresh := [] })
  | .work, s => ((), s)
  | .commit, s => ((), s.commit i)
  | .rollback, s => ((), s.rollback i)

/-- A statement is answered, or it fails; a failed INSERT may have used up an id. -/
inductive statement (i : Nat) (q : Stmt) (s : AuditDb) : Except Failure q.Resp → AuditDb → Prop where
  | answered (now : Timestamp) : statement i q s (.ok (exec_stmt now i q s).1) (exec_stmt now i q s).2
  | failed {seq : Int} : s.seq ≤ seq →
    statement i q s (.error .failed) { s.rollback i with seq := seq }

/-- The writers take turns: the head is read when no other transaction has an uncommitted
    row, and a row is appended when no other transaction has appended since. -/
def in_turn (i : Nat) : Stmt → AuditDb → Prop
  | .get_latest, s => ∀ r ∈ s.rows, AuditDb.visible i r = true
  | .append _, s => i ∈ s.fresh
  | _, _ => True

instance (i : Nat) (q : Stmt) (s : AuditDb) : Decidable (in_turn i q s) :=
  match q with
  | .get_latest => inferInstanceAs (Decidable (∀ r ∈ s.rows, AuditDb.visible i r = true))
  | .append _ => inferInstanceAs (Decidable (i ∈ s.fresh))
  | .now => inferInstanceAs (Decidable True)
  | .work => inferInstanceAs (Decidable True)
  | .commit => inferInstanceAs (Decidable True)
  | .rollback => inferInstanceAs (Decidable True)

/-- The statements of writers that take turns. -/
def turns (i : Nat) : Relation Stmt Stmt.Resp Failure AuditDb :=
  fun q s r s' => statement i q s r s' ∧ in_turn i q s

/-! ## The invariant -/

section proof
variable {i j : Nat} {s s' : AuditDb} {prev : String}

/-- The rows of the table, whoever wrote them. -/
def AuditDb.all (s : AuditDb) : List AuditRow := s.rows.map Stored.row

/-- The table is a chain: committed rows, then the rows of at most one open transaction. -/
structure OneWriter (s : AuditDb) : Prop where
  linked : audit_chain.Linked genesis_hash s.all
  split : ∃ cs us i, s.rows = cs ++ us ∧ (∀ r ∈ cs, r.committed = true) ∧
    ∀ r ∈ us, r.committed = false ∧ r.owner = i

/-- What the others leave alone of a transaction that has read the head. -/
def KeepsHead (i : Nat) (s s' : AuditDb) : Prop :=
  i ∈ s'.fresh → i ∈ s.fresh ∧ ((∀ r ∈ s.rows, AuditDb.visible i r = true) →
    (∀ r ∈ s'.rows, AuditDb.visible i r = true) ∧ s'.all = s.all)

/-- If nobody has appended since, transaction `i` sees every row, and `prev` is the hash of the
    last one. -/
def Head (i : Nat) (prev : String) (s : AuditDb) : Prop :=
  i ∈ s.fresh → (∀ r ∈ s.rows, AuditDb.visible i r = true) ∧
    prev = audit_chain.tip genesis_hash s.all

/-- The contract of transaction `i`. -/
def writer_contract (i : Nat) : Contract Stmt Stmt.Resp Failure AuditDb :=
  threadContract turns OneWriter KeepsHead (fun _ _ _ => True) i

theorem KeepsHead.refl (i : Nat) (s : AuditDb) : KeepsHead i s s := fun h => ⟨h, fun hv => ⟨hv, rfl⟩⟩

theorem KeepsHead.trans {a b c : AuditDb} (h : KeepsHead i a b) (h' : KeepsHead i b c) :
    KeepsHead i a c := by
  intro hc
  obtain ⟨hb, hbc⟩ := h' hc
  obtain ⟨ha, hab⟩ := h hb
  refine ⟨ha, ?_⟩
  intro hv
  obtain ⟨hvb, hallb⟩ := hab hv
  obtain ⟨hvc, hallc⟩ := hbc hvb
  exact ⟨hvc, hallc.trans hallb⟩

theorem Head.keeps (h : Head i prev s) (hk : KeepsHead i s s') : Head i prev s' := by
  intro hi
  obtain ⟨hs, hsame⟩ := hk hi
  obtain ⟨hv, hprev⟩ := h hs
  obtain ⟨hv', hall⟩ := hsame hv
  exact ⟨hv', by rw [hall, hprev]⟩

/-- The committed log is the beginning of the table. -/
theorem OneWriter.log_linked (h : OneWriter s) : audit_chain.Linked genesis_hash s.log := by
  obtain ⟨cs, us, i, hrows, hcs, hus⟩ := h.split
  have hlog : s.log = cs.map Stored.row := by
    unfold AuditDb.log
    have hcommitted : cs.filter Stored.committed = cs := List.filter_eq_self.mpr hcs
    have hopen : us.filter Stored.committed = [] := by
      rw [List.filter_eq_nil_iff]
      intro r hr
      rw [(hus r hr).1]
      exact Bool.false_ne_true
    rw [hrows, List.filter_append, hcommitted, hopen, List.append_nil]
  have hl := h.linked
  rw [AuditDb.all, hrows, List.map_append] at hl
  rw [hlog]
  exact (Chaining.linked_append.mp hl).1

/-! ## What each statement keeps -/

theorem commit_by_row (i : Nat) (r : Stored) : (r.commit_by i).row = r.row := by
  unfold Stored.commit_by
  split_ifs <;> rfl

theorem commit_by_committed {r : Stored} (i : Nat) (h : r.committed = true) :
    (r.commit_by i).committed = true := by
  unfold Stored.commit_by
  split_ifs
  · rfl
  · exact h

theorem commit_by_visible {r : Stored} (i : Nat) (h : AuditDb.visible j r = true) :
    AuditDb.visible j (r.commit_by i) = true := by
  unfold Stored.commit_by
  split_ifs
  · rfl
  · exact h

theorem commit_keeps (h : OneWriter s) (i : Nat) :
    OneWriter (s.commit i) ∧ ∀ j, j ≠ i → KeepsHead j s (s.commit i) := by
  have hall : (s.commit i).all = s.all := by
    simp only [AuditDb.all, AuditDb.commit, List.map_map]
    exact List.map_congr_left fun r _ => commit_by_row i r
  refine ⟨⟨by rw [hall]; exact h.linked, ?_⟩, ?_⟩
  · obtain ⟨cs, us, k, hrows, hcs, hus⟩ := h.split
    have hcs' : ∀ r ∈ cs.map (Stored.commit_by i), r.committed = true := by
      intro r hr
      obtain ⟨q, hq, rfl⟩ := List.mem_map.mp hr
      exact commit_by_committed i (hcs q hq)
    by_cases hik : k = i
    · -- the open transaction commits
      refine ⟨(s.commit i).rows, [], i, (List.append_nil _).symm, ?_, fun r hr => by cases hr⟩
      intro r hr
      rw [AuditDb.commit, hrows, List.map_append] at hr
      obtain hr | hr := List.mem_append.mp hr
      · exact hcs' r hr
      · obtain ⟨q, hq, rfl⟩ := List.mem_map.mp hr
        rw [Stored.commit_by, if_pos ((hus q hq).2.trans hik)]
    · have hother : us.map (Stored.commit_by i) = us := by
        rw [List.map_congr_left (g := id), List.map_id]
        intro r hr
        have hne : r.owner ≠ i := fun he => hik ((hus r hr).2.symm.trans he)
        rw [Stored.commit_by, if_neg hne]
        rfl
      refine ⟨cs.map (Stored.commit_by i), us, k, ?_, hcs', hus⟩
      show s.rows.map (Stored.commit_by i) = _
      rw [hrows, List.map_append, hother]
  · intro j _ hj
    refine ⟨hj, fun hv => ⟨?_, hall⟩⟩
    intro r hr
    obtain ⟨q, hq, rfl⟩ := List.mem_map.mp hr
    exact commit_by_visible i (hv q hq)

/-- A rollback, perhaps with ids used up. -/
theorem rollback_keeps (h : OneWriter s) (i : Nat) (seq : Int) :
    OneWriter { s.rollback i with seq := seq } ∧
      ∀ j, j ≠ i → KeepsHead j s { s.rollback i with seq := seq } := by
  constructor
  · obtain ⟨cs, us, k, hrows, hcs, hus⟩ := h.split
    have hkeep : cs.filter (fun r => r.committed || decide (r.owner ≠ i)) = cs :=
      List.filter_eq_self.mpr fun r hr => by rw [hcs r hr]; rfl
    by_cases hik : k = i
    · -- the open transaction is undone
      have hdrop : us.filter (fun r => r.committed || decide (r.owner ≠ i)) = [] := by
        rw [List.filter_eq_nil_iff]
        intro r hr
        rw [(hus r hr).1, (hus r hr).2, hik]
        simp
      have hrest : (s.rollback i).rows = cs := by
        rw [AuditDb.rollback, hrows, List.filter_append, hkeep, hdrop, List.append_nil]
      refine ⟨?_, cs, [], i, by rw [hrest, List.append_nil], hcs, fun r hr => by cases hr⟩
      have hl := h.linked
      rw [AuditDb.all, hrows, List.map_append] at hl
      rw [AuditDb.all, hrest]
      exact (Chaining.linked_append.mp hl).1
    · have hstay : us.filter (fun r => r.committed || decide (r.owner ≠ i)) = us := by
        refine List.filter_eq_self.mpr fun r hr => ?_
        rw [(hus r hr).2]
        simp [hik]
      have hrest : (s.rollback i).rows = s.rows := by
        show s.rows.filter (fun r => r.committed || decide (r.owner ≠ i)) = s.rows
        rw [hrows, List.filter_append, hkeep, hstay]
      refine ⟨?_, cs, us, k, by rw [hrest, hrows], hcs, hus⟩
      rw [AuditDb.all, hrest]
      exact h.linked
  · intro j hji hj
    refine ⟨hj, fun hv => ?_⟩
    -- every row is committed or belongs to `j`
    have hrest : (s.rollback i).rows = s.rows := by
      refine List.filter_eq_self.mpr fun r hr => ?_
      have hr' := hv r hr
      unfold AuditDb.visible at hr'
      obtain hc | ho := Bool.or_eq_true_iff.mp hr'
      · rw [hc]
        rfl
      · rw [of_decide_eq_true ho]
        simp [hji]
    rw [AuditDb.all, hrest]
    exact ⟨hv, rfl⟩

/-- Reading the head in turn. -/
theorem latest_keeps (h : OneWriter s) (hturn : ∀ r ∈ s.rows, AuditDb.visible i r = true) :
    OneWriter { s with fresh := i :: s.fresh } ∧
      (∀ j, j ≠ i → KeepsHead j s { s with fresh := i :: s.fresh }) ∧
      Head i (head_hash (s.seen i).getLast?) { s with fresh := i :: s.fresh } := by
  refine ⟨⟨h.linked, h.split⟩, ?_, ?_⟩
  · intro j hji hj
    obtain rfl | hj := List.mem_cons.mp hj
    · exact absurd rfl hji
    · exact ⟨hj, fun hv => ⟨hv, rfl⟩⟩
  · intro _
    refine ⟨hturn, ?_⟩
    have hseen : s.seen i = s.all := by
      rw [AuditDb.seen, List.filter_eq_self.mpr hturn]
      rfl
    rw [hseen]
    exact (tip_eq_head s.all).symm

/-- Appending in turn. -/
theorem append_keeps (h : OneWriter s) (hhead : Head i prev s) (hturn : i ∈ s.fresh) (entry : Entry)
    (now : Timestamp) :
    OneWriter ⟨s.rows ++ [⟨entry.row prev now s.seq, i, false⟩], s.seq + 1, []⟩ := by
  obtain ⟨hv, hprev⟩ := hhead hturn
  constructor
  · show audit_chain.Linked genesis_hash ((s.rows ++ [_]).map Stored.row)
    rw [List.map_append]
    exact Chaining.linked_concat.mpr ⟨h.linked, hprev, row_sealed _ _ _⟩
  · obtain ⟨cs, us, k, hrows, hcs, hus⟩ := h.split
    refine ⟨cs, us ++ [⟨entry.row prev now s.seq, i, false⟩], i, ?_, hcs, ?_⟩
    · rw [hrows, List.append_assoc]
    · intro r hr
      obtain hr | hr := List.mem_append.mp hr
      · -- an uncommitted row is visible only to its owner
        refine ⟨(hus r hr).1, ?_⟩
        have hvr := hv r (by rw [hrows]; exact List.mem_append_right _ hr)
        unfold AuditDb.visible at hvr
        rw [(hus r hr).1, Bool.false_or] at hvr
        exact of_decide_eq_true hvr
      · rw [List.mem_singleton.mp hr]
        exact ⟨rfl, rfl⟩

/-! ## The transactions -/

/-- Rule for one statement of transaction `i`: what it does when it is answered. -/
theorem yields_issue {q : Stmt} {A : AuditDb → Prop} {P : q.Resp → AuditDb → Prop}
    (hA : ∀ s s', KeepsHead i s s' → A s → A s')
    (hexec : ∀ s now, OneWriter s → A s → in_turn i q s →
      OneWriter (exec_stmt now i q s).2 ∧ (∀ j, j ≠ i → KeepsHead j s (exec_stmt now i q s).2) ∧
        P (exec_stmt now i q s).1 (exec_stmt now i q s).2)
    (h : A s) : Yields (writer_contract i) P (issue q) s := by
  apply Yields.perform
  intro s₁ hkeep hinv
  refine ⟨trivial, ?_⟩
  rintro r s₂ ⟨hstatement, hturn⟩
  have hA₁ := hA s s₁ hkeep h
  cases hstatement with
  | answered now =>
    obtain ⟨hinv', hguar, hP⟩ := hexec s₁ now hinv hA₁ hturn
    refine ⟨hinv', hguar, ?_⟩
    intro a ha
    cases ha
    exact hP
  | @failed seq hseq =>
    obtain ⟨hinv', hguar⟩ := rollback_keeps hinv i seq
    exact ⟨hinv', hguar, fun a ha => by cases ha⟩

/-- A statement that no later statement depends on. -/
theorem yields_plain {q : Stmt}
    (hexec : ∀ s now, OneWriter s → OneWriter (exec_stmt now i q s).2 ∧
      ∀ j, j ≠ i → KeepsHead j s (exec_stmt now i q s).2) (s : AuditDb) :
    Yields (writer_contract i) (fun _ _ => True) (issue q) s := by
  apply yields_issue (A := fun _ => True) (fun _ _ _ _ => trivial) _ trivial
  intro s now hinv _ _
  obtain ⟨hinv', hguar⟩ := hexec s now hinv
  exact ⟨hinv', hguar, trivial⟩

/-- `record` appends to the head it has read. -/
theorem yields_record (entry : Entry) (s : AuditDb) :
    Yields (writer_contract i) (fun _ _ => True) (record_entry entry) s := by
  have hlatest : Yields (writer_contract i) (fun latest s' => Head i (head_hash latest) s')
      (issue .get_latest) s := by
    apply yields_issue (A := fun _ => True) (fun _ _ _ _ => trivial) _ trivial
    intro s now hinv _ hturn
    exact latest_keeps hinv hturn
  apply Yields.bind hlatest
  intro latest s₁ hhead
  have hnow : Yields (writer_contract i) (fun _ s' => Head i (head_hash latest) s')
      (issue .now) s₁ := by
    apply yields_issue (A := Head i (head_hash latest)) (fun _ _ hk h => h.keeps hk) _ hhead
    intro s now hinv hhead _
    exact ⟨hinv, fun j _ => KeepsHead.refl j s, hhead⟩
  apply Yields.bind hnow
  intro now s₂ hhead₂
  apply yields_issue (A := Head i (head_hash latest)) (fun _ _ hk h => h.keeps hk) _ hhead₂
  intro s _ hinv hhead hturn
  refine ⟨append_keeps hinv hhead hturn entry now, ?_, trivial⟩
  intro j _ hj
  cases hj

theorem yields_body (tasks : List Task) (s : AuditDb) :
    Yields (writer_contract i) (fun _ _ => True) (body tasks) s := by
  induction tasks generalizing s with
  | nil => exact Yields.ret trivial
  | cons task tasks ih =>
    cases task with
    | record entry => exact Yields.bind (yields_record entry s) fun _ s' _ => ih s'
    | work =>
      have hwork : Yields (writer_contract i) (fun _ _ => True) (issue .work) s :=
        yields_plain (i := i) (q := .work) (fun s _ hinv => ⟨hinv, fun j _ => KeepsHead.refl j s⟩) s
      exact Yields.bind hwork fun _ s' _ => ih s'

theorem yields_unit_of_work (tasks : List Task) (s : AuditDb) :
    Yields (writer_contract i) (fun _ _ => True) (unit_of_work tasks) s := by
  have hbody : Yields (writer_contract i) (fun _ _ => True) (body tasks).attempt s :=
    (yields_body tasks s).attempt fun _ _ _ => trivial
  apply Yields.bind hbody
  intro r s₁ _
  cases r with
  | ok u => exact yields_plain (i := i) (q := .commit) (fun s _ hinv => commit_keeps hinv i) s₁
  | error e =>
    have hrollback : Yields (writer_contract i) (fun _ _ => True) (issue .rollback) s₁ :=
      yields_plain (i := i) (q := .rollback) (fun s _ hinv => rollback_keeps hinv i s.seq) s₁
    exact Yields.bind hrollback fun _ _ _ => Yields.raise

end proof

/-- **Writers that take turns keep the chain.** Any number of transactions that record any number
    of entries are interleaved statement by statement, with failing statements. If every
    record reads the head when no other transaction has an uncommitted row, and appends
    before another transaction does, the committed log verifies in every state reached. -/
theorem log_verifies_when_in_turn {transactions : List (List Task)} {s : AuditDb}
    {ts : List (T Unit)}
    (h : Interleaving turns AuditDb.empty (transactions.map unit_of_work) s ts) :
    (verify none none s.log).ok = true := by
  have hempty : OneWriter AuditDb.empty :=
    ⟨trivial, [], [], 0, rfl, fun r hr => (by cases hr), fun r hr => (by cases hr)⟩
  have hstart : ∀ i p, (transactions.map unit_of_work)[i]? = some p →
      Safe (threadContract turns OneWriter KeepsHead (fun _ _ _ => True) i) (fun _ _ => True) p
        AuditDb.empty := by
    intro i p hp
    rw [List.getElem?_map, Option.map_eq_some_iff] at hp
    obtain ⟨tasks, -, rfl⟩ := hp
    exact Safe.weaken (yields_unit_of_work tasks AuditDb.empty) fun _ _ _ => trivial
  obtain ⟨hinv, -⟩ := Interleaving.safe (Q := fun _ _ _ => True) KeepsHead.refl
    (fun _ => KeepsHead.trans) (fun _ _ _ _ _ _ => trivial) hempty hstart h
  rw [verify, get_range_all, verify_from_ok_iff.mpr hinv.log_linked]

/-! ## Two writers

    Two transactions that record one entry each. -/

section two_writers

def filing_entry : Entry where
  actor := "attorney"
  action := "file"
  inputs := [("court", .str "SDNY"), ("pages", .int 3)]
  outputs := []
  run_id := some "id-0"
  approval := none

def two_writers : List (List Task) := [[.record filing_entry], [.record filing_entry]]

/-- The statements, all answered at one time. -/
def play_stmt (i : Nat) (q : Stmt) (s : AuditDb) : Option (Except Failure q.Resp × AuditDb) :=
  some (.ok (exec_stmt first_of_may i q s).1, (exec_stmt first_of_may i q s).2)

/-- Both read the empty log, then both append and commit. -/
def head_race : Option (AuditDb × List (T Unit)) :=
  play play_stmt [0, 1, 0, 0, 0, 1, 1, 1] AuditDb.empty (two_writers.map unit_of_work)

/-- What the race leaves in the log. -/
theorem head_race_log : ∃ s ts, head_race = some (s, ts) ∧
    s.log = [filing_row, filing_entry.row genesis_hash first_of_may 2] ∧
    (∀ p ∈ ts, p.ended = true) := by
  refine ⟨_, _, rfl, rfl, ?_⟩
  decide

/-- **A forked chain**: two transactions read the same head, and the log that they leave is not
    accepted. -/
theorem two_writers_fork : ∃ s ts,
    Interleaving statement AuditDb.empty (two_writers.map unit_of_work) s ts ∧
    (∀ p ∈ ts, p.ended = true) ∧ (verify none none s.log).ok = false := by
  obtain ⟨s, ts, hrace, hlog, hended⟩ := head_race_log
  refine ⟨s, ts, ?_, hended, ?_⟩
  · apply Interleaving.of_play _ hrace
    intro i q s r s' hexec
    cases hexec
    exact .answered first_of_may
  · have hnil : audit_chain.Linked genesis_hash [] := trivial
    have hfirst : audit_chain.Linked genesis_hash [filing_row] := linked_record _ 1 hnil
    have hfork : (filing_entry.row genesis_hash first_of_may 2).prev_hash ≠
        audit_chain.tip genesis_hash [filing_row] := by
      intro h
      exact filing_record_hash h.symm
    rw [hlog, verify, get_range_all,
      show [filing_row, filing_entry.row genesis_hash first_of_may 2] =
        [filing_row] ++ [filing_entry.row genesis_hash first_of_may 2] from rfl,
      verify_from_append hfirst, verify_from, if_pos hfork]

/-- The statements of writers that take turns. -/
def play_turn (i : Nat) (q : Stmt) (s : AuditDb) : Option (Except Failure q.Resp × AuditDb) :=
  if in_turn i q s then play_stmt i q s else none

/-- The second transaction starts when the first one has committed. -/
def head_turns : Option (AuditDb × List (T Unit)) :=
  play play_turn [0, 0, 0, 0, 1, 1, 1, 1] AuditDb.empty (two_writers.map unit_of_work)

/-- The guarantee at work: two transactions, one after the other. -/
theorem two_writers_in_turn : ∃ s : AuditDb, s.log.length = 2 ∧ (verify none none s.log).ok = true := by
  have hplayed : head_turns.isSome = true := by decide +kernel
  obtain ⟨⟨s, ts⟩, hturns⟩ := Option.isSome_iff_exists.mp hplayed
  have htwo : ∀ q ∈ head_turns, q.1.log.length = 2 := by decide +kernel
  have hreach : Interleaving turns AuditDb.empty (two_writers.map unit_of_work) s ts := by
    apply Interleaving.of_play _ hturns
    intro i q s r s' hexec
    unfold play_turn at hexec
    by_cases hturn : in_turn i q s
    · rw [if_pos hturn] at hexec
      cases hexec
      exact ⟨.answered first_of_may, hturn⟩
    · rw [if_neg hturn] at hexec
      cases hexec
  exact ⟨s, htwo _ hturns, log_verifies_when_in_turn hreach⟩

end two_writers

end CaseAutomation.Audit
