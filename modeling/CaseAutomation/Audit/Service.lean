import CaseAutomation.Audit.Record
import CaseAutomation.Framework.HashChain

/-! # The Audit Service

    `AuditService.record` and `AuditService.verify` over the rows of `audit_log` in id order.

    * `verify_from_ok_iff`: verification accepts exactly the linked chains.
    * `last_hash_determines_log`: two verified logs with the same last hash are the same.

    SHA-256 is the real function; that it has no collisions is only assumed of the texts
    hashed in the logs at hand (`CollisionFree`).
-/

namespace CaseAutomation.Audit

open Framework

/-! ## Verification -/

/-- `_GENESIS_HASH`. -/
def genesis_hash : String := String.ofList (List.replicate 64 '0')

/-- `VerifyResult`. -/
structure VerifyResult where
  ok : Bool
  first_bad_id : Option Int
  deriving DecidableEq

/-- The row is in the range of ids. -/
def in_range (start_id end_id : Option Int) (row : AuditRow) : Bool :=
  start_id.all (fun n => decide (n ≤ row.id)) && end_id.all (fun n => decide (row.id ≤ n))

/-- `AuditRepository.get_range`. -/
def get_range (start_id end_id : Option Int) (rows : List AuditRow) : List AuditRow :=
  rows.filter (in_range start_id end_id)

/-- The loop of `verify`, with the hash that the next row should refer to. -/
def verify_from : String → List AuditRow → VerifyResult
  | _, [] => ⟨true, none⟩
  | expected_prev, row :: rows =>
    if row.prev_hash ≠ expected_prev then ⟨false, some row.id⟩
    else if row.record_hash ≠ row.expected_hash then ⟨false, some row.id⟩
    else verify_from row.record_hash rows

/-- `AuditService.verify`. -/
def verify (start_id end_id : Option Int) (rows : List AuditRow) : VerifyResult :=
  verify_from genesis_hash (get_range start_id end_id rows)

/-- The log as a hash chain. -/
def audit_chain : Chaining AuditRow String where
  prev := AuditRow.prev_hash
  stored := AuditRow.record_hash
  digest := AuditRow.expected_hash

variable {h : String} {rows rows' : List AuditRow}

/-- Verification accepts exactly the linked chains. -/
theorem verify_from_ok_iff : verify_from h rows = ⟨true, none⟩ ↔ audit_chain.Linked h rows := by
  induction rows generalizing h with
  | nil => exact ⟨fun _ => trivial, fun _ => rfl⟩
  | cons row rows ih =>
    rw [verify_from]
    by_cases hprev : row.prev_hash = h
    · rw [if_neg (not_not.mpr hprev)]
      by_cases hhash : row.record_hash = row.expected_hash
      · rw [if_neg (not_not.mpr hhash), ih]
        exact ⟨fun hl => ⟨hprev, hhash, hl⟩, fun hl => hl.2.2⟩
      · rw [if_pos hhash]
        exact ⟨fun hv => (by cases hv), fun hl => absurd hl.2.1 hhash⟩
    · rw [if_pos hprev]
      exact ⟨fun hv => (by cases hv), fun hl => absurd hl.1 hprev⟩

/-- An accepted result names no row. -/
theorem verify_from_ok (hok : (verify_from h rows).ok = true) :
    verify_from h rows = ⟨true, none⟩ := by
  induction rows generalizing h with
  | nil => rfl
  | cons row rows ih =>
    rw [verify_from] at hok ⊢
    split_ifs at hok ⊢
    exact ih hok

/-- Verification walks over a linked part of the chain. -/
theorem verify_from_append (hl : audit_chain.Linked h rows) :
    verify_from h (rows ++ rows') = verify_from (audit_chain.tip h rows) rows' := by
  induction rows generalizing h with
  | nil => rfl
  | cons row rows ih =>
    obtain ⟨hprev, hhash, hrest⟩ := hl
    have hprev' : ¬row.prev_hash ≠ h := not_not.mpr hprev
    have hhash' : ¬row.record_hash ≠ row.expected_hash := not_not.mpr hhash
    rw [List.cons_append, verify_from, if_neg hprev', if_neg hhash']
    exact ih hrest

theorem get_range_all (rows : List AuditRow) : get_range none none rows = rows :=
  List.filter_eq_self.mpr fun _ _ => rfl

/-- The hash that ends a log. -/
theorem tip_eq_last (h : String) (rows : List AuditRow) :
    audit_chain.tip h rows = (rows.getLast?.map AuditRow.record_hash).getD h := by
  induction rows generalizing h with
  | nil => rfl
  | cons row rows ih =>
    rw [Chaining.tip, ih, List.getLast?_cons]
    cases rows.getLast? <;> rfl

/-- A linked log refers to hashes of full length only. -/
theorem prev_hash_length {row : AuditRow} (hl : audit_chain.Linked genesis_hash rows)
    (hrow : row ∈ rows) : row.prev_hash.length = 64 := by
  obtain ⟨pre, post, rfl⟩ := List.append_of_mem hrow
  obtain ⟨hpre, hprev, -⟩ := Chaining.linked_append.mp hl
  have htip : row.prev_hash = audit_chain.tip genesis_hash pre := hprev
  obtain ⟨-, hgenesis⟩ | ⟨r, -, hdigest⟩ := hpre.tip_eq
  · rw [htip, hgenesis]
    decide
  · rw [htip, hdigest]
    exact sha256_hex_length _

/-! ## Writing -/

/-- The arguments of `AuditService.record` and the time at which it runs. -/
structure RecordArgs where
  actor : String
  action : String
  inputs : JsonObj
  outputs : JsonObj
  run_id : Option String
  approval : Option JsonObj
  now : Timestamp

/-- The row before its hash is computed. -/
def RecordArgs.unsealed (args : RecordArgs) (id : Int) (prev_hash : String) : AuditRow where
  id := id
  actor := args.actor
  action := args.action
  inputs := args.inputs
  outputs := args.outputs
  approval := args.approval
  timestamp := args.now
  run_id := args.run_id
  prev_hash := prev_hash
  record_hash := ""

/-- The row that `record` appends. -/
def RecordArgs.row (args : RecordArgs) (id : Int) (prev_hash : String) : AuditRow :=
  { args.unsealed id prev_hash with record_hash := (args.unsealed id prev_hash).expected_hash }

/-- `latest.record_hash if latest else _GENESIS_HASH`. -/
def head_hash (latest : Option AuditRow) : String :=
  match latest with
  | none => genesis_hash
  | some row => row.record_hash

/-- The hash stored in a new row is the one that verification expects. -/
theorem row_sealed (args : RecordArgs) (id : Int) (prev_hash : String) :
    (args.row id prev_hash).record_hash = (args.row id prev_hash).expected_hash := rfl

theorem row_digest (args : RecordArgs) (id : Int) (prev_hash : String) :
    (args.row id prev_hash).record_hash = sha256_hex (args.row id prev_hash).material := rfl

/-- The hash that a new row refers to is the one that ends the log. -/
theorem tip_eq_head (rows : List AuditRow) :
    audit_chain.tip genesis_hash rows = head_hash rows.getLast? := by
  rw [tip_eq_last]
  cases rows.getLast? <;> rfl

/-- A row recorded after the last one continues the chain. -/
theorem linked_record (args : RecordArgs) (id : Int)
    (hl : audit_chain.Linked genesis_hash rows) :
    audit_chain.Linked genesis_hash (rows ++ [args.row id (head_hash rows.getLast?)]) := by
  rw [← tip_eq_head]
  exact Chaining.linked_concat.mpr ⟨hl, rfl, row_sealed args id _⟩

/-! ## Tamper evidence -/

/-- SHA-256 has no collision among these texts. -/
def CollisionFree (texts : List String) : Prop :=
  ∀ m ∈ texts, ∀ m' ∈ texts, sha256_hex m = sha256_hex m' → m = m'

/-- The texts hashed in a log. -/
def materials (rows : List AuditRow) : List String := rows.map AuditRow.material

/-- **Tamper evidence.** Two logs that verify as a whole and end in the same hash have the same
    length and agree row by row, as long as SHA-256 has no collision on the texts hashed
    in them and yields the genesis hash for none. -/
theorem last_hash_determines_log {rows rows' : List AuditRow}
    (hinj : CollisionFree (materials (rows ++ rows')))
    (hzero : ∀ m ∈ materials (rows ++ rows'), sha256_hex m ≠ genesis_hash)
    (hok : (verify none none rows).ok = true) (hok' : (verify none none rows').ok = true)
    (hlast : rows.getLast?.map AuditRow.record_hash = rows'.getLast?.map AuditRow.record_hash) :
    rows.length = rows'.length ∧
      List.Forall₂ (fun row row' => Agrees row row' ∧ row.record_hash = row'.record_hash)
        rows rows' := by
  unfold verify at hok hok'
  rw [get_range_all] at hok hok'
  have hl := verify_from_ok_iff.mp (verify_from_ok hok)
  have hl' := verify_from_ok_iff.mp (verify_from_ok hok')
  have hmem : ∀ row, row ∈ rows ∨ row ∈ rows' → row.material ∈ materials (rows ++ rows') := by
    intro row hrow
    exact List.mem_map_of_mem (List.mem_append.mpr hrow)
  have hagree : List.Forall₂ (fun row row' => Agrees row row' ∧
      audit_chain.stored row = audit_chain.stored row') rows rows' := by
    apply Chaining.linked_agree (h := genesis_hash) _ _ hl hl'
    · rw [tip_eq_last, tip_eq_last, hlast]
    · intro row hrow row' hrow' hdigest
      have hmaterial := hinj _ (hmem row (Or.inl hrow)) _ (hmem row' (Or.inr hrow')) hdigest
      have hlength : row.prev_hash.length = row'.prev_hash.length := by
        rw [prev_hash_length hl hrow, prev_hash_length hl' hrow']
      have hagrees := material_injective hlength hmaterial
      exact ⟨hagrees, hagrees.prev_hash⟩
    · intro row hrow
      exact hzero _ (hmem row hrow)
  exact ⟨hagree.length_eq, hagree⟩

/-! A log of two records, and a copy of it with other ids and the keys of its inputs in another
    order. -/

def first_of_may : Timestamp where
  year := 2025
  month := 5
  day := 1
  hour := 9
  minute := 30
  second := 0
  microsecond := 250000
  year_ok := by decide
  month_ok := by decide
  day_ok := by decide
  hour_ok := by decide
  minute_ok := by decide
  second_ok := by decide
  microsecond_ok := by decide

def filing (inputs : JsonObj) : RecordArgs where
  actor := "attorney"
  action := "file"
  inputs := inputs
  outputs := []
  run_id := some "id-0"
  approval := none
  now := first_of_may

def filing_row : AuditRow := (filing [("court", .str "SDNY"), ("pages", .int 3)]).row 1 genesis_hash

def filing_copy : AuditRow := (filing [("pages", .int 3), ("court", .str "SDNY")]).row 7 genesis_hash

theorem filing_agrees : Agrees filing_row filing_copy := by
  have hinputs : Same (.obj filing_row.inputs) (.obj filing_copy.inputs) := by
    unfold Same filing_row filing_copy RecordArgs.row RecordArgs.unsealed filing
    simp [sort_keys, sort_fields, List.insertionSort_cons, List.orderedInsert, key_le]
  exact ⟨rfl, rfl, hinputs, rfl, rfl, rfl, rfl, rfl⟩

theorem filing_digest : sha256_hex filing_row.material =
    "db578a3f3f457d3ab16125b7d2f696cc712852424927eddb0cf53976c3b74bf9" := by
  decide +kernel

theorem filing_stored : filing_row.record_hash =
    "db578a3f3f457d3ab16125b7d2f696cc712852424927eddb0cf53976c3b74bf9" := by
  rw [← filing_digest]
  exact row_digest _ _ _

theorem filing_record_hash : filing_row.record_hash ≠ genesis_hash := by
  rw [filing_stored]
  decide

/-- The record after `filing_row`. -/
def filing_next : AuditRow := (filing []).row 2 filing_row.record_hash

/-- The record after `filing_copy`. -/
def copy_next : AuditRow := (filing []).row 8 filing_copy.record_hash

theorem filing_next_digest : sha256_hex filing_next.material =
    "6570679a90a712f724e949ca9fa8e765124d7704a6d231734e91acb60fcd6dae" := by
  unfold filing_next
  rw [filing_stored]
  decide +kernel

/-- The two texts that the log hashes have two digests, and neither is the genesis hash. -/
theorem filing_texts {texts : List String}
    (h : ∀ m ∈ texts, m = filing_row.material ∨ m = filing_next.material) :
    CollisionFree texts ∧ ∀ m ∈ texts, sha256_hex m ≠ genesis_hash := by
  have hapart : sha256_hex filing_row.material ≠ sha256_hex filing_next.material := by
    rw [filing_digest, filing_next_digest]
    decide
  constructor
  · intro m hm m' hm' hdigest
    obtain rfl | rfl := h m hm <;> obtain rfl | rfl := h m' hm'
    · rfl
    · exact absurd hdigest hapart
    · exact absurd hdigest.symm hapart
    · rfl
  · intro m hm
    obtain rfl | rfl := h m hm
    · rw [filing_digest]
      decide
    · rw [filing_next_digest]
      decide

/-- A log of two records verifies. -/
theorem verify_two (args args' : RecordArgs) (id id' : Int) :
    (verify none none [args.row id genesis_hash,
      args'.row id' (args.row id genesis_hash).record_hash]).ok = true := by
  have hnil : audit_chain.Linked genesis_hash [] := trivial
  have hl : audit_chain.Linked genesis_hash [args.row id genesis_hash,
      args'.row id' (args.row id genesis_hash).record_hash] :=
    linked_record args' id' (linked_record args id hnil)
  rw [verify, get_range_all, verify_from_ok_iff.mpr hl]

/-- The two logs agree, by their last hash. -/
theorem filing_copies_agree :
    [filing_row, filing_next].length = [filing_copy, copy_next].length ∧
    List.Forall₂ (fun row row' => Agrees row row' ∧ row.record_hash = row'.record_hash)
      [filing_row, filing_next] [filing_copy, copy_next] := by
  have hsame := filing_agrees.material_eq
  have hstored : filing_copy.record_hash = filing_row.record_hash := by
    unfold filing_row filing_copy at hsame ⊢
    rw [row_sealed, row_sealed, AuditRow.expected_hash, AuditRow.expected_hash, hsame]
  have hnext : copy_next = (filing []).row 8 filing_row.record_hash := by
    rw [copy_next, hstored]
  have hmaterial : copy_next.material = filing_next.material := by
    rw [hnext]
    rfl
  have htexts : ∀ m ∈ materials ([filing_row, filing_next] ++ [filing_copy, copy_next]),
      m = filing_row.material ∨ m = filing_next.material := by
    intro m hm
    simp only [materials, List.cons_append, List.nil_append, List.map_cons, List.map_nil,
      List.mem_cons, List.not_mem_nil, or_false, ← hsame, hmaterial] at hm
    obtain h | h | h | h := hm
    · exact Or.inl h
    · exact Or.inr h
    · exact Or.inl h
    · exact Or.inr h
  apply last_hash_determines_log (filing_texts htexts).1 (filing_texts htexts).2
  · exact verify_two _ _ _ _
  · exact verify_two _ _ _ _
  · have hlast : filing_next.record_hash = copy_next.record_hash := by
      rw [filing_next, copy_next, row_digest, row_digest]
      exact congrArg sha256_hex hmaterial.symm
    show some filing_next.record_hash = some copy_next.record_hash
    rw [hlast]

end CaseAutomation.Audit
