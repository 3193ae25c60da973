import CaseAutomation.DocumentGen.Context
import CaseAutomation.Framework.CheckThenAct

/-! # The Version Ledger and `store_document`

    `document_gen/version_store.py`, and the calls that a generation makes.

    A `Call` is what runs without a switch to another coroutine: looking up the key and
    allocating the version are one stretch, the `put` of the document store is awaited, and the key
    is recorded after it.
-/

namespace CaseAutomation.DocumentGen

open Framework Domain

/-! ## The ledger -/

/-- `InMemoryVersionLedger`: a key has a checksum where it has a document. -/
structure InMemoryVersionLedger where
  versions : Dict (String × String × String) Int
  idem : Dict String Document
  idem_checksums : Dict String String
  paired : ∀ key, idem.get? key = none ↔ idem_checksums.get? key = none

namespace InMemoryVersionLedger

def empty : InMemoryVersionLedger := ⟨∅, ∅, ∅, fun _ => by simp⟩

/-- The version that `next_version` returns. -/
def next_version (ledger : InMemoryVersionLedger) (key : String × String × String) : Int :=
  (ledger.versions.get? key).getD 0 + 1

/-- `next_version`. -/
def allocate (ledger : InMemoryVersionLedger) (key : String × String × String) :
    InMemoryVersionLedger :=
  { ledger with versions := ledger.versions.set key (ledger.next_version key) }

/-- `lookup_idem`. -/
def lookup_idem (ledger : InMemoryVersionLedger) (idem_key : String) : Option Document :=
  ledger.idem.get? idem_key

/-- The ledger with the key recorded. -/
def recorded (ledger : InMemoryVersionLedger) (idem_key : String) (doc : Document)
    (rendered_checksum : String) : InMemoryVersionLedger where
  versions := ledger.versions
  idem := ledger.idem.set idem_key doc
  idem_checksums := ledger.idem_checksums.set idem_key rendered_checksum
  paired key := by
    rw [Dict.get?_set, Dict.get?_set]
    split
    · simp
    · exact ledger.paired key

/-- The text of a `VersionCollisionError`. -/
def collision (idem_key : String) : Exn :=
  .other "VersionCollisionError" ("Idempotency key " ++ repr_str idem_key ++
    " collision: stored checksum differs from new content.")

/-- `record_idem`. -/
def record_idem (ledger : InMemoryVersionLedger) (idem_key : String) (doc : Document)
    (rendered_checksum : String) : Except Exn Unit × InMemoryVersionLedger :=
  match ledger.idem_checksums.get? idem_key with
  | some existing_checksum =>
    if existing_checksum ≠ rendered_checksum then (.error (collision idem_key), ledger)
    else (.ok (), ledger.recorded idem_key doc rendered_checksum)
  | none => (.ok (), ledger.recorded idem_key doc rendered_checksum)

end InMemoryVersionLedger

/-! ## The world -/

/-- The arguments of `store_document`. -/
structure StoreRequest where
  matter_id : String
  template_name : String
  doc_key : String
  rendered_bytes : List UInt8
  rendered_checksum : String
  privileged : Bool
  classification : Option String
  idem_key : String

/-- What a version is counted for. -/
def StoreRequest.series (q : StoreRequest) : String × String × String :=
  (q.matter_id, q.template_name, q.doc_key)

/-- A successful `put`. -/
structure Put where
  request : StoreRequest
  /-- The document that was handed over. -/
  doc : Document
  /-- The document that was returned. -/
  stored : Document

inductive Aggregate where
  | pass
  | pass_with_warnings
  | block
  deriving DecidableEq, Repr

inductive Verdict where
  | pass
  | warn
  | fail
  | skipped
  deriving DecidableEq, Repr

inductive Status where
  | ready
  | incomplete
  | blocked
  | failed
  deriving DecidableEq, Repr

/-- The arguments of `_write_audit`. -/
structure Report where
  run_id : String
  template_name : String
  template_version : Int
  idem_key : String
  gaps : List Gap
  qc_verdict : Verdict
  status : Status
  context : Ctx

/-- What the outside provides. -/
structure Env where
  platform : Platform
  /-- The successive results of `uuid.uuid4()`. -/
  uuid : Nat → String
  /-- The successive readings of `datetime.now(tz=UTC)`. -/
  time : Nat → Time
  /-- How the document store answers its successive calls. -/
  docstore : Nat → Document → List UInt8 → Except Exn Document
  /-- The successive reports of `tool_qc_verify`; none where it raises. -/
  qc : Nat → Option Aggregate

structure World where
  ledger : InMemoryVersionLedger
  /-- The successful puts, the latest first. -/
  puts : List Put
  /-- What was handed to `_write_audit`, the latest first. -/
  reports : List Report
  uuids : Nat
  clock : Nat
  docstore_calls : Nat
  qc_calls : Nat

/-- `ReferenceDocStoreConnector.put`, for a document that has an id. -/
def reference_docstore (doc : Document) (content : List UInt8) : Document :=
  { doc with checksum := checksum content, uri := "reference://docs/" ++ doc.id }

/-! ## Calls -/

inductive Call where
  | uuid4
  /-- `ledger.lookup_idem`. -/
  | lookup (idem_key : String)
  /-- `_run_qc`. -/
  | run_qc
  /-- `store_document` up to its `put`: the document found, or a new one. -/
  | prepare (request : StoreRequest)
  | put (request : StoreRequest) (doc : Document)
  /-- `ledger.record_idem`. -/
  | record (request : StoreRequest) (stored : Document)
  | write_audit (report : Report)

abbrev Call.Resp : Call → Type
  | .uuid4 => String
  | .lookup _ => Option Document
  | .run_qc => Verdict
  | .prepare _ => Document ⊕ Document
  | .put _ _ => Document
  | .record _ _ => Unit
  | .write_audit _ => Unit

abbrev M (α : Type) : Type := Program Call Call.Resp Exn α

/-- One call, awaited. -/
abbrev await (c : Call) : M c.Resp := Program.perform c

/-- The verdict that `_run_qc` makes of a report. -/
def verdict : Option Aggregate → Verdict
  | some .block => .fail
  | some .pass_with_warnings => .warn
  | some .pass => .pass
  | none => .skipped

namespace World

/-- The document of a request, under a new version. -/
def new_document (env : Env) (request : StoreRequest) (w : World) : Document :=
  let version := w.ledger.next_version request.series
  { id := env.uuid w.uuids
    matter_id := request.matter_id
    name := request.template_name ++ "_v" ++ toString version ++ ".docx"
    mime_type := "application/vnd.openxmlformats-officedocument.wordprocessingml.document"
    uri := ""
    classification := request.classification
    version := version
    privileged := request.privileged
    checksum := request.rendered_checksum
    created_at := env.time w.clock }

/-- `store_document` up to its `put`. -/
def prepare (env : Env) (request : StoreRequest) (w : World) : Document ⊕ Document × World :=
  match w.ledger.lookup_idem request.idem_key with
  | some existing => .inl existing
  | none => .inr (w.new_document env request, { w with
      ledger := w.ledger.allocate request.series
      uuids := w.uuids + 1
      clock := w.clock + 1 })

/-- `docstore.put`. -/
def put (env : Env) (request : StoreRequest) (doc : Document) (w : World) :
    Except Exn Document × World :=
  let called := { w with docstore_calls := w.docstore_calls + 1 }
  match env.docstore w.docstore_calls doc request.rendered_bytes with
  | .ok stored => (.ok stored, { called with puts := ⟨request, doc, stored⟩ :: called.puts })
  | .error e => (.error e, called)

end World

/-- The effect of a call. -/
def exec (env : Env) : Program.Service Call Call.Resp Exn World
  | .uuid4, w => (.ok (env.uuid w.uuids), { w with uuids := w.uuids + 1 })
  | .lookup idem_key, w => (.ok (w.ledger.lookup_idem idem_key), w)
  | .run_qc, w => (.ok (verdict (env.qc w.qc_calls)), { w with qc_calls := w.qc_calls + 1 })
  | .prepare request, w =>
    match w.prepare env request with
    | .inl existing => (.ok (.inl existing), w)
    | .inr (doc, w') => (.ok (.inr doc), w')
  | .put request doc, w => w.put env request doc
  | .record request stored, w =>
    ((w.ledger.record_idem request.idem_key stored request.rendered_checksum).1, { w with
      ledger := (w.ledger.record_idem request.idem_key stored request.rendered_checksum).2 })
  | .write_audit report, w => (.ok (), { w with reports := report :: w.reports })

/-- `store_document`. -/
def store_document (request : StoreRequest) : M Document :=
  (await (.prepare request)).bind fun
  | .inl existing => .ret existing
  | .inr doc =>
    (await (.put request doc)).bind fun stored =>
    (await (.record request stored)).bind fun _ =>
    .ret stored

/-! ## What the calls of `store_document` do -/

section calls
variable {env : Env} {idem_key : String} {request : StoreRequest} {w w' : World}

/-- A key that has no document gets this one. -/
theorem record_idem_fresh {ledger : InMemoryVersionLedger} (doc : Document)
    (rendered_checksum : String) (h : ledger.lookup_idem idem_key = none) :
    ledger.record_idem idem_key doc rendered_checksum =
      (.ok (), ledger.recorded idem_key doc rendered_checksum) := by
  have hchecksum : ledger.idem_checksums.get? idem_key = none := (ledger.paired idem_key).mp h
  unfold InMemoryVersionLedger.record_idem
  rw [hchecksum]

theorem lookup_recorded (ledger : InMemoryVersionLedger) (key : String) (doc : Document)
    (rendered_checksum : String) :
    (ledger.recorded key doc rendered_checksum).lookup_idem idem_key =
      if idem_key = key then some doc else ledger.lookup_idem idem_key :=
  Dict.get?_set ledger.idem key idem_key doc

/-- What `prepare` does: the document of the key, or a new one and nothing under the key. -/
theorem prepare_cases {r : Except Exn (Document ⊕ Document)}
    (h : exec env (.prepare request) w = (r, w')) :
    (∃ existing, r = .ok (.inl existing) ∧ w' = w ∧
      w.ledger.lookup_idem request.idem_key = some existing) ∨
    (∃ doc, r = .ok (.inr doc) ∧ doc.matter_id = request.matter_id ∧ w'.puts = w.puts ∧
      (∀ key, w'.ledger.lookup_idem key = w.ledger.lookup_idem key) ∧
      w.ledger.lookup_idem request.idem_key = none) := by
  unfold exec World.prepare at h
  simp only at h
  cases hlookup : w.ledger.lookup_idem request.idem_key with
  | some existing =>
    rw [hlookup] at h
    obtain ⟨rfl, rfl⟩ := Prod.mk.inj h
    exact .inl ⟨existing, rfl, rfl, rfl⟩
  | none =>
    rw [hlookup] at h
    obtain ⟨rfl, rfl⟩ := Prod.mk.inj h
    exact .inr ⟨w.new_document env request, rfl, rfl, rfl, fun _ => rfl, rfl⟩

/-- What `put` does. -/
theorem put_cases {doc : Document} {r : Except Exn Document}
    (h : exec env (.put request doc) w = (r, w')) :
    w'.ledger = w.ledger ∧
    ((∃ stored, r = .ok stored ∧
        env.docstore w.docstore_calls doc request.rendered_bytes = .ok stored ∧
        w'.puts = ⟨request, doc, stored⟩ :: w.puts) ∨
      (∃ e, r = .error e ∧ w'.puts = w.puts)) := by
  have hput : w.put env request doc = (r, w') := h
  unfold World.put at hput
  simp only at hput
  split at hput
  · next stored hstored =>
    obtain ⟨rfl, rfl⟩ := Prod.mk.inj hput
    exact ⟨rfl, .inl ⟨stored, rfl, hstored, rfl⟩⟩
  · next e _ =>
    obtain ⟨rfl, rfl⟩ := Prod.mk.inj hput
    exact ⟨rfl, .inr ⟨e, rfl, rfl⟩⟩

end calls

end CaseAutomation.DocumentGen
