import CaseAutomation.DocumentGen.Ledger

/-! # Document Generation

    `tool_document_generate` (`document_gen/tools.py`) as a program over the calls of the
    ledger, and what one call does (`Outcome`): it ends before anything is stored, it finds a document
    under its key, or it stores one.
-/

namespace CaseAutomation.DocumentGen

open Framework Program Domain

/-- The arguments of `tool_document_generate`. -/
structure GenerateRequest where
  matter : Matter
  template_name : String
  template_store : TemplateStore
  data_context : PyDict
  doc_key : Option String
  idem_key_override : Option String
  render_pdf : Bool
  run_id : Option String

structure GenerationResult where
  document : Option Document
  status : Status
  gaps : List Gap
  qc_verdict : Verdict
  template_name : String
  template_version : Int
  idempotency_key : String
  run_id : String
  warnings : List String

/-- `_determine_status`. -/
def determine_status (gaps : List Gap) (qc_verdict : Verdict) : Status :=
  if gaps ≠ [] then .incomplete
  else match qc_verdict with
    | .fail => .blocked
    | .skipped => .incomplete
    | _ => .ready

/-! ## What a call resolves -/

/-- `given or default`. -/
def given_or (given : Option String) (default : String) : String :=
  (given.filter (· ≠ "")).getD default

/-- A loaded template with its variables resolved. -/
structure Resolved where
  spec : TemplateSpec
  template_bytes : List UInt8
  context : Ctx
  gaps : List Gap
  idem_key : String

/-- The steps before the lookup of the key; none where the template is not found. -/
def resolve_request (platform : Platform) (request : GenerateRequest) : Option Resolved :=
  (request.template_store.get request.template_name).map fun (spec, template_bytes) =>
    let context := build_context platform spec request.matter request.data_context
    { spec := spec
      template_bytes := template_bytes
      context := context
      gaps := detect_gaps platform spec context
      idem_key := given_or request.idem_key_override
        (derive_idem_key request.template_name spec.version context) }

/-- The content for what was resolved. -/
def Resolved.render (platform : Platform) (resolved : Resolved) : Except String (List UInt8) :=
  render_docx platform resolved.template_bytes resolved.context resolved.gaps

/-! ## The tool -/

/-- The arguments of `store_document`. -/
def store_request (request : GenerateRequest) (resolved : Resolved) (rendered : List UInt8) :
    StoreRequest where
  matter_id := request.matter.id
  template_name := request.template_name
  doc_key := given_or request.doc_key request.template_name
  rendered_bytes := rendered
  rendered_checksum := checksum rendered
  privileged := resolved.spec.privileged_default
  classification := some (given_or resolved.spec.target_form_id request.template_name)
  idem_key := resolved.idem_key

/-- What is handed to `_write_audit`. -/
def report (run_id : String) (request : GenerateRequest) (resolved : Resolved) (qc_verdict : Verdict)
    (status : Status) : Report where
  run_id := run_id
  template_name := request.template_name
  template_version := resolved.spec.version
  idem_key := resolved.idem_key
  gaps := resolved.gaps
  qc_verdict := qc_verdict
  status := status
  context := resolved.context

def not_found_result (run_id : String) (request : GenerateRequest) : GenerationResult where
  document := none
  status := .failed
  gaps := []
  qc_verdict := .skipped
  template_name := request.template_name
  template_version := 1
  idempotency_key := ""
  run_id := run_id
  warnings := ["Template " ++ repr_str request.template_name ++ " not found."]

def failed_result (run_id : String) (request : GenerateRequest) (resolved : Resolved)
    (warning : String) : GenerationResult where
  document := none
  status := .failed
  gaps := []
  qc_verdict := .skipped
  template_name := request.template_name
  template_version := resolved.spec.version
  idempotency_key := resolved.idem_key
  run_id := run_id
  warnings := [warning]

/-- A result with a document. -/
def document_result (run_id : String) (request : GenerateRequest) (resolved : Resolved)
    (document : Document) (status : Status) (qc_verdict : Verdict) (warnings : List String) :
    GenerationResult where
  document := some document
  status := status
  gaps := resolved.gaps
  qc_verdict := qc_verdict
  template_name := request.template_name
  template_version := resolved.spec.version
  idempotency_key := resolved.idem_key
  run_id := run_id
  warnings := warnings

/-- The warning about a failed store. -/
def store_warning (e : Exn) : String :=
  if e.class_name = "VersionCollisionError" then e.to_str else "Store error: " ++ e.to_str

def pdf_warnings (platform : Platform) (request : GenerateRequest) (rendered : List UInt8) :
    List String :=
  if request.render_pdf = true ∧ platform.to_pdf rendered = none then
    ["PDF conversion unavailable; DOCX stored only."]
  else []

/-- The steps after the rendering: QC, store, audit. -/
def store_rendered (platform : Platform) (run_id : String) (request : GenerateRequest)
    (resolved : Resolved) (rendered : List UInt8) : M GenerationResult :=
  (await .run_qc).bind fun qc_verdict =>
  (store_document (store_request request resolved rendered)).attempt.bind fun
  | .error e =>
    (await (.write_audit (report run_id request resolved qc_verdict .failed))).bind fun _ =>
    .ret (failed_result run_id request resolved (store_warning e))
  | .ok stored_doc =>
    let status := determine_status resolved.gaps qc_verdict
    (await (.write_audit (report run_id request resolved qc_verdict status))).bind fun _ =>
    .ret (document_result run_id request resolved stored_doc status qc_verdict
      (pdf_warnings platform request rendered))

/-- The steps after a lookup that finds nothing. -/
def generate_new (platform : Platform) (run_id : String) (request : GenerateRequest)
    (resolved : Resolved) : M GenerationResult :=
  match resolved.render platform with
  | .error exc =>
    (await (.write_audit (report run_id request resolved .skipped .failed))).bind fun _ =>
    .ret (failed_result run_id request resolved exc)
  | .ok rendered => store_rendered platform run_id request resolved rendered

/-- The steps from the lookup of the key on. -/
def generate_resolved (platform : Platform) (run_id : String) (request : GenerateRequest)
    (resolved : Resolved) : M GenerationResult :=
  (await (.lookup resolved.idem_key)).bind fun
  | some existing => .ret (document_result run_id request resolved existing .ready .skipped [])
  | none => generate_new platform run_id request resolved

/-- `run_id or str(uuid.uuid4())`. -/
def choose_run_id (request : GenerateRequest) : M String :=
  match request.run_id.filter (· ≠ "") with
  | some run_id => .ret run_id
  | none => await .uuid4

/-- `tool_document_generate`. -/
def tool_document_generate (platform : Platform) (request : GenerateRequest) : M GenerationResult :=
  (choose_run_id request).bind fun run_id =>
  match resolve_request platform request with
  | none => .ret (not_found_result run_id request)
  | some resolved => generate_resolved platform run_id request resolved

/-! ## What one call does -/

/-- The call has changed no document and no key. -/
structure Untouched (w w' : World) : Prop where
  lookup : ∀ key, w'.ledger.lookup_idem key = w.ledger.lookup_idem key
  puts : w'.puts = w.puts

/-- The ways in which a call ends. -/
inductive Outcome (env : Env) (request : GenerateRequest) (w : World) (result : GenerationResult)
    (w' : World) : Prop where
  /-- The template is not found. -/
  | not_found : resolve_request env.platform request = none → result.document = none →
      result.status = .failed → Untouched w w' → Outcome env request w result w'
  /-- There is a document under the key. -/
  | hit (resolved : Resolved) (existing : Document) :
      resolve_request env.platform request = some resolved →
      w.ledger.lookup_idem resolved.idem_key = some existing →
      result.document = some existing → result.status = .ready → result.gaps = resolved.gaps →
      Untouched w w' → Outcome env request w result w'
  /-- Rendering or storing fails. -/
  | failed (resolved : Resolved) :
      resolve_request env.platform request = some resolved →
      w.ledger.lookup_idem resolved.idem_key = none →
      result.document = none → result.status = .failed → Untouched w w' →
      Outcome env request w result w'
  /-- A new document is stored. -/
  | stored (resolved : Resolved) (rendered : List UInt8) (put : Put) (docstore_call : Nat) :
      resolve_request env.platform request = some resolved →
      w.ledger.lookup_idem resolved.idem_key = none →
      resolved.render env.platform = .ok rendered →
      put.request = store_request request resolved rendered →
      put.doc.matter_id = request.matter.id →
      env.docstore docstore_call put.doc rendered = .ok put.stored →
      result.document = some put.stored →
      result.status = determine_status resolved.gaps result.qc_verdict →
      result.gaps = resolved.gaps →
      w'.puts = put :: w.puts →
      (∀ key, w'.ledger.lookup_idem key =
        if key = resolved.idem_key then some put.stored else w.ledger.lookup_idem key) →
      Outcome env request w result w'

section outcome
variable {env : Env} {request : GenerateRequest} {w w₁ w' : World} {result : GenerationResult}

theorem Untouched.refl (w : World) : Untouched w w := ⟨fun _ => rfl, rfl⟩

theorem Untouched.trans {w₂ : World} (h : Untouched w w₁) (h' : Untouched w₁ w₂) : Untouched w w₂ :=
  ⟨fun key => (h'.lookup key).trans (h.lookup key), h'.puts.trans h.puts⟩

theorem run_choose_run_id (env : Env) (request : GenerateRequest) (w : World) :
    ∃ run_id w₁, (choose_run_id request).run (exec env) w = (.ok run_id, w₁) ∧ Untouched w w₁ := by
  unfold choose_run_id
  split
  · next run_id _ => exact ⟨run_id, w, rfl, Untouched.refl w⟩
  · exact ⟨_, _, rfl, ⟨fun _ => rfl, rfl⟩⟩

/-- `store_document`, where nothing is under the key: it fails, or the document is stored and the
    key recorded. -/
theorem run_store_document (env : Env) (request : StoreRequest) (w : World)
    (hnone : w.ledger.lookup_idem request.idem_key = none) :
    ∃ r w', (store_document request).run (exec env) w = (r, w') ∧
    ((∃ e, r = .error e ∧ Untouched w w') ∨
      ∃ (put : Put) (docstore_call : Nat), r = .ok put.stored ∧ put.request = request ∧
        put.doc.matter_id = request.matter_id ∧
        env.docstore docstore_call put.doc request.rendered_bytes = .ok put.stored ∧
        w'.puts = put :: w.puts ∧
        ∀ key, w'.ledger.lookup_idem key =
          if key = request.idem_key then some put.stored else w.ledger.lookup_idem key) := by
  cases hprepare : exec env (.prepare request) w with
  | mk r₁ w₁ =>
  obtain ⟨existing, -, -, hsome⟩ | ⟨doc, rfl, hmatter, hputs₁, hlookup₁, -⟩ := prepare_cases hprepare
  · rw [hnone] at hsome
    cases hsome
  · cases hput : exec env (.put request doc) w₁ with
    | mk r₂ w₂ =>
    have hprepared : (await (.prepare request)).run (exec env) w = (.ok (.inr doc), w₁) :=
      (run_perform _ w).trans hprepare
    have hstore : (await (.put request doc)).run (exec env) w₁ = _ := (run_perform _ w₁).trans hput
    unfold store_document
    rw [run_bind_ok hprepared]
    obtain ⟨hledger, ⟨stored, rfl, hdocstore, hputs₂⟩ | ⟨e, rfl, hputs₂⟩⟩ := put_cases hput
    · have hnone₂ : w₂.ledger.lookup_idem request.idem_key = none := by
        rw [hledger, hlookup₁, hnone]
      let w₃ := { w₂ with
        ledger := w₂.ledger.recorded request.idem_key stored request.rendered_checksum }
      have hrecord : (await (.record request stored)).run (exec env) w₂ = (.ok (), w₃) := by
        rw [run_perform]
        simp only [exec, record_idem_fresh stored request.rendered_checksum hnone₂, w₃]
      refine ⟨.ok stored, w₃, ?_, .inr ⟨⟨request, doc, stored⟩, w₁.docstore_calls, rfl, rfl, hmatter,
        hdocstore, ?_, ?_⟩⟩
      · exact (run_bind_ok hstore).trans (run_bind_ok hrecord)
      · rw [← hputs₁]
        exact hputs₂
      · intro key
        rw [lookup_recorded, hledger, hlookup₁]
    · refine ⟨.error e, w₂, run_bind_error hstore, .inl ⟨e, rfl, ?_, hputs₂.trans hputs₁⟩⟩
      intro key
      rw [hledger, hlookup₁]

theorem run_store_rendered {resolved : Resolved} {rendered : List UInt8} (run_id : String)
    (hrequest : resolve_request env.platform request = some resolved)
    (hrendered : resolved.render env.platform = .ok rendered)
    (hnone : w.ledger.lookup_idem resolved.idem_key = none) :
    ∃ result w', (store_rendered env.platform run_id request resolved rendered).run (exec env) w =
      (.ok result, w') ∧ Outcome env request w result w' := by
  let qc_verdict := verdict (env.qc w.qc_calls)
  let w₁ := { w with qc_calls := w.qc_calls + 1 }
  have hqc : (await .run_qc).run (exec env) w = (.ok qc_verdict, w₁) := rfl
  obtain ⟨r, w₂, hstore, hcases⟩ := run_store_document env (store_request request resolved rendered) w₁ hnone
  have hattempt : (store_document (store_request request resolved rendered)).attempt.run (exec env) w₁ =
      (.ok r, w₂) := by
    rw [run_attempt, hstore]
  unfold store_rendered
  rw [run_bind_ok hqc, run_bind_ok hattempt]
  obtain ⟨e, rfl, huntouched⟩ | ⟨put, docstore_call, rfl, hput, hmatter, hdocstore, hputs, hlookup⟩ := hcases
  · exact ⟨_, _, rfl, .failed resolved hrequest hnone rfl rfl ⟨huntouched.lookup, huntouched.puts⟩⟩
  · exact ⟨_, _, rfl, .stored resolved rendered put docstore_call hrequest hnone hrendered hput hmatter
      hdocstore rfl rfl rfl hputs hlookup⟩

/-- What comes before a call that changes nothing does not matter. -/
theorem Outcome.after_untouched (huntouched : Untouched w w₁)
    (h : Outcome env request w₁ result w') : Outcome env request w result w' := by
  cases h with
  | not_found hrequest hdocument hstatus hrest =>
    exact .not_found hrequest hdocument hstatus (huntouched.trans hrest)
  | hit resolved existing hrequest hlookup hdocument hstatus hgaps hrest =>
    rw [huntouched.lookup] at hlookup
    exact .hit resolved existing hrequest hlookup hdocument hstatus hgaps (huntouched.trans hrest)
  | failed resolved hrequest hlookup hdocument hstatus hrest =>
    rw [huntouched.lookup] at hlookup
    exact .failed resolved hrequest hlookup hdocument hstatus (huntouched.trans hrest)
  | stored resolved rendered put docstore_call hrequest hlookup hrendered hput hmatter hdocstore
      hdocument hstatus hgaps hputs hrecorded =>
    rw [huntouched.lookup] at hlookup
    rw [huntouched.puts] at hputs
    refine .stored resolved rendered put docstore_call hrequest hlookup hrendered hput hmatter
      hdocstore hdocument hstatus hgaps hputs ?_
    intro key
    rw [hrecorded, huntouched.lookup]

theorem run_generate_resolved {resolved : Resolved} (run_id : String) (w : World)
    (hrequest : resolve_request env.platform request = some resolved) :
    ∃ result w', (generate_resolved env.platform run_id request resolved).run (exec env) w =
      (.ok result, w') ∧ Outcome env request w result w' := by
  have hlookup : (await (.lookup resolved.idem_key)).run (exec env) w =
      (.ok (w.ledger.lookup_idem resolved.idem_key), w) := rfl
  unfold generate_resolved
  rw [run_bind_ok hlookup]
  cases hfound : w.ledger.lookup_idem resolved.idem_key with
  | some existing =>
    exact ⟨_, _, rfl, .hit resolved existing hrequest hfound rfl rfl rfl (Untouched.refl w)⟩
  | none =>
    unfold generate_new
    cases hrendered : resolved.render env.platform with
    | error exc => exact ⟨_, _, rfl, .failed resolved hrequest hfound rfl rfl ⟨fun _ => rfl, rfl⟩⟩
    | ok rendered => exact run_store_rendered run_id hrequest hrendered hfound

/-- **Every call returns**, in one of the four ways. -/
theorem run_tool_document_generate (env : Env) (request : GenerateRequest) (w : World) :
    ∃ result w', (tool_document_generate env.platform request).run (exec env) w = (.ok result, w') ∧
      Outcome env request w result w' := by
  obtain ⟨run_id, w₁, hrun_id, huntouched⟩ := run_choose_run_id env request w
  unfold tool_document_generate
  rw [run_bind_ok hrun_id]
  cases hrequest : resolve_request env.platform request with
  | none => exact ⟨_, _, rfl, .not_found hrequest rfl rfl huntouched⟩
  | some resolved =>
    obtain ⟨result, w', hrun, houtcome⟩ := run_generate_resolved run_id w₁ hrequest
    exact ⟨result, w', hrun, houtcome.after_untouched huntouched⟩

end outcome

end CaseAutomation.DocumentGen
