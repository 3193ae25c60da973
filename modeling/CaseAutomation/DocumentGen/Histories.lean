import CaseAutomation.DocumentGen.Generate
import CaseAutomation.DocumentGen.StoreOnce

/-! # Histories of Generations

    Any number of `tool_document_generate` calls on one ledger, one after the other. A call that
    finds a document under its key returns it as it is: the key says nothing of the matter, and the
    ledger nothing of the status.

    * `own_documents_iff`   : each call returns a document of its own matter, rendered for it, if and only
      if no call finds a document that was stored for another matter.
    * `ready_documents_iff` : what is reported ready is, and repeated calls agree, if and only if
      each call that finds a document has no gaps, and the document had passed its QC.
-/

namespace CaseAutomation.DocumentGen

open Framework Program Domain

/-- The key of a call; none where its template is not found. -/
def request_key (platform : Platform) (request : GenerateRequest) : Option String :=
  (resolve_request platform request).map Resolved.idem_key

/-- The gaps of a call. -/
def request_gaps (platform : Platform) (request : GenerateRequest) : List Gap :=
  ((resolve_request platform request).map Resolved.gaps).getD []

/-- The content that a call renders. -/
def request_content (platform : Platform) (request : GenerateRequest) : Option (List UInt8) :=
  (resolve_request platform request).bind fun resolved => (resolved.render platform).toOption

/-- The document that is under the key of a call when it starts. -/
def World.found (platform : Platform) (request : GenerateRequest) (w : World) : Option Document :=
  (request_key platform request).bind w.ledger.lookup_idem

/-- One call of a history. -/
structure Entry where
  request : GenerateRequest
  /-- The document that was under the key of the call. -/
  found : Option Document
  result : GenerationResult

/-- The calls made so far, the latest first, and the state they leave. -/
inductive History (env : Env) : List Entry → World → Prop where
  | start (w : World) : w.ledger = .empty → w.puts = [] → History env [] w
  | next {log : List Entry} {w w' : World} {result : GenerationResult} (request : GenerateRequest) :
      History env log w →
      (tool_document_generate env.platform request).run (exec env) w = (.ok result, w') →
      History env (⟨request, w.found env.platform request, result⟩ :: log) w'

/-- The call has stored this document under this key. -/
structure Entry.Stored (platform : Platform) (e : Entry) (idem_key : String) (doc : Document) : Prop where
  key : request_key platform e.request = some idem_key
  fresh : e.found = none
  document : e.result.document = some doc

/-- The call finds what the other one has stored. -/
def Entry.Finds (platform : Platform) (e e₀ : Entry) : Prop :=
  ∃ idem_key doc, request_key platform e.request = some idem_key ∧ e.found = some doc ∧
    e₀.Stored platform idem_key doc

section histories
variable {env : Env} {log : List Entry} {w w' : World} {e e₀ : Entry} {result : GenerationResult}
  {request : GenerateRequest} {idem_key : String} {doc doc' : Document}

/-! ## One call -/

theorem request_key_of {platform : Platform} {resolved : Resolved}
    (h : resolve_request platform request = some resolved) :
    request_key platform request = some resolved.idem_key := by
  simp [request_key, h]

theorem request_gaps_of {platform : Platform} {resolved : Resolved}
    (h : resolve_request platform request = some resolved) :
    request_gaps platform request = resolved.gaps := by
  simp [request_gaps, h]

theorem found_of {platform : Platform} {resolved : Resolved}
    (h : resolve_request platform request = some resolved) :
    w.found platform request = w.ledger.lookup_idem resolved.idem_key := by
  simp [World.found, request_key_of h]

/-- What is known of a call from its entry alone. -/
inductive Entry.Ended (env : Env) (e : Entry) : Prop where
  /-- Nothing was found and nothing stored. -/
  | empty : e.found = none → e.result.document = none → e.result.status = .failed →
      Entry.Ended env e
  /-- The document that was found is returned. -/
  | hit (doc : Document) : e.found = some doc → e.result.document = some doc →
      e.result.status = .ready → e.result.gaps = request_gaps env.platform e.request →
      Entry.Ended env e
  /-- A new document was stored. -/
  | stored (idem_key : String) (doc : Document) : e.Stored env.platform idem_key doc →
      e.result.status = determine_status e.result.gaps e.result.qc_verdict →
      e.result.gaps = request_gaps env.platform e.request → Entry.Ended env e

theorem outcome_of_run
    (h : (tool_document_generate env.platform request).run (exec env) w = (.ok result, w')) :
    Outcome env request w result w' := by
  obtain ⟨result', w'', hrun, houtcome⟩ := run_tool_document_generate env request w
  obtain ⟨hresult, rfl⟩ := Prod.mk.inj (h.symm.trans hrun)
  cases hresult
  exact houtcome

/-- The entry of a call. -/
abbrev entry (env : Env) (request : GenerateRequest) (w : World) (result : GenerationResult) : Entry :=
  ⟨request, w.found env.platform request, result⟩

theorem ended_of_outcome (h : Outcome env request w result w') :
    (entry env request w result).Ended env := by
  cases h with
  | not_found hrequest hdocument hstatus _ =>
    have hkey : w.found env.platform request = none := by simp [World.found, request_key, hrequest]
    exact .empty hkey hdocument hstatus
  | hit resolved existing hrequest hlookup hdocument hstatus hgaps _ =>
    exact .hit existing ((found_of hrequest).trans hlookup) hdocument hstatus
      (hgaps.trans (request_gaps_of hrequest).symm)
  | failed resolved hrequest hlookup hdocument hstatus _ =>
    exact .empty ((found_of hrequest).trans hlookup) hdocument hstatus
  | stored resolved rendered put docstore_call hrequest hlookup _ _ _ _ hdocument hstatus hgaps =>
    refine .stored resolved.idem_key put.stored
      ⟨request_key_of hrequest, (found_of hrequest).trans hlookup, hdocument⟩ ?_
      (hgaps.trans (request_gaps_of hrequest).symm)
    rw [hgaps]
    exact hstatus

/-- A call leaves what it found in the ledger, and what it stored. -/
theorem lookup_of_outcome (h : Outcome env request w result w') :
    w'.ledger.lookup_idem idem_key = some doc ↔ w.ledger.lookup_idem idem_key = some doc ∨
      (entry env request w result).Stored env.platform idem_key doc := by
  have hunstored : result.document = none → Untouched w w' →
      (w'.ledger.lookup_idem idem_key = some doc ↔ w.ledger.lookup_idem idem_key = some doc ∨
        (entry env request w result).Stored env.platform idem_key doc) := by
    intro hdocument huntouched
    rw [huntouched.lookup]
    refine ⟨.inl, ?_⟩
    rintro (h | hstored)
    · exact h
    · have hsome := hstored.document
      rw [hdocument] at hsome
      cases hsome
  cases h with
  | not_found hrequest hdocument _ huntouched => exact hunstored hdocument huntouched
  | failed resolved hrequest hlookup hdocument _ huntouched => exact hunstored hdocument huntouched
  | hit resolved existing hrequest hlookup hdocument _ _ huntouched =>
    rw [huntouched.lookup]
    refine ⟨.inl, ?_⟩
    rintro (h | hstored)
    · exact h
    · have hfresh : w.found env.platform request = none := hstored.fresh
      rw [found_of hrequest, hlookup] at hfresh
      cases hfresh
  | stored resolved rendered put docstore_call hrequest hlookup _ _ _ _ hdocument _ _ _ hrecorded =>
    have hkey := request_key_of hrequest
    rw [hrecorded]
    by_cases h : idem_key = resolved.idem_key
    · rw [if_pos h, h, hlookup]
      constructor
      · intro hdoc
        exact .inr ⟨hkey, (found_of hrequest).trans hlookup, hdocument.trans hdoc⟩
      · rintro (hdoc | hstored)
        · cases hdoc
        · exact hdocument.symm.trans hstored.document
    · rw [if_neg h]
      refine ⟨.inl, ?_⟩
      rintro (hdoc | hstored)
      · exact hdoc
      · exact absurd (Option.some.inj (hstored.key.symm.trans hkey)) h

theorem Entry.Ended.of_found (h : e.Ended env) (hfound : e.found = some doc) :
    e.result.document = some doc ∧ e.result.status = .ready ∧
      e.result.gaps = request_gaps env.platform e.request := by
  cases h with
  | empty hnone =>
    rw [hnone] at hfound
    cases hfound
  | hit doc' hfound' hdocument hstatus hgaps =>
    rw [hfound'] at hfound
    exact ⟨hdocument.trans hfound, hstatus, hgaps⟩
  | stored _ _ hstored =>
    rw [hstored.fresh] at hfound
    cases hfound

theorem Entry.Ended.of_stored (h : e.Ended env) (hstored : e.Stored env.platform idem_key doc) :
    e.result.status = determine_status e.result.gaps e.result.qc_verdict ∧
      e.result.gaps = request_gaps env.platform e.request := by
  cases h with
  | empty _ hnone =>
    have hdocument := hstored.document
    rw [hnone] at hdocument
    cases hdocument
  | hit _ hfound =>
    have hfresh := hstored.fresh
    rw [hfound] at hfresh
    cases hfresh
  | stored _ _ _ hstatus hgaps => exact ⟨hstatus, hgaps⟩

/-! ## All calls -/

/-- The ledger holds what the calls have stored. -/
theorem History.lookup (h : History env log w) :
    w.ledger.lookup_idem idem_key = some doc ↔
      ∃ e ∈ log, e.Stored env.platform idem_key doc := by
  induction h with
  | start w hledger _ =>
    rw [hledger]
    simp [InMemoryVersionLedger.lookup_idem, InMemoryVersionLedger.empty]
  | next request _ hrun ih =>
    rw [lookup_of_outcome (outcome_of_run hrun), ih]
    constructor
    · rintro (⟨e, he, hstored⟩ | hstored)
      · exact ⟨e, List.mem_cons_of_mem _ he, hstored⟩
      · exact ⟨_, List.mem_cons_self, hstored⟩
    · rintro ⟨e, he, hstored⟩
      obtain rfl | he := List.mem_cons.mp he
      · exact .inr hstored
      · exact .inl ⟨e, he, hstored⟩

theorem History.ended (h : History env log w) (he : e ∈ log) : e.Ended env := by
  induction h with
  | start => cases he
  | next request _ hrun ih =>
    obtain rfl | he := List.mem_cons.mp he
    · exact ended_of_outcome (outcome_of_run hrun)
    · exact ih he

/-- A key is stored by one call only. -/
theorem History.stored_once (h : History env log w) (he : e ∈ log) (he₀ : e₀ ∈ log)
    (hstored : e.Stored env.platform idem_key doc) (hstored₀ : e₀.Stored env.platform idem_key doc') :
    e = e₀ := by
  -- the later call would have found the document of the earlier one
  have hlater : ∀ {log w result request} {e : Entry} {doc doc' : Document}, History env log w →
      e ∈ log → e.Stored env.platform idem_key doc →
      ¬ (entry env request w result).Stored env.platform idem_key doc' := by
    intro log w result request e doc doc' hlog he hstored hnew
    have hlookup := hlog.lookup.mpr ⟨e, he, hstored⟩
    have hfresh : w.found env.platform request = none := hnew.fresh
    have hkey : request_key env.platform request = some idem_key := hnew.key
    simp [World.found, hkey, hlookup] at hfresh
  induction h with
  | start => cases he
  | next request hlog hrun ih =>
    obtain rfl | hold := List.mem_cons.mp he
    · obtain rfl | hold₀ := List.mem_cons.mp he₀
      · rfl
      · exact absurd hstored (hlater hlog hold₀ hstored₀)
    · obtain rfl | hold₀ := List.mem_cons.mp he₀
      · exact absurd hstored₀ (hlater hlog hold hstored)
      · exact ih hold hold₀

/-- What a call finds was stored before. -/
theorem History.found (h : History env log w) (he : e ∈ log) (hfound : e.found = some doc) :
    ∃ e₀ ∈ log, ∃ idem_key, request_key env.platform e.request = some idem_key ∧
      e₀.Stored env.platform idem_key doc := by
  induction h with
  | start => cases he
  | next request hlog hrun ih =>
    obtain rfl | hold := List.mem_cons.mp he
    · obtain ⟨idem_key, hkey, hlookup⟩ := Option.bind_eq_some_iff.mp hfound
      obtain ⟨e₀, he₀, hstored⟩ := hlog.lookup.mp hlookup
      exact ⟨e₀, List.mem_cons_of_mem _ he₀, idem_key, hkey, hstored⟩
    · obtain ⟨e₀, he₀, hrest⟩ := ih hold
      exact ⟨e₀, List.mem_cons_of_mem _ he₀, hrest⟩

/-- A later call with the key finds what was stored. -/
theorem History.finds (h : History env log w) : log.Pairwise fun e e₀ =>
    ∀ idem_key doc, e₀.Stored env.platform idem_key doc →
      request_key env.platform e.request = some idem_key → e.found = some doc := by
  induction h with
  | start => exact List.Pairwise.nil
  | next request hlog hrun ih =>
    refine List.Pairwise.cons ?_ ih
    intro e₀ he₀ idem_key doc hstored hkey
    have hlookup := hlog.lookup.mpr ⟨e₀, he₀, hstored⟩
    exact Option.bind_eq_some_iff.mpr ⟨idem_key, hkey, hlookup⟩

/-! ## Documents of the right matter -/

/-- The document store returns a document of the matter for which one was handed over. -/
def KeepsMatter (env : Env) : Prop :=
  ∀ n doc content stored, env.docstore n doc content = .ok stored → stored.matter_id = doc.matter_id

/-- The call returns a document of its matter, with content that a call for this matter rendered. -/
def OwnDocument (env : Env) (log : List Entry) (w : World) (e : Entry) : Prop :=
  ∀ doc, e.result.document = some doc → doc.matter_id = e.request.matter.id ∧
    ∃ put ∈ w.puts, put.stored = doc ∧ ∃ e₀ ∈ log, e₀.request.matter.id = e.request.matter.id ∧
      request_content env.platform e₀.request = some put.request.rendered_bytes

/-- What was put so far stays. -/
theorem puts_of_outcome {put : Put} (h : Outcome env request w result w') (hput : put ∈ w.puts) :
    put ∈ w'.puts := by
  cases h with
  | not_found _ _ _ huntouched => rwa [huntouched.puts]
  | hit _ _ _ _ _ _ _ huntouched => rwa [huntouched.puts]
  | failed _ _ _ _ _ huntouched => rwa [huntouched.puts]
  | stored _ _ _ _ _ _ _ _ _ _ _ _ _ hputs _ =>
    rw [hputs]
    exact List.mem_cons_of_mem _ hput

/-- What a call stores has its matter and its content. -/
theorem content_of_outcome (hkeeps : KeepsMatter env) (h : Outcome env request w result w')
    (hstored : (entry env request w result).Stored env.platform idem_key doc) :
    doc.matter_id = request.matter.id ∧ ∃ put ∈ w'.puts, put.stored = doc ∧
      request_content env.platform request = some put.request.rendered_bytes := by
  have hdoc := hstored.document
  have hfresh : w.found env.platform request = none := hstored.fresh
  cases h with
  | not_found _ hdocument =>
    rw [hdocument] at hdoc
    cases hdoc
  | failed _ _ _ hdocument =>
    rw [hdocument] at hdoc
    cases hdoc
  | hit _ _ hrequest hlookup =>
    rw [found_of hrequest, hlookup] at hfresh
    cases hfresh
  | stored resolved rendered put docstore_call hrequest _ hrendered hput hmatter hdocstore hdocument
      _ _ hputs =>
    rw [hdocument] at hdoc
    obtain rfl := Option.some.inj hdoc
    refine ⟨(hkeeps _ _ _ _ hdocstore).trans hmatter, put, ?_, rfl, ?_⟩
    · rw [hputs]
      exact List.mem_cons_self
    · rw [hput]
      simp [request_content, hrequest, hrendered, store_request, Except.toOption]

theorem History.content (hkeeps : KeepsMatter env) (h : History env log w) (he : e ∈ log)
    (hstored : e.Stored env.platform idem_key doc) :
    doc.matter_id = e.request.matter.id ∧ ∃ put ∈ w.puts, put.stored = doc ∧
      request_content env.platform e.request = some put.request.rendered_bytes := by
  induction h with
  | start => cases he
  | next request hlog hrun ih =>
    have houtcome := outcome_of_run hrun
    obtain rfl | hold := List.mem_cons.mp he
    · exact content_of_outcome hkeeps houtcome hstored
    · obtain ⟨hmatter, put, hput, hrest⟩ := ih hold
      exact ⟨hmatter, put, puts_of_outcome houtcome hput, hrest⟩

/-- **Documents of the right matter.** All calls return a document of their own matter, rendered for
    this matter, if and only if each call that finds a document under its key finds one that
    was stored for its matter. -/
theorem own_documents_iff (hkeeps : KeepsMatter env) (h : History env log w) :
    (∀ e ∈ log, OwnDocument env log w e) ↔
      ∀ e ∈ log, ∀ e₀ ∈ log, e.Finds env.platform e₀ → e₀.request.matter.id = e.request.matter.id := by
  constructor
  · rintro hown e he e₀ he₀ ⟨idem_key, doc, hkey, hfound, hstored⟩
    have hdocument := ((h.ended he).of_found hfound).1
    exact (h.content hkeeps he₀ hstored).1.symm.trans (hown e he doc hdocument).1
  · intro hsame e he doc hdocument
    cases h.ended he with
    | empty _ hnone =>
      rw [hnone] at hdocument
      cases hdocument
    | hit doc' hfound hdocument' =>
      obtain rfl := Option.some.inj (hdocument'.symm.trans hdocument)
      obtain ⟨e₀, he₀, idem_key, hkey, hstored⟩ := h.found he hfound
      have hmatter := hsame e he e₀ he₀ ⟨idem_key, _, hkey, hfound, hstored⟩
      obtain ⟨hdoc, put, hput, hput_doc, hcontent⟩ := h.content hkeeps he₀ hstored
      exact ⟨hdoc.trans hmatter, put, hput, hput_doc, e₀, he₀, hmatter, hcontent⟩
    | stored idem_key doc' hstored =>
      obtain rfl := Option.some.inj (hstored.document.symm.trans hdocument)
      obtain ⟨hdoc, put, hput, hput_doc, hcontent⟩ := h.content hkeeps he hstored
      exact ⟨hdoc, put, hput, hput_doc, e, he, rfl, hcontent⟩

/-! ## Ready documents -/

/-- The QC has passed the document. -/
def Verdict.Clean (qc_verdict : Verdict) : Prop := qc_verdict = .pass ∨ qc_verdict = .warn

/-- What is reported ready has no gaps, and was passed when it was generated. -/
def ReadyDocument (platform : Platform) (log : List Entry) (e : Entry) : Prop :=
  e.result.status = .ready → e.result.gaps = [] ∧
    ∃ e₀ ∈ log, ∃ idem_key doc, request_key platform e.request = some idem_key ∧
      e₀.Stored platform idem_key doc ∧ e.result.document = some doc ∧ e₀.result.qc_verdict.Clean

/-- The same inputs; the run may differ. -/
def GenerateRequest.SameInputs (request request' : GenerateRequest) : Prop :=
  { request with run_id := request'.run_id } = request'

/-- A repeated call agrees with the one that has stored the document. -/
def Repeats (platform : Platform) (e e₀ : Entry) : Prop :=
  e.request.SameInputs e₀.request → ∀ idem_key doc, e₀.Stored platform idem_key doc →
    e.result.status = e₀.result.status ∧ e.result.gaps = e₀.result.gaps

theorem determine_status_ready {gaps : List Gap} {qc_verdict : Verdict} :
    determine_status gaps qc_verdict = .ready ↔ gaps = [] ∧ qc_verdict.Clean := by
  unfold determine_status Verdict.Clean
  cases gaps with
  | nil => cases qc_verdict <;> simp
  | cons gap gaps => simp

theorem GenerateRequest.SameInputs.resolved {request' : GenerateRequest} (platform : Platform)
    (h : request.SameInputs request') :
    resolve_request platform request = resolve_request platform request' := by
  rw [← h]
  rfl

/-- **Ready documents.** Every document reported ready is, and every repeated call agrees with the
    call that stored the document, if and only if each call that finds a document has no gaps, and
    the document was passed when it was generated. -/
theorem ready_documents_iff (h : History env log w) :
    ((∀ e ∈ log, ReadyDocument env.platform log e) ∧ log.Pairwise (Repeats env.platform)) ↔
      ∀ e ∈ log, ∀ e₀ ∈ log, e.Finds env.platform e₀ →
        request_gaps env.platform e.request = [] ∧ e₀.result.qc_verdict.Clean := by
  constructor
  · rintro ⟨hready, -⟩ e he e₀ he₀ ⟨idem_key, doc, hkey, hfound, hstored⟩
    obtain ⟨-, hstatus, hgaps⟩ := (h.ended he).of_found hfound
    obtain ⟨hnone, e₁, he₁, idem_key', doc', hkey', hstored', -, hclean⟩ := hready e he hstatus
    obtain rfl := Option.some.inj (hkey.symm.trans hkey')
    rw [h.stored_once he₀ he₁ hstored hstored']
    exact ⟨hgaps.symm.trans hnone, hclean⟩
  · intro hclean
    refine ⟨?_, ?_⟩
    · intro e he hstatus
      cases h.ended he with
      | empty _ _ hfailed =>
        rw [hfailed] at hstatus
        cases hstatus
      | hit doc hfound hdocument _ hgaps =>
        obtain ⟨e₀, he₀, idem_key, hkey, hstored⟩ := h.found he hfound
        obtain ⟨hnone, hverdict⟩ := hclean e he e₀ he₀ ⟨idem_key, doc, hkey, hfound, hstored⟩
        exact ⟨hgaps.trans hnone, e₀, he₀, idem_key, doc, hkey, hstored, hdocument, hverdict⟩
      | stored idem_key doc hstored hdetermined _ =>
        obtain ⟨hnone, hverdict⟩ := determine_status_ready.mp (hdetermined.symm.trans hstatus)
        exact ⟨hnone, e, he, idem_key, doc, hstored.key, hstored, hstored.document, hverdict⟩
    · refine h.finds.imp_of_mem ?_
      intro e e₀ he he₀ hfinds hinputs idem_key doc hstored
      have hresolved := hinputs.resolved env.platform
      have hkey : request_key env.platform e.request = some idem_key := by
        unfold request_key
        rw [hresolved]
        exact hstored.key
      have hsame : request_gaps env.platform e.request = request_gaps env.platform e₀.request := by
        unfold request_gaps
        rw [hresolved]
      have hfound := hfinds idem_key doc hstored hkey
      obtain ⟨-, hstatus, hgaps⟩ := (h.ended he).of_found hfound
      obtain ⟨hstatus₀, hgaps₀⟩ := (h.ended he₀).of_stored hstored
      obtain ⟨hnone, hverdict⟩ := hclean e he e₀ he₀ ⟨idem_key, doc, hkey, hfound, hstored⟩
      have hnone₀ : e₀.result.gaps = [] := hgaps₀.trans (hsame.symm.trans hnone)
      refine ⟨?_, (hgaps.trans hnone).trans hnone₀.symm⟩
      rw [hstatus, hstatus₀]
      exact (determine_status_ready.mpr ⟨hnone₀, hverdict⟩).symm

end histories

/-! ## Three histories -/

section scenarios

/-- The calls of a history, carried out. -/
def replay (env : Env) : List GenerateRequest → List Entry → World → List Entry × World
  | [], log, w => (log, w)
  | request :: rest, log, w =>
    match (tool_document_generate env.platform request).run (exec env) w with
    | (.ok result, w') => replay env rest (entry env request w result :: log) w'
    | (.error _, _) => (log, w)

theorem replay_history {env : Env} (requests : List GenerateRequest) {log : List Entry} {w : World}
    (h : History env log w) :
    History env (replay env requests log w).1 (replay env requests log w).2 := by
  induction requests generalizing log w with
  | nil => exact h
  | cons request rest ih =>
    unfold replay
    split
    · next result w' hrun => exact ih (h.next request hrun)
    · exact h

def sample_client (name : String) (phone : Option String) : Contact where
  id := "c-1"
  source := "clio"
  name := name
  email := none
  phone := phone
  role := some "client"
  external_ids := ∅

def sample_matter (id : String) (client : Contact) : Matter where
  id := id
  source := "clio"
  reference := id
  title := "Asylum"
  status := "open"
  practice_area := none
  client := client
  responsible := none
  opened_at := 0
  key_dates := []
  external_ids := ∅

def text_variable (name label : String) : TemplateVariable := ⟨name, label, true, .string, none⟩

/-- A template that uses nothing of the matter. -/
def privacy_notice : TemplateSpec := ⟨"privacy_notice", 1, none, false, []⟩

def call_letter : TemplateSpec :=
  ⟨"call_letter", 1, none, true, [text_variable "client.full_name" "Name",
    text_variable "client.phone" "Phone"]⟩

def sample_store : TemplateStore :=
  Dict.set (Dict.set ∅ "privacy_notice"
      (Dict.set ∅ 1 (privacy_notice, encode_utf8 "We keep your data.")))
    "call_letter" (Dict.set ∅ 1 (call_letter, encode_utf8 "Dear \x7b\x7b client.full_name \x7d\x7d"))

def sample_generate (matter : Matter) (template_name : String) : GenerateRequest where
  matter := matter
  template_name := template_name
  template_store := sample_store
  data_context := []
  doc_key := none
  idem_key_override := none
  render_pdf := false
  run_id := some "run-1"

def ana : Matter := sample_matter "m-1" (sample_client "Ana" (some "555-0100"))
def ben : Matter := sample_matter "m-2" (sample_client "Ben" (some "555-0200"))
def cem : Matter := sample_matter "m-3" (sample_client "Cem" none)

theorem calm_keeps : KeepsMatter calm_env := by
  intro n doc content stored h
  obtain rfl := Except.ok.inj h
  rfl

theorem new_history : History calm_env [] new_world := .start new_world rfl rfl

/-- The notice for two matters. -/
def shared_notice : List Entry × World :=
  replay calm_env [sample_generate ana "privacy_notice", sample_generate ben "privacy_notice"] []
    new_world

/-- The matter of a call and the one of its document. -/
def matters (e : Entry) : String × Option String :=
  (e.request.matter.id, e.result.document.map Document.matter_id)

/-- **A document is shared by two matters.** The call for the second matter returns the document of
    the first one. -/
theorem notice_of_other_matter :
    History calm_env shared_notice.1 shared_notice.2 ∧
    shared_notice.1.map matters = [("m-2", some "m-1"), ("m-1", some "m-1")] ∧
    ¬ ∀ e ∈ shared_notice.1, OwnDocument calm_env shared_notice.1 shared_notice.2 e := by
  have hmatters : shared_notice.1.map matters = [("m-2", some "m-1"), ("m-1", some "m-1")] := by
    decide +kernel
  refine ⟨replay_history _ new_history, hmatters, ?_⟩
  intro hown
  have hmem : ("m-2", some "m-1") ∈ shared_notice.1.map matters := by
    rw [hmatters]
    exact List.mem_cons_self
  obtain ⟨e, he, heq⟩ := List.mem_map.mp hmem
  obtain ⟨hid, hdoc⟩ := Prod.mk.inj heq
  obtain ⟨doc, hdocument, hmatter⟩ := Option.map_eq_some_iff.mp hdoc
  have hsame := (hown e he doc hdocument).1
  rw [hmatter, hid] at hsame
  exact absurd hsame (by decide)

/-- A letter for each of two matters, and the first one again. -/
def own_letters : List Entry × World :=
  replay calm_env [sample_generate ana "call_letter", sample_generate ben "call_letter",
    sample_generate ana "call_letter"] [] new_world

/-- What the three calls give: documents of their own matters, without gaps and passed by the QC. -/
theorem own_letters_clean :
    own_letters.1.map matters = [("m-1", some "m-1"), ("m-2", some "m-2"), ("m-1", some "m-1")] ∧
    ∀ e ∈ own_letters.1,
      e.found.all (fun doc => decide (doc.matter_id = e.request.matter.id)) = true ∧
      request_gaps plain_platform e.request = [] ∧
      (e.found.isNone = true → e.result.qc_verdict = .pass) := by
  decide +kernel

theorem letters_of_own_matter :
    own_letters.1.map matters = [("m-1", some "m-1"), ("m-2", some "m-2"), ("m-1", some "m-1")] ∧
    ∀ e ∈ own_letters.1, OwnDocument calm_env own_letters.1 own_letters.2 e := by
  have hlog : History calm_env own_letters.1 own_letters.2 := replay_history _ new_history
  obtain ⟨hmatters, hclean⟩ := own_letters_clean
  refine ⟨hmatters, (own_documents_iff calm_keeps hlog).mpr ?_⟩
  rintro e he e₀ he₀ ⟨idem_key, doc, -, hfound, hstored⟩
  have hsame := (hclean e he).1
  rw [hfound] at hsame
  exact (hlog.content calm_keeps he₀ hstored).1.symm.trans (of_decide_eq_true hsame)

/-- A letter without the client's phone number, twice. -/
def incomplete_letters : List Entry × World :=
  replay calm_env [sample_generate cem "call_letter", sample_generate cem "call_letter"] [] new_world

/-- The status of a call, and the variables it reports as missing. -/
def reported (e : Entry) : Status × List String := (e.result.status, e.result.gaps.map Gap.var_name)

/-- **An incomplete document is reported ready.** The second call reports the document of the
    first one as ready, with the gap. -/
theorem incomplete_letter_ready :
    History calm_env incomplete_letters.1 incomplete_letters.2 ∧
    incomplete_letters.1.map reported =
      [(.ready, ["client.phone"]), (.incomplete, ["client.phone"])] ∧
    ¬ ∀ e ∈ incomplete_letters.1, ReadyDocument plain_platform incomplete_letters.1 e := by
  have hreported : incomplete_letters.1.map reported =
      [(.ready, ["client.phone"]), (.incomplete, ["client.phone"])] := by decide +kernel
  refine ⟨replay_history _ new_history, hreported, ?_⟩
  intro hready
  have hmem : (Status.ready, ["client.phone"]) ∈ incomplete_letters.1.map reported := by
    rw [hreported]
    exact List.mem_cons_self
  obtain ⟨e, he, heq⟩ := List.mem_map.mp hmem
  obtain ⟨hstatus, hgaps⟩ := Prod.mk.inj heq
  have hnone := (hready e he hstatus).1
  rw [hnone] at hgaps
  cases hgaps

/-- Complete letters, passed by the QC: the repeated call agrees. -/
theorem letters_ready :
    (∀ e ∈ own_letters.1, ReadyDocument plain_platform own_letters.1 e) ∧
      own_letters.1.Pairwise (Repeats plain_platform) := by
  refine (ready_documents_iff (replay_history _ new_history)).mpr ?_
  have hclean := own_letters_clean.2
  rintro e he e₀ he₀ ⟨idem_key, doc, -, -, hstored⟩
  refine ⟨(hclean e he).2.1, .inl ((hclean e₀ he₀).2.2 ?_)⟩
  rw [hstored.fresh]
  rfl

end scenarios

end CaseAutomation.DocumentGen
