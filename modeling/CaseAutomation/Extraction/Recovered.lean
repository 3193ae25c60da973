import CaseAutomation.Extraction.Pages
import CaseAutomation.Framework.Pieces
import Mathlib.Data.List.Dedup
import Mathlib.Data.List.TakeWhile

/-! # From a Document to the Model

    `ExtractionService.extract` (`extraction/pipeline.py`) up to the call of the LLM client: limits,
    text stage, OCR stage, coverage, and the text that is handed over.

    An OCR text is taken only for a page that is not among the native texts, and the extractor puts
    every page there. So the text that is handed over is the native layer
    (`document_text_eq`), and what was recognised arrives only where the native layer has it
    anyway (`recovered_text_given_iff`).
-/

namespace CaseAutomation.Extraction

open Framework

/-- The parts of `ExtractionService` and of its configuration that are used here. -/
structure ExtractionService where
  text : TextExtractor
  ocr : OcrEngine
  /-- There is an LLM client. -/
  llm : Bool
  /-- `content.decode("utf-8", errors="replace")`. -/
  decode : List UInt8 → String
  max_bytes : Nat
  max_pages : Nat

structure ExtractInput where
  content_kind : ContentKind
  structuring : Bool

/-- What the stages before structuring produce. -/
structure Recovered where
  coverage : PageCoverage
  warnings : List String
  all_text : String
  deriving DecidableEq

/-- `InputLimitError`. -/
def input_limit (limit_kind : String) (limit actual : Nat) : Exn :=
  .other "InputLimitError" ("Input exceeds " ++ limit_kind ++ " limit: max=" ++ toString limit ++
    ", got=" ++ toString actual ++ ".")

/-- `sorted(page_texts)`. -/
def TextStage.pages (stage : TextStage) : List Nat := stage.page_texts.keys.insertionSort (· ≤ ·)

/-- `page_texts[p]`. -/
def TextStage.native (stage : TextStage) (p : Nat) : String := (stage.page_texts.get? p).getD ""

/-- `all_text_parts`. -/
def text_parts (stage : TextStage) (ocr_results : Dict Nat OcrResult) : List String :=
  stage.pages.map stage.native ++
    ((ocr_results.keys.insertionSort (· ≤ ·)).filter fun p => decide (p ∉ stage.page_texts.keys)).map
      fun p => ((ocr_results.get? p).map Prod.fst).getD ""

/-- `all_text`. -/
def document_text (stage : TextStage) (ocr_results : Dict Nat OcrResult) : String :=
  "\n".intercalate (text_parts stage ocr_results)

/-- The OCR stage. -/
def ExtractionService.ocr_results (service : ExtractionService) (content : List UInt8)
    (stage : TextStage) : Dict Nat OcrResult :=
  if stage.ocr_needed = [] then ∅ else service.ocr.ocr content stage.ocr_needed

/-- The pages for which the OCR has found no text. -/
def empty_ocr_warnings (ocr_results : Dict Nat OcrResult) : List String :=
  (ocr_results.entries.filter fun entry => decide (strip entry.2.1 = "")).map fun entry =>
    "OCR returned empty text for page " ++ toString entry.1 ++ "."

/-- `extract`, up to the structuring. -/
def ExtractionService.recover (service : ExtractionService) (inp : ExtractInput)
    (content : List UInt8) : Except Exn Recovered :=
  if content.length = 0 then .error (.value_error "Empty input content.")
  else if service.max_bytes < content.length then
    .error (input_limit "bytes" service.max_bytes content.length)
  else if inp.content_kind = .email_body then
    .ok ⟨build_email_coverage, [], service.decode content⟩
  else do
    let stage ← service.text content inp.content_kind
    let total_pages := stage.page_texts.keys.length
    if service.max_pages < total_pages then
      .error (input_limit "pages" service.max_pages total_pages)
    else
      let ocr_results := service.ocr_results content stage
      let (coverage, cov_warnings) :=
        build_coverage total_pages stage.text_pages ocr_results stage.ocr_needed
      .ok ⟨coverage, empty_ocr_warnings ocr_results ++ cov_warnings, document_text stage ocr_results⟩

/-- The text given to the LLM client, if it is called. -/
def ExtractionService.text_given (service : ExtractionService) (inp : ExtractInput)
    (recovered : Recovered) : Option String :=
  if inp.structuring = true ∧ service.llm = true ∧ strip recovered.all_text ≠ "" then
    some recovered.all_text
  else none

/-! ## What should arrive -/

/-- The text that was recovered from a page: its native text, or a non-empty OCR text. -/
def page_text (stage : TextStage) (ocr_results : Dict Nat OcrResult) (p : Nat) : Option String :=
  if p ∈ stage.text_pages then some (stage.native p)
  else ((ocr_results.get? p).map Prod.fst).filter fun text => decide (strip text ≠ "")

/-- All recovered text, page by page. -/
def recovered_texts (stage : TextStage) (ocr_results : Dict Nat OcrResult) : List String :=
  stage.pages.filterMap (page_text stage ocr_results)

/-- The client is given all texts in order, where there are any. -/
def Arrives (texts : List String) (given : Option String) : Prop :=
  texts = [] ∨ ∃ text, given = some text ∧ InOrder (texts.map String.toList) text.toList

/-- The native texts of all pages. -/
def native_layer (stage : TextStage) : String := "\n".intercalate (stage.pages.map stage.native)

section recovered
variable {service : ExtractionService} {libs : Libraries} {inp : ExtractInput}
  {content : List UInt8} {kind : ContentKind} {stage : TextStage} {recovered : Recovered}
  {ocr_results : Dict Nat OcrResult}

/-! ## What is handed over -/

/-- What `recover` returns for a document with pages. -/
theorem recover_eq (hkind : inp.content_kind ≠ .email_body)
    (hstage : service.text content inp.content_kind = .ok stage)
    (h : service.recover inp content = .ok recovered) :
    recovered.all_text = document_text stage (service.ocr_results content stage) := by
  unfold ExtractionService.recover at h
  rw [if_neg hkind, hstage] at h
  split at h
  · cases h
  · split at h
    · cases h
    · simp only [bind, Except.bind] at h
      split at h
      · cases h
      · rw [← Except.ok.inj h]

/-- The OCR has run on pages that need it. -/
theorem mem_ocr_needed {p : Nat} (h : p ∈ (service.ocr_results content stage).keys) :
    p ∈ stage.ocr_needed := by
  unfold ExtractionService.ocr_results at h
  split at h
  · cases h
  · exact service.ocr.specified _ _ p h

/-- **No OCR text is handed over**: the text is the native layer. -/
theorem document_text_eq (hkeys : ∀ p ∈ ocr_results.keys, p ∈ stage.page_texts.keys) :
    document_text stage ocr_results = native_layer stage := by
  have hnone : ((ocr_results.keys.insertionSort (· ≤ ·)).filter
      fun p => decide (p ∉ stage.page_texts.keys)) = [] := by
    apply List.filter_eq_nil_iff.mpr
    intro p hp
    have hmem := hkeys p ((List.mem_insertionSort (· ≤ ·)).mp hp)
    simpa using hmem
  unfold document_text text_parts native_layer
  rw [hnone, List.map_nil, List.append_nil]

/-! ## Blank texts -/

/-- What occurs in a blank text is blank. -/
theorem strip_of_piece {s t : String} (h : s.toList <:+: t.toList) (ht : strip t = "") :
    strip s = "" := by
  rw [strip_eq_empty] at ht ⊢
  intro c hc
  exact ht c (h.subset hc)

/-- No recovered text is blank. -/
theorem strip_recovered {pages : List (Option String)} {text : String}
    (h : text ∈ recovered_texts (classify_pages pages) ocr_results) : strip text ≠ "" := by
  obtain ⟨p, hp, htext⟩ := List.mem_filterMap.mp h
  unfold page_text at htext
  split at htext
  · next htext_page =>
    -- a text page has at least ten characters that count
    have hkey := (List.mem_insertionSort (· ≤ ·)).mp hp
    obtain ⟨t, ht⟩ := Dict.mem_keys_iff.mp hkey
    have husable := usable_of_text_page htext_page ht
    rw [← Option.some.inj htext, TextStage.native, ht]
    intro hempty
    have hlength : min_text_chars ≤ (strip t).length := of_decide_eq_true husable
    rw [show strip t = "" from hempty] at hlength
    exact absurd hlength (by decide)
  · obtain ⟨hsome, ht⟩ := Option.filter_eq_some_iff.mp htext
    exact of_decide_eq_true ht

/-! ## What arrives -/

/-- What arrives, by the native layer. -/
theorem given_iff (htext : service.text = PdfTextExtractor libs)
    (hkind : inp.content_kind ≠ .email_body) (hstructuring : inp.structuring = true)
    (hllm : service.llm = true) (hstage : service.text content inp.content_kind = .ok stage)
    (h : service.recover inp content = .ok recovered) :
    Arrives (recovered_texts stage (service.ocr_results content stage))
        (service.text_given inp recovered) ↔
      InOrder ((recovered_texts stage (service.ocr_results content stage)).map String.toList)
        (native_layer stage).toList := by
  have hall := recover_eq hkind hstage h
  rw [htext] at hstage
  obtain ⟨pages, rfl⟩ := extract_eq_classify hkind hstage
  have hnative : recovered.all_text = native_layer (classify_pages pages) := by
    rw [hall]
    apply document_text_eq
    intro p hp
    exact mem_keys_of_ocr_needed (mem_ocr_needed hp)
  unfold ExtractionService.text_given
  by_cases hblank : strip recovered.all_text = ""
  · -- the client is not called; a blank native layer has no recovered text
    rw [if_neg (by simp [hblank])]
    constructor
    · rintro (hnone | ⟨text, hgiven, -⟩)
      · rw [hnone]
        trivial
      · cases hgiven
    · intro horder
      left
      apply List.eq_nil_iff_forall_not_mem.mpr
      intro text htext
      have hinfix := horder.infix_of_mem (List.mem_map_of_mem htext)
      rw [hnative] at hblank
      exact strip_recovered htext (strip_of_piece hinfix hblank)
  · rw [if_pos ⟨hstructuring, hllm, hblank⟩, hnative]
    constructor
    · rintro (hnone | ⟨text, hgiven, horder⟩)
      · rw [hnone]
        trivial
      · rw [Option.some.inj hgiven]
        exact horder
    · intro horder
      exact .inr ⟨_, rfl, horder⟩

/-! ## Documents for which everything arrives -/

/-- The native texts of the text pages stand in the native layer. -/
theorem native_in_order (hblank : ∀ p result, ocr_results.get? p = some result → strip result.1 = "") :
    InOrder ((recovered_texts stage ocr_results).map String.toList) (native_layer stage).toList := by
  have hselected : ∀ pages : List Nat, (pages.filterMap (page_text stage ocr_results)).Sublist
      (pages.map stage.native) := by
    intro pages
    induction pages with
    | nil => exact List.Sublist.slnil
    | cons p rest ih =>
      by_cases hp : p ∈ stage.text_pages
      · have htext : page_text stage ocr_results p = some (stage.native p) := if_pos hp
        rw [List.filterMap_cons_some htext]
        exact ih.cons_cons _
      · have hnone : page_text stage ocr_results p = none := by
          unfold page_text
          rw [if_neg hp, Option.filter_eq_none_iff]
          intro text htext
          obtain ⟨result, hresult, rfl⟩ := Option.map_eq_some_iff.mp htext
          simp [hblank p result hresult]
        rw [List.filterMap_cons_none hnone]
        exact ih.cons _
  unfold native_layer
  rw [String.toList_intercalate]
  exact inOrder_intercalate _ ((hselected _).map String.toList)

/-- An engine that recognises one text on every page. -/
def constant_ocr (text : String) : OcrEngine where
  ocr _ pages := ⟨pages.dedup.map fun p => (p, text, ⟨"0.9", nine_tenths_repr_ok⟩), by
    rw [List.map_map]
    simpa [Function.comp_def] using pages.nodup_dedup⟩
  specified _ pages p hp := by
    obtain ⟨entry, hentry, rfl⟩ := List.mem_map.mp hp
    obtain ⟨q, hq, rfl⟩ := List.mem_map.mp hentry
    exact List.mem_dedup.mp hq

theorem get?_constant_ocr {text : String} {pages : List Nat} {p : Nat} (hp : p ∈ pages) :
    ∃ confidence, ((constant_ocr text).ocr content pages).get? p = some (text, confidence) := by
  refine ⟨⟨"0.9", nine_tenths_repr_ok⟩, Dict.get?_of_mem_entries ?_⟩
  exact List.mem_map.mpr ⟨p, List.mem_dedup.mpr hp, rfl⟩

/-- The service with another OCR engine. -/
def ExtractionService.with_ocr (service : ExtractionService) (ocr : OcrEngine) : ExtractionService :=
  { service with ocr := ocr }

/-- What an engine recognises on a page that needs OCR is recovered. -/
theorem mem_recovered_texts {pages : List (Option String)} {text : String} {p : Nat}
    (hp : p ∈ (classify_pages pages).ocr_needed) (htext : strip text ≠ "")
    (hocr : service.ocr = constant_ocr text) :
    text ∈ recovered_texts (classify_pages pages)
      (service.ocr_results content (classify_pages pages)) := by
  have hneeded : (classify_pages pages).ocr_needed ≠ [] := List.ne_nil_of_mem hp
  obtain ⟨confidence, hget⟩ : ∃ confidence, ((constant_ocr text).ocr content
      (classify_pages pages).ocr_needed).get? p = some (text, confidence) := get?_constant_ocr hp
  have hresults : service.ocr_results content (classify_pages pages) =
      (constant_ocr text).ocr content (classify_pages pages).ocr_needed := by
    unfold ExtractionService.ocr_results
    rw [if_neg hneeded, hocr]
  refine List.mem_filterMap.mpr ⟨p, ?_, ?_⟩
  · exact (List.mem_insertionSort (· ≤ ·)).mpr (mem_keys_of_ocr_needed hp)
  · unfold page_text
    rw [if_neg (not_text_page_of_ocr_needed hp), hresults, hget]
    simp [htext]

/-- The OCR does not decide whether the stages before structuring succeed. -/
theorem recover_with_ocr (ocr : OcrEngine) (hkind : inp.content_kind ≠ .email_body)
    (hstage : service.text content inp.content_kind = .ok stage)
    (h : service.recover inp content = .ok recovered) :
    ∃ recovered, (service.with_ocr ocr).recover inp content = .ok recovered := by
  have hstage' : (service.with_ocr ocr).text content inp.content_kind = .ok stage := hstage
  unfold ExtractionService.recover at h ⊢
  rw [if_neg hkind, hstage] at h
  rw [if_neg hkind, hstage']
  simp only [bind, Except.bind] at h ⊢
  split at h
  · cases h
  · next hcontent =>
    rw [if_neg hcontent]
    split at h
    · cases h
    · next hbytes =>
      have hbytes' : ¬ (service.with_ocr ocr).max_bytes < content.length := hbytes
      rw [if_neg hbytes']
      split at h
      · cases h
      · next hpages =>
        have hpages' : ¬ (service.with_ocr ocr).max_pages < stage.page_texts.keys.length := hpages
        rw [if_neg hpages']
        exact ⟨_, rfl⟩

/-- Scanned pages are lost: all that any OCR engine recognises in a document arrives if and only if
    no page needs OCR. -/
theorem arrives_for_every_ocr_iff (htext : service.text = PdfTextExtractor libs)
    (hkind : inp.content_kind ≠ .email_body) (hstructuring : inp.structuring = true)
    (hllm : service.llm = true) (hstage : service.text content inp.content_kind = .ok stage)
    (h : service.recover inp content = .ok recovered) :
    (∀ ocr recovered, (service.with_ocr ocr).recover inp content = .ok recovered →
      Arrives (recovered_texts stage ((service.with_ocr ocr).ocr_results content stage))
        (service.text_given inp recovered)) ↔ stage.ocr_needed = [] := by
  -- the lemma for the service with another engine
  have hiff : ∀ ocr recovered, (service.with_ocr ocr).recover inp content = .ok recovered →
      (Arrives (recovered_texts stage ((service.with_ocr ocr).ocr_results content stage))
          (service.text_given inp recovered) ↔
        InOrder ((recovered_texts stage ((service.with_ocr ocr).ocr_results content stage)).map
          String.toList) (native_layer stage).toList) := by
    intro ocr recovered hok
    have hstage' : (service.with_ocr ocr).text content inp.content_kind = .ok stage := hstage
    exact given_iff htext hkind hstructuring hllm hstage' hok
  constructor
  · intro harrives
    by_contra hneeded
    obtain ⟨p, hp⟩ := List.exists_mem_of_ne_nil _ hneeded
    rw [htext] at hstage
    obtain ⟨pages, rfl⟩ := extract_eq_classify hkind hstage
    rw [← htext] at hstage
    -- a text that is longer than the native layer
    let text := String.ofList (List.replicate ((native_layer (classify_pages pages)).toList.length + 1) 'x')
    have hx : strip text ≠ "" := by
      intro hblank
      have hspace := strip_eq_empty.mp hblank 'x' (by simp [text])
      exact absurd hspace (by decide)
    obtain ⟨recovered, hok⟩ := recover_with_ocr (constant_ocr text) hkind hstage h
    have horder := (hiff _ _ hok).mp (harrives _ _ hok)
    have hmem : text ∈ recovered_texts (classify_pages pages)
        ((service.with_ocr (constant_ocr text)).ocr_results content (classify_pages pages)) :=
      mem_recovered_texts hp hx rfl
    have hlength := (horder.infix_of_mem (List.mem_map_of_mem hmem)).length_le
    have hlong : text.toList.length = (native_layer (classify_pages pages)).toList.length + 1 := by
      simp [text]
    omega
  · intro hnone ocr recovered hok
    rw [hiff ocr recovered hok]
    apply native_in_order
    intro p result hresult
    unfold ExtractionService.ocr_results at hresult
    rw [if_pos hnone] at hresult
    cases hresult

/-- **What arrives.** The client is given everything that was recovered from a document, page by page,
    if and only if the native layer alone has it all; and for a document this holds whatever the OCR
    recognises if and only if no page needs OCR. -/
theorem recovered_text_given_iff (htext : service.text = PdfTextExtractor libs)
    (hkind : inp.content_kind ≠ .email_body) (hstructuring : inp.structuring = true)
    (hllm : service.llm = true) (hstage : service.text content inp.content_kind = .ok stage)
    (h : service.recover inp content = .ok recovered) :
    (Arrives (recovered_texts stage (service.ocr_results content stage))
        (service.text_given inp recovered) ↔
      InOrder ((recovered_texts stage (service.ocr_results content stage)).map String.toList)
        (native_layer stage).toList) ∧
    ((∀ ocr recovered, (service.with_ocr ocr).recover inp content = .ok recovered →
      Arrives (recovered_texts stage ((service.with_ocr ocr).ocr_results content stage))
        (service.text_given inp recovered)) ↔ stage.ocr_needed = []) :=
  ⟨given_iff htext hkind hstructuring hllm hstage h,
    arrives_for_every_ocr_iff htext hkind hstructuring hllm hstage h⟩

end recovered

/-! ## A scanned page -/

section scanned

/-- Two pages, the second one scanned. -/
def sample_pages (scanned : Option String) : Libraries where
  pdfplumber _ := some [some "Letter of engagement", scanned]
  pymupdf _ := .error "cannot open"

def sample_service (scanned : Option String) : ExtractionService where
  text := PdfTextExtractor (sample_pages scanned)
  ocr := constant_ocr "Id 123456"
  llm := true
  decode _ := ""
  max_bytes := 100
  max_pages := 10

def sample_input : ExtractInput := ⟨.pdf, true⟩

/-- The pages as the extractor sees them. -/
def sample_stage (scanned : Option String) : TextStage :=
  classify_pages [some "Letter of engagement", scanned]

/-- The texts that are recovered. -/
def sample_texts (scanned : Option String) : List String :=
  recovered_texts (sample_stage scanned)
    ((sample_service scanned).ocr_results [1] (sample_stage scanned))

/-- **A scanned page is dropped.** Its text is recognised and the page counts as read, with no
    warning, yet the client is given the first page only. -/
theorem scanned_page_dropped : ∃ recovered,
    (sample_service none).recover sample_input [1] = .ok recovered ∧
    recovered.coverage.ocr_pages = [2] ∧ recovered.warnings = [] ∧
    sample_texts none = ["Letter of engagement", "Id 123456"] ∧
    (sample_service none).text_given sample_input recovered = some "Letter of engagement\n" ∧
    ¬ Arrives (sample_texts none) ((sample_service none).text_given sample_input recovered) := by
  have hok : (sample_service none).recover sample_input [1] =
      .ok ⟨⟨2, [1], [2], []⟩, [], "Letter of engagement\n"⟩ := by decide +kernel
  have htexts : sample_texts none = ["Letter of engagement", "Id 123456"] := by decide +kernel
  have hgiven : (sample_service none).text_given sample_input
      ⟨⟨2, [1], [2], []⟩, [], "Letter of engagement\n"⟩ = some "Letter of engagement\n" := by
    decide +kernel
  refine ⟨_, hok, rfl, rfl, htexts, hgiven, ?_⟩
  rw [htexts, hgiven]
  rintro (hnone | ⟨text, htext, horder⟩)
  · cases hnone
  · obtain rfl := Option.some.inj htext
    have hinfix := horder.infix_of_mem (List.mem_cons_of_mem _ List.mem_cons_self)
    exact absurd hinfix (by decide +kernel)

/-- The native layer of the second page is too short to count as a text page; OCR recognises the same
    text, and both pages arrive. -/
theorem thin_page_arrives : ∃ recovered,
    (sample_service (some "Id 123456")).recover sample_input [1] = .ok recovered ∧
    recovered.coverage.ocr_pages = [2] ∧
    sample_texts (some "Id 123456") = ["Letter of engagement", "Id 123456"] ∧
    Arrives (sample_texts (some "Id 123456"))
      ((sample_service (some "Id 123456")).text_given sample_input recovered) := by
  have hok : (sample_service (some "Id 123456")).recover sample_input [1] =
      .ok ⟨⟨2, [1], [2], []⟩, [], "Letter of engagement\nId 123456"⟩ := by decide +kernel
  have htexts : sample_texts (some "Id 123456") = ["Letter of engagement", "Id 123456"] := by
    decide +kernel
  have hlayer : native_layer (sample_stage (some "Id 123456")) =
      "\n".intercalate ["Letter of engagement", "Id 123456"] := by decide +kernel
  refine ⟨_, hok, rfl, htexts, ?_⟩
  refine (recovered_text_given_iff rfl (by decide) rfl rfl rfl hok).1.mpr ?_
  rw [show recovered_texts _ _ = _ from htexts, hlayer, String.toList_intercalate]
  exact inOrder_intercalate _ (List.Sublist.refl _)

end scanned

end CaseAutomation.Extraction
