import CaseAutomation.Extraction.Recovered

/-! # Page Coverage with Tesseract

    `TesseractOcrEngine` (`ocr.py`) in the pipeline: what the coverage says of pages whose OCR is not
    available or raises.

    The engine answers for each page that it is given (`engine_keys`), with an empty text where it
    has failed. The coverage counts a page as read if the engine has answered for it, so the
    pages that the engine failed on are reported as read (`coverage_truthful_iff`).
-/

namespace CaseAutomation.Extraction

open Framework

/-! ## The engine -/

/-- What Tesseract and its libraries do. -/
structure TesseractOcrEngine where
  /-- `_check_available`. -/
  available : Bool
  /-- The imports, the opening and the closing of the document all succeed. -/
  opens : List UInt8 → Bool
  /-- What is recognised on a page; none where anything raises. -/
  recognise : List UInt8 → Nat → Option OcrResult

/-- `("", 0.0)`. -/
def no_result : OcrResult := ("", ⟨"0.0", zero_repr_ok⟩)

/-- One entry for each page. -/
def results_for (pages : List Nat) (result : Nat → OcrResult) : Dict Nat OcrResult :=
  pages.foldl (fun results p => results.set p (result p)) ∅

theorem results_for_keys {pages : List Nat} {result : Nat → OcrResult} {p : Nat} :
    p ∈ (results_for pages result).keys ↔ p ∈ pages := by
  have hkeys := Dict.mem_keys_foldl_set (fun p : Nat => p) result pages ∅ p
  have hempty : p ∉ (∅ : Dict Nat OcrResult).keys := List.not_mem_nil
  unfold results_for
  rw [hkeys, List.map_id', or_iff_left hempty]

namespace TesseractOcrEngine

/-- `_run`. -/
def run (tesseract : TesseractOcrEngine) (content : List UInt8) (pages : List Nat) : Dict Nat OcrResult :=
  if tesseract.opens content then
    results_for pages fun p => (tesseract.recognise content p).getD no_result
  else results_for pages fun _ => no_result

/-- `ocr`. -/
def ocr (tesseract : TesseractOcrEngine) (content : List UInt8) (pages : List Nat) : Dict Nat OcrResult :=
  if tesseract.available = false ∨ pages = [] then results_for pages fun _ => no_result
  else tesseract.run content pages

/-- **The engine answers for every page.** -/
theorem ocr_keys {tesseract : TesseractOcrEngine} {content : List UInt8} {pages : List Nat} {p : Nat} :
    p ∈ (tesseract.ocr content pages).keys ↔ p ∈ pages := by
  unfold ocr
  split
  · exact results_for_keys
  · unfold run
    split <;> exact results_for_keys

def engine (tesseract : TesseractOcrEngine) : OcrEngine where
  ocr := tesseract.ocr
  specified _ _ _ hp := ocr_keys.mp hp

/-- The OCR of the page was not available, or has raised. -/
def Failed (tesseract : TesseractOcrEngine) (content : List UInt8) (p : Nat) : Prop :=
  tesseract.available = false ∨ tesseract.opens content = false ∨ tesseract.recognise content p = none

end TesseractOcrEngine

/-! ## A coverage that tells the truth -/

/-- The text stage of a document; an e-mail has no pages. -/
def ExtractionService.stage (service : ExtractionService) (inp : ExtractInput) (content : List UInt8) :
    TextStage :=
  if inp.content_kind = .email_body then ⟨∅, [], []⟩
  else (service.text content inp.content_kind).toOption.getD ⟨∅, [], []⟩

/-- The warning for a skipped page. -/
def skip_warning (p : Nat) : String :=
  "Page " ++ toString p ++ " could not be processed and was skipped."

/-- The three lists divide the pages of the document, and each skipped page has a warning; there is no
    other such warning. -/
structure Divided (coverage : PageCoverage) (warnings : List String) : Prop where
  text_ocr : ∀ p ∈ coverage.text_pages, p ∉ coverage.ocr_pages
  text_skipped : ∀ p ∈ coverage.text_pages, p ∉ coverage.skipped_pages
  ocr_skipped : ∀ p ∈ coverage.ocr_pages, p ∉ coverage.skipped_pages
  union : ∀ p, p ∈ coverage.text_pages ∨ p ∈ coverage.ocr_pages ∨ p ∈ coverage.skipped_pages ↔
    1 ≤ p ∧ p ≤ coverage.total_pages
  once : coverage.skipped_pages.Nodup
  warned : ∃ earlier, warnings = earlier ++ coverage.skipped_pages.map skip_warning ∧
    ∀ p, skip_warning p ∉ earlier

/-- The coverage tells the truth about the pages that needed OCR. -/
structure Truthful (tesseract : TesseractOcrEngine) (content : List UInt8) (ocr_needed : List Nat)
    (recovered : Recovered) : Prop extends Divided recovered.coverage recovered.warnings where
  failed : ∀ p ∈ ocr_needed, tesseract.Failed content p →
    p ∈ recovered.coverage.skipped_pages ∧ p ∉ recovered.coverage.ocr_pages

/-- What the text extractor should return: pages of the document, each on one list at most. -/
structure Consistent (stage : TextStage) : Prop where
  apart : ∀ p ∈ stage.text_pages, p ∉ stage.ocr_needed
  within : ∀ p, p ∈ stage.text_pages ∨ p ∈ stage.ocr_needed → 1 ≤ p ∧ p ≤ stage.page_texts.keys.length

/-! ## The coverage -/

theorem mem_sorted_set {pages : List Nat} {p : Nat} : p ∈ sorted_set pages ↔ p ∈ pages := by
  unfold sorted_set
  rw [List.mem_insertionSort, List.mem_dedup]

theorem sorted_set_nodup (pages : List Nat) : (sorted_set pages).Nodup := by
  unfold sorted_set
  exact (List.perm_insertionSort (· ≤ ·) pages.dedup).nodup_iff.mpr pages.nodup_dedup

section coverage
variable {service : ExtractionService} {tesseract : TesseractOcrEngine} {inp : ExtractInput}
  {content : List UInt8} {stage : TextStage} {recovered : Recovered} {results : Dict Nat OcrResult} {p : Nat}

/-- The coverage of a stage whose pages for OCR have all been answered for. -/
def coverage_of (stage : TextStage) (results : Dict Nat OcrResult) : PageCoverage × List String :=
  build_coverage stage.page_texts.keys.length stage.text_pages results stage.ocr_needed

/-- Then the pages are skipped that are on neither list. -/
theorem mem_skipped (hkeys : ∀ p, p ∈ results.keys ↔ p ∈ stage.ocr_needed) :
    p ∈ (coverage_of stage results).1.skipped_pages ↔
      (1 ≤ p ∧ p ≤ stage.page_texts.keys.length) ∧ p ∉ stage.text_pages ∧ p ∉ stage.ocr_needed := by
  unfold coverage_of build_coverage
  simp only [mem_sorted_set, List.mem_append, List.mem_filter, List.mem_range'_1, decide_eq_true_eq,
    hkeys]
  constructor
  · rintro (⟨hneeded, hnot⟩ | ⟨⟨hlow, hhigh⟩, htext, hneeded, -⟩)
    · exact absurd hneeded hnot
    · exact ⟨⟨hlow, by omega⟩, htext, hneeded⟩
  · rintro ⟨⟨hlow, hhigh⟩, htext, hneeded⟩
    exact .inr ⟨⟨hlow, by omega⟩, htext, hneeded, fun hskipped => hneeded hskipped.1⟩

theorem mem_text : p ∈ (coverage_of stage results).1.text_pages ↔ p ∈ stage.text_pages := mem_sorted_set

theorem mem_ocr (hkeys : ∀ p, p ∈ results.keys ↔ p ∈ stage.ocr_needed) :
    p ∈ (coverage_of stage results).1.ocr_pages ↔ p ∈ stage.ocr_needed :=
  mem_sorted_set.trans (hkeys p)

/-- **When the pages are divided**: if the text stage is consistent. -/
theorem divided_iff (hkeys : ∀ p, p ∈ results.keys ↔ p ∈ stage.ocr_needed) {earlier : List String}
    (hearlier : ∀ p, skip_warning p ∉ earlier) :
    Divided (coverage_of stage results).1 (earlier ++ (coverage_of stage results).2) ↔
      Consistent stage := by
  constructor
  · intro h
    refine ⟨?_, ?_⟩
    · intro p hp hneeded
      exact h.text_ocr p (mem_text.mpr hp) ((mem_ocr hkeys).mpr hneeded)
    · intro p hp
      refine (h.union p).mp ?_
      rcases hp with htext | hneeded
      · exact .inl (mem_text.mpr htext)
      · exact .inr (.inl ((mem_ocr hkeys).mpr hneeded))
  · intro h
    refine ⟨?_, ?_, ?_, ?_, sorted_set_nodup _, ⟨earlier, rfl, hearlier⟩⟩
    · intro p hp hocr
      exact h.apart p (mem_text.mp hp) ((mem_ocr hkeys).mp hocr)
    · intro p hp hskipped
      exact ((mem_skipped hkeys).mp hskipped).2.1 (mem_text.mp hp)
    · intro p hp hskipped
      exact ((mem_skipped hkeys).mp hskipped).2.2 ((mem_ocr hkeys).mp hp)
    · -- what is on neither list is skipped
      intro p
      rw [mem_text, mem_ocr hkeys, mem_skipped hkeys]
      constructor
      · rintro (htext | hneeded | ⟨hpage, -⟩)
        · exact h.within p (.inl htext)
        · exact h.within p (.inr hneeded)
        · exact hpage
      · intro hpage
        by_cases htext : p ∈ stage.text_pages
        · exact .inl htext
        · by_cases hneeded : p ∈ stage.ocr_needed
          · exact .inr (.inl hneeded)
          · exact .inr (.inr ⟨hpage, htext, hneeded⟩)

/-- The OCR stage answers for every page that needs OCR. -/
theorem ocr_results_keys (hocr : service.ocr = tesseract.engine) :
    p ∈ (service.ocr_results content stage).keys ↔ p ∈ stage.ocr_needed := by
  unfold ExtractionService.ocr_results
  split
  · next hnone =>
    rw [hnone]
    exact Iff.rfl
  · rw [hocr]
    exact TesseractOcrEngine.ocr_keys

/-- The other warnings are about OCR texts. -/
theorem skip_warning_not_ocr (results : Dict Nat OcrResult) (p : Nat) :
    skip_warning p ∉ empty_ocr_warnings results := by
  intro h
  obtain ⟨entry, -, heq⟩ := List.mem_map.mp h
  have hhead := congrArg (fun w => w.toList.head?) heq
  simp [skip_warning] at hhead

/-- What the stages before structuring report. -/
theorem recovered_coverage (h : service.recover inp content = .ok recovered) :
    ∃ earlier, recovered.coverage =
        (coverage_of (service.stage inp content)
          (service.ocr_results content (service.stage inp content))).1 ∧
      recovered.warnings = earlier ++
        (coverage_of (service.stage inp content)
          (service.ocr_results content (service.stage inp content))).2 ∧
      ∀ p, skip_warning p ∉ earlier := by
  unfold ExtractionService.recover at h
  split at h
  · cases h
  · split at h
    · cases h
    · split at h
      · next hemail =>
        cases h
        have hstage : service.stage inp content = ⟨∅, [], []⟩ := if_pos hemail
        rw [hstage]
        exact ⟨[], rfl, rfl, fun p => List.not_mem_nil⟩
      · next hkind =>
        cases hstage : service.text content inp.content_kind with
        | error e =>
          rw [hstage] at h
          cases h
        | ok stage =>
          have hsame : service.stage inp content = stage := by
            unfold ExtractionService.stage
            rw [if_neg hkind, hstage]
            rfl
          rw [hsame]
          rw [hstage] at h
          simp only [bind, Except.bind] at h
          split at h
          · cases h
          · cases h
            exact ⟨_, rfl, rfl, skip_warning_not_ocr _⟩

/-- **When the coverage tells the truth.** The pages are divided, and those that the OCR failed on are
    among the skipped ones, if and only if the text stage is consistent and the OCR has failed on none. -/
theorem coverage_truthful_iff (hocr : service.ocr = tesseract.engine)
    (h : service.recover inp content = .ok recovered) :
    Truthful tesseract content (service.stage inp content).ocr_needed recovered ↔
      Consistent (service.stage inp content) ∧
        ∀ p ∈ (service.stage inp content).ocr_needed, ¬ tesseract.Failed content p := by
  obtain ⟨earlier, hcoverage, hwarnings, hearlier⟩ := recovered_coverage h
  have hkeys : ∀ p, p ∈ (service.ocr_results content (service.stage inp content)).keys ↔
      p ∈ (service.stage inp content).ocr_needed := fun p => ocr_results_keys hocr
  constructor
  · intro htruthful
    -- a page that needs OCR is always on the list of the OCR pages
    have hdivided := htruthful.toDivided
    rw [hcoverage, hwarnings] at hdivided
    refine ⟨(divided_iff hkeys hearlier).mp hdivided, ?_⟩
    intro p hp hfailed
    have hocr_page := (htruthful.failed p hp hfailed).2
    rw [hcoverage] at hocr_page
    exact hocr_page ((mem_ocr hkeys).mpr hp)
  · rintro ⟨hconsistent, hworks⟩
    have hdivided : Divided recovered.coverage recovered.warnings := by
      rw [hcoverage, hwarnings]
      exact (divided_iff hkeys hearlier).mpr hconsistent
    exact ⟨hdivided, fun p hp hfailed => absurd hfailed (hworks p hp)⟩

/-- The extractor of the service is consistent, whatever its libraries return. -/
theorem pdf_consistent {libs : Libraries} (htext : service.text = PdfTextExtractor libs) :
    Consistent (service.stage inp content) := by
  have hempty : Consistent ⟨∅, [], []⟩ := by
    refine ⟨?_, ?_⟩
    · intro p hp
      cases hp
    · rintro p (hp | hp) <;> cases hp
  unfold ExtractionService.stage
  by_cases hkind : inp.content_kind = .email_body
  · rw [if_pos hkind]
    exact hempty
  · rw [if_neg hkind]
    cases hstage : service.text content inp.content_kind with
    | error e => exact hempty
    | ok stage =>
      rw [htext] at hstage
      obtain ⟨pages, rfl⟩ := extract_eq_classify hkind hstage
      have hpages : (classify_pages pages).page_texts.keys = List.range' 1 pages.length :=
        numbered_keys pages
      refine ⟨fun p htext_page hneeded => not_text_page_of_ocr_needed hneeded htext_page, ?_⟩
      intro p hp
      show 1 ≤ p ∧ p ≤ (classify_pages pages).page_texts.keys.length
      have hkey : p ∈ (classify_pages pages).page_texts.keys := by
        rcases hp with htext_page | hneeded
        · obtain ⟨page, hpage, rfl⟩ := List.mem_map.mp htext_page
          exact List.mem_map_of_mem (List.mem_of_mem_filter hpage)
        · exact mem_keys_of_ocr_needed hneeded
      rw [hpages, List.mem_range'_1] at hkey
      rw [hpages, List.length_range']
      omega

/-- With this extractor the pages are always divided, and every page that needs OCR counts as read, whatever
    Tesseract does. -/
theorem pdf_pages_divided {libs : Libraries} (htext : service.text = PdfTextExtractor libs)
    (hocr : service.ocr = tesseract.engine) (h : service.recover inp content = .ok recovered) :
    Divided recovered.coverage recovered.warnings ∧
    ∀ p ∈ (service.stage inp content).ocr_needed, p ∈ recovered.coverage.ocr_pages := by
  obtain ⟨earlier, hcoverage, hwarnings, hearlier⟩ := recovered_coverage h
  have hkeys : ∀ p, p ∈ (service.ocr_results content (service.stage inp content)).keys ↔
      p ∈ (service.stage inp content).ocr_needed := fun p => ocr_results_keys hocr
  rw [hcoverage, hwarnings]
  refine ⟨(divided_iff hkeys hearlier).mpr (pdf_consistent htext), ?_⟩
  intro p hp
  exact (mem_ocr hkeys).mpr hp

end coverage

/-! ## A page that nobody has read -/

section unread

/-- The service of the sample with Tesseract, which may be missing. -/
def sample_tesseract (available : Bool) : TesseractOcrEngine where
  available := available
  opens _ := true
  recognise _ _ := some ("Id 123456", ⟨"0.9", nine_tenths_repr_ok⟩)

def tesseract_service (available : Bool) : ExtractionService :=
  (sample_service none).with_ocr (sample_tesseract available).engine

/-- **A page that was not read counts as read.** The second page is scanned and there is no OCR;
    the page is none of the skipped ones. -/
theorem unread_page_counted : ∃ recovered,
    (tesseract_service false).recover sample_input [1] = .ok recovered ∧
    recovered.coverage = ⟨2, [1], [2], []⟩ ∧
    recovered.warnings = ["OCR returned empty text for page 2."] ∧
    ¬ Truthful (sample_tesseract false) [1] ((tesseract_service false).stage sample_input [1]).ocr_needed
      recovered := by
  have hok : (tesseract_service false).recover sample_input [1] =
      .ok ⟨⟨2, [1], [2], []⟩, ["OCR returned empty text for page 2."], "Letter of engagement\n"⟩ := by
    decide +kernel
  have hneeded : ((tesseract_service false).stage sample_input [1]).ocr_needed = [2] := by decide +kernel
  refine ⟨_, hok, rfl, rfl, ?_⟩
  intro htruthful
  rw [hneeded] at htruthful
  have hskipped := htruthful.failed 2 List.mem_cons_self (.inl rfl)
  cases hskipped.1

/-- With Tesseract at work, the page has been read. -/
theorem read_page_counted : ∃ recovered,
    (tesseract_service true).recover sample_input [1] = .ok recovered ∧
    Truthful (sample_tesseract true) [1] ((tesseract_service true).stage sample_input [1]).ocr_needed
      recovered := by
  have hok : (tesseract_service true).recover sample_input [1] =
      .ok ⟨⟨2, [1], [2], []⟩, [], "Letter of engagement\n"⟩ := by decide +kernel
  refine ⟨_, hok, ?_⟩
  refine (coverage_truthful_iff rfl hok).mpr ⟨pdf_consistent rfl, ?_⟩
  rintro p - (hmissing | hclosed | hraised)
  · cases hmissing
  · cases hclosed
  · cases hraised

end unread

end CaseAutomation.Extraction
