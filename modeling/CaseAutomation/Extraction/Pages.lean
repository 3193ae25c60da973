import CaseAutomation.Framework.Dict
import CaseAutomation.Base.Errors
import CaseAutomation.Base.Text
import Mathlib.Data.List.Sort

/-! # Pages of a Document

    `extraction/text.py`, the port of `ocr.py`, and `coverage.py`: the native text of every page,
    the pages that need OCR, and which page was read in which way.
-/

namespace CaseAutomation.Extraction

open Framework

inductive ContentKind where
  | pdf
  | image
  | email_body
  deriving DecidableEq, Repr

/-! ## Native text -/

/-- What `TextExtractor.extract` returns. -/
structure TextStage where
  /-- The text of each page, counted from 1. -/
  page_texts : Dict Nat String
  text_pages : List Nat
  ocr_needed : List Nat

/-- `TextExtractor`. -/
abbrev TextExtractor : Type := List UInt8 → ContentKind → Except Exn TextStage

/-- The two PDF libraries: the text of each page, where a page has any. -/
structure Libraries where
  /-- None where `pdfplumber` raises. -/
  pdfplumber : List UInt8 → Option (List (Option String))
  /-- The text of its exception where PyMuPDF raises. -/
  pymupdf : List UInt8 → Except String (List (Option String))

/-- `_MIN_TEXT_CHARS`. -/
def min_text_chars : Nat := 10

/-- A page has usable text. -/
def usable (text : String) : Bool := decide (min_text_chars ≤ (strip text).length)

/-- The pages with their numbers. -/
def numbered (pages : List (Option String)) : List (Nat × String) :=
  (pages.zipIdx 1).map fun page => (page.2, page.1.getD "")

theorem numbered_keys (pages : List (Option String)) :
    (numbered pages).map Prod.fst = List.range' 1 pages.length := by
  unfold numbered
  rw [List.map_map]
  exact List.zipIdx_map_snd 1 pages

/-- The loop of `_pdfplumber` and of `_pymupdf`. -/
def classify_pages (pages : List (Option String)) : TextStage where
  page_texts := ⟨numbered pages, by
    rw [numbered_keys]
    exact List.nodup_range'⟩
  text_pages := ((numbered pages).filter fun page => usable page.2).map Prod.fst
  ocr_needed := ((numbered pages).filter fun page => !usable page.2).map Prod.fst

def unsupported_input (message : String) : Exn := .other "UnsupportedInputError" message

/-- `PdfTextExtractor._extract_pdf`. -/
def extract_pdf (libs : Libraries) (content : List UInt8) : Except Exn TextStage :=
  match libs.pdfplumber content with
  | some pages => .ok (classify_pages pages)
  | none =>
    match libs.pymupdf content with
    | .ok pages => .ok (classify_pages pages)
    | .error exc => .error (unsupported_input ("Could not parse PDF: " ++ exc))

/-- `PdfTextExtractor.extract`. -/
def PdfTextExtractor (libs : Libraries) : TextExtractor := fun content kind =>
  match kind with
  | .email_body => .ok ⟨∅, [], []⟩
  | _ => extract_pdf libs content

/-! ## OCR -/

/-- The text that was recognised, and the confidence. -/
abbrev OcrResult : Type := String × PyFloat

/-- `OcrEngine`: runs on the pages that it is given. -/
structure OcrEngine where
  ocr : List UInt8 → List Nat → Dict Nat OcrResult
  specified : ∀ content pages, ∀ p ∈ (ocr content pages).keys, p ∈ pages

/-! ## Coverage -/

structure PageCoverage where
  total_pages : Nat
  text_pages : List Nat
  ocr_pages : List Nat
  skipped_pages : List Nat
  deriving DecidableEq, Repr

/-- `sorted(set(pages))`. -/
def sorted_set (pages : List Nat) : List Nat := pages.dedup.insertionSort (· ≤ ·)

/-- `build_coverage`. -/
def build_coverage (total_pages : Nat) (text_pages : List Nat) (ocr_results : Dict Nat OcrResult)
    (attempted_ocr_pages : List Nat) : PageCoverage × List String :=
  let skipped_from_ocr := attempted_ocr_pages.filter fun p => decide (p ∉ ocr_results.keys)
  let remaining := (List.range' 1 total_pages).filter fun p =>
    decide (p ∉ text_pages ∧ p ∉ ocr_results.keys ∧ p ∉ skipped_from_ocr)
  let skipped_pages := sorted_set (skipped_from_ocr ++ remaining)
  (⟨total_pages, sorted_set text_pages, sorted_set ocr_results.keys, skipped_pages⟩,
    skipped_pages.map fun p => "Page " ++ toString p ++ " could not be processed and was skipped.")

/-- `build_email_coverage`. -/
def build_email_coverage : PageCoverage := ⟨0, [], [], []⟩

/-! ## What the extractor produces -/

section pages
variable {libs : Libraries} {content : List UInt8} {kind : ContentKind} {stage : TextStage}
  {pages : List (Option String)} {p : Nat}

/-- Every page is one of the two libraries' pages. -/
theorem extract_eq_classify (hkind : kind ≠ .email_body)
    (h : PdfTextExtractor libs content kind = .ok stage) : ∃ pages, stage = classify_pages pages := by
  unfold PdfTextExtractor at h
  split at h
  · next hemail => exact absurd rfl hkind
  · unfold extract_pdf at h
    split at h
    · next pages _ => exact ⟨pages, (Except.ok.inj h).symm⟩
    · split at h
      · next pages _ => exact ⟨pages, (Except.ok.inj h).symm⟩
      · cases h

/-- A page that needs OCR has a native text all the same. -/
theorem mem_keys_of_ocr_needed (h : p ∈ (classify_pages pages).ocr_needed) :
    p ∈ (classify_pages pages).page_texts.keys := by
  obtain ⟨page, hpage, rfl⟩ := List.mem_map.mp h
  exact List.mem_map_of_mem (List.mem_of_mem_filter hpage)

/-- The text of a text page is usable. -/
theorem usable_of_text_page {text : String} (h : p ∈ (classify_pages pages).text_pages)
    (htext : (classify_pages pages).page_texts.get? p = some text) : usable text = true := by
  obtain ⟨⟨q, t⟩, hpage, rfl⟩ := List.mem_map.mp h
  obtain ⟨hmem, husable⟩ := List.mem_filter.mp hpage
  have hget : (classify_pages pages).page_texts.get? q = some t := Dict.get?_of_mem_entries hmem
  rw [htext] at hget
  rw [Option.some.inj hget]
  exact husable

/-- A page that needs OCR is no text page. -/
theorem not_text_page_of_ocr_needed (h : p ∈ (classify_pages pages).ocr_needed) :
    p ∉ (classify_pages pages).text_pages := by
  intro htext
  obtain ⟨⟨q, t⟩, hpage, rfl⟩ := List.mem_map.mp h
  obtain ⟨hmem, hunusable⟩ := List.mem_filter.mp hpage
  have husable := usable_of_text_page htext (Dict.get?_of_mem_entries hmem)
  simp [husable] at hunusable

end pages

end CaseAutomation.Extraction
