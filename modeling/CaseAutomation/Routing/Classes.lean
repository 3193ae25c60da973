import CaseAutomation.Packs.Immigration
import CaseAutomation.Routing.Histories

/-! # Configured Document Classes

    A pack brings its own document classes; `_apply_routing` of `packs/apply.py` puts them, with a
    folder for each, into the configuration. The classifier tests against the default
    classes all the same.

    The classifier of the service is `classify_among` at `DOCUMENT_CLASSES`, and it follows the
    configuration if and only if the configured classes are the default ones (`follows_config_iff`).
-/

namespace CaseAutomation.Routing

open Framework Domain Packs

/-! ## What the configuration asks for -/

/-- The configured classes; `unknown` is always one of them. -/
def known_classes (cfg : RoutingConfig) : List String := "unknown" :: cfg.classes

/-- Neither the document nor, among these classes, a keyword rule decides. -/
structure LeftToFields (platform : Platform) (classes : List String) (cfg : RoutingConfig)
    (document : Document) : Prop where
  own : ∀ c, document.classification = some c → c ∉ classes
  rules : matching_rule platform classes cfg.classification_rules document.name = none

/-- The classifier follows the configured classes. -/
structure FollowsConfig (platform : Platform) (cfg : RoutingConfig)
    (extraction_fields : Option (List ExtractionField)) : Prop where
  /-- It answers with one of them. -/
  answers : ∀ document, ∃ class_name confidence source,
    classify platform cfg document extraction_fields = .ok (class_name, confidence, source) ∧
      class_name ∈ known_classes cfg
  /-- The class that the document has is taken as it is. -/
  own_class : ∀ document, ∀ c ∈ cfg.classes, document.classification = some c →
    classify platform cfg document extraction_fields = .ok (c, 1, .rule)
  /-- Otherwise the first rule that matches selects its class. -/
  by_rule : ∀ document rule, (∀ c, document.classification = some c → c ∉ known_classes cfg) →
    matching_rule platform (known_classes cfg) cfg.classification_rules document.name =
      some rule →
    classify platform cfg document extraction_fields = .ok (rule.class_name, rule_confidence, .rule)
  /-- Otherwise the field of highest confidence does, at or above the threshold. -/
  by_field : ∀ document, LeftToFields platform (known_classes cfg) cfg document →
    ∀ c confidence, best_field (known_classes cfg) (extraction_fields.getD []) (none, 0) =
      .ok (some c, confidence) → cfg.classification_threshold ≤ confidence →
    classify platform cfg document extraction_fields = .ok (c, confidence, .extraction)

/-- The field has a number as its confidence, and its value can be looked up. -/
def Readable (field : ExtractionField) : Prop :=
  field.confidence.isOk = true ∧ (class_in DOCUMENT_CLASSES field.value).isOk = true

/-- The configured classes are the default ones, and the fields can be read where they are. -/
structure DefaultClasses (platform : Platform) (cfg : RoutingConfig)
    (extraction_fields : Option (List ExtractionField)) : Prop where
  same : ∀ c, c ∈ known_classes cfg ↔ c ∈ DOCUMENT_CLASSES
  readable : (∃ name, matching_rule platform DOCUMENT_CLASSES cfg.classification_rules name = none) →
    ∀ field ∈ extraction_fields.getD [], Readable field

section classes
variable {platform : Platform} {cfg : RoutingConfig} {document : Document}
  {extraction_fields : Option (List ExtractionField)} {fields : List ExtractionField}
  {classes classes' : List String}

/-! ## The same classes, the same answers -/

theorem class_in_congr (h : ∀ c, c ∈ classes ↔ c ∈ classes') : class_in classes = class_in classes' := by
  funext value
  cases value with
  | str s => simp [class_in, h]
  | _ => rfl

theorem best_field_congr (h : ∀ c, c ∈ classes ↔ c ∈ classes') (fields : List ExtractionField)
    (best : Option String × FloatValue) :
    best_field classes fields best = best_field classes' fields best := by
  induction fields generalizing best with
  | nil => rfl
  | cons field rest ih =>
    unfold best_field
    simp only [ih, class_in_congr h]

theorem matching_rule_congr (h : ∀ c, c ∈ classes ↔ c ∈ classes')
    (rules : List ClassificationRule) (name : String) :
    matching_rule platform classes rules name =
      matching_rule platform classes' rules name := by
  unfold matching_rule
  simp only [h]

/-! ## What the classifier answers with -/

/-- The class of the best field is one of the classes. -/
theorem best_class_mem {best : Option String × FloatValue} {c : String} {confidence : FloatValue}
    (h : best_field classes fields best = .ok (some c, confidence)) :
    c ∈ classes ∨ best.1 = some c := by
  induction fields generalizing best with
  | nil =>
    obtain rfl := Except.ok.inj h
    exact .inr rfl
  | cons field rest ih =>
    obtain ⟨best_class, best_confidence⟩ := best
    obtain ⟨conf, -, h⟩ := ok_of_bind h
    obtain ⟨found, hfound, h⟩ := ok_of_bind h
    cases found with
    | none => exact ih h
    | some field_class =>
      have hmem : field_class ∈ classes := by
        cases hvalue : field.value with
        | str s =>
          rw [hvalue] at hfound
          have hs := Except.ok.inj hfound
          split at hs
          · next hin =>
            rw [← Option.some.inj hs]
            exact hin
          · cases hs
        | _ =>
          rw [hvalue] at hfound
          cases hfound
      simp only at h
      split at h
      · obtain hin | heq := ih h
        · exact .inl hin
        · rw [← Option.some.inj heq]
          exact .inl hmem
      · exact ih h

/-- The fields that are read have been readable. -/
theorem readable_of_best_field {best best' : Option String × FloatValue}
    (h : best_field DOCUMENT_CLASSES fields best = .ok best') : ∀ field ∈ fields, Readable field := by
  induction fields generalizing best with
  | nil =>
    intro field hfield
    cases hfield
  | cons first rest ih =>
    obtain ⟨best_class, best_confidence⟩ := best
    obtain ⟨conf, hconf, h⟩ := ok_of_bind h
    obtain ⟨found, hfound, h⟩ := ok_of_bind h
    have hrest : ∃ best, best_field DOCUMENT_CLASSES rest best = .ok best' := by
      cases found with
      | none => exact ⟨_, h⟩
      | some field_class =>
        simp only at h
        split at h
        · exact ⟨_, h⟩
        · exact ⟨_, h⟩
    obtain ⟨best, hbest⟩ := hrest
    intro field hfield
    obtain rfl | hfield := List.mem_cons.mp hfield
    · refine ⟨?_, ?_⟩
      · rw [hconf]
        rfl
      · rw [hfound]
        rfl
    · exact ih hbest field hfield

/-- Readable fields are read to the end. -/
theorem best_field_of_readable (h : ∀ field ∈ fields, Readable field) (best : Option String × FloatValue) :
    ∃ best', best_field DOCUMENT_CLASSES fields best = .ok best' := by
  induction fields generalizing best with
  | nil => exact ⟨best, rfl⟩
  | cons first rest ih =>
    obtain ⟨best_class, best_confidence⟩ := best
    obtain ⟨hconf, hvalue⟩ := h first List.mem_cons_self
    have hrest := ih fun field hfield => h field (List.mem_cons_of_mem _ hfield)
    unfold best_field
    cases hc : first.confidence with
    | error e => simp [hc, Except.isOk, Except.toBool] at hconf
    | ok conf =>
      cases hv : class_in DOCUMENT_CLASSES first.value with
      | error e => simp [hv, Except.isOk, Except.toBool] at hvalue
      | ok found =>
        cases found with
        | none => exact hrest _
        | some field_class =>
          show ∃ best', (if best_confidence < conf then _ else _) = Except.ok best'
          split
          · exact hrest _
          · exact hrest _

/-- The service answers with default classes only. -/
theorem classify_mem {class_name : String} {confidence : FloatValue} {source : ClassificationSource}
    (h : classify platform cfg document extraction_fields = .ok (class_name, confidence, source)) :
    class_name ∈ DOCUMENT_CLASSES := by
  unfold classify classify_among at h
  split at h
  · next c hc =>
    cases h
    exact of_decide_eq_true (Option.filter_eq_some_iff.mp hc).2
  · split at h
    · next rule hrule =>
      cases h
      have hmatch := List.find?_some hrule
      simp only [Bool.and_eq_true, decide_eq_true_eq] at hmatch
      exact hmatch.1
    · obtain ⟨⟨best_class, best_confidence⟩, hbest, h⟩ := ok_of_bind h
      have hfallback : "unknown" ∈ DOCUMENT_CLASSES := by decide
      cases best_class with
      | none =>
        cases h
        exact hfallback
      | some c =>
        simp only at h
        split at h
        · cases h
          obtain hin | hnone := best_class_mem hbest
          · exact hin
          · cases hnone
        · cases h
          exact hfallback

/-! ## One stage after the other -/

/-- The class of the document comes first. -/
theorem classify_own {c : String} (hclass : document.classification = some c) (hc : c ∈ DOCUMENT_CLASSES) :
    classify platform cfg document extraction_fields = .ok (c, 1, .rule) := by
  unfold classify classify_among
  rw [hclass, Option.filter_some, decide_eq_true hc]
  rfl

/-- A document whose own class is not among the classes. -/
theorem filter_own (h : ∀ c, document.classification = some c → c ∉ classes) :
    (document.classification.filter fun c => decide (c ∈ classes)) = none := by
  rw [Option.filter_eq_none_iff]
  intro c hc
  simpa using h c hc

theorem classify_among_rule {rule : ClassificationRule}
    (hown : ∀ c, document.classification = some c → c ∉ classes)
    (hrule : matching_rule platform classes cfg.classification_rules document.name = some rule) :
    classify_among platform classes cfg document extraction_fields =
      .ok (rule.class_name, rule_confidence, .rule) := by
  unfold classify_among
  rw [filter_own hown, hrule]

theorem classify_among_fields (h : LeftToFields platform classes cfg document) :
    classify_among platform classes cfg document extraction_fields = (do
      match ← best_field classes (extraction_fields.getD []) (none, 0) with
      | (some best_class, best_confidence) =>
        if cfg.classification_threshold ≤ best_confidence then
          .ok (best_class, best_confidence, .extraction)
        else .ok ("unknown", 0, .fallback)
      | (none, _) => .ok ("unknown", 0, .fallback)) := by
  unfold classify_among
  rewrite [filter_own h.own, h.rules]
  rfl

theorem classify_among_congr (h : ∀ c, c ∈ classes ↔ c ∈ classes') :
    classify_among platform classes cfg document extraction_fields =
      classify_among platform classes' cfg document extraction_fields := by
  unfold classify_among
  simp only [h, matching_rule_congr h, best_field_congr h]

/-- Where the fields are asked, all of them have been read. -/
theorem readable_of_classify {answer : String × FloatValue × ClassificationSource}
    (h : LeftToFields platform DOCUMENT_CLASSES cfg document)
    (hanswer : classify platform cfg document extraction_fields = .ok answer) :
    ∀ field ∈ extraction_fields.getD [], Readable field := by
  rw [classify, classify_among_fields h] at hanswer
  obtain ⟨best, hbest, -⟩ := ok_of_bind hanswer
  exact readable_of_best_field hbest

/-- The classifier answers, if the fields can be read where they are asked. -/
theorem classify_total (h : LeftToFields platform DOCUMENT_CLASSES cfg document →
      ∀ field ∈ extraction_fields.getD [], Readable field) :
    ∃ class_name confidence source,
      classify platform cfg document extraction_fields = .ok (class_name, confidence, source) := by
  cases hown : document.classification.filter fun c => decide (c ∈ DOCUMENT_CLASSES) with
  | some c =>
    obtain ⟨hclass, hc⟩ := Option.filter_eq_some_iff.mp hown
    exact ⟨_, _, _, classify_own hclass (of_decide_eq_true hc)⟩
  | none =>
    have hnot : ∀ c, document.classification = some c → c ∉ DOCUMENT_CLASSES := by
      intro c hc
      simpa using Option.filter_eq_none_iff.mp hown c hc
    unfold classify
    cases hrule : matching_rule platform DOCUMENT_CLASSES cfg.classification_rules document.name with
    | some rule => exact ⟨_, _, _, classify_among_rule hnot hrule⟩
    | none =>
      obtain ⟨⟨best_class, best_confidence⟩, hbest⟩ :=
        best_field_of_readable (h ⟨hnot, hrule⟩) (none, 0)
      rw [classify_among_fields ⟨hnot, hrule⟩, hbest]
      cases best_class with
      | none => exact ⟨_, _, _, rfl⟩
      | some c =>
        show ∃ class_name confidence source, (if cfg.classification_threshold ≤ best_confidence then _
          else _) = Except.ok (class_name, confidence, source)
        split
        · exact ⟨_, _, _, rfl⟩
        · exact ⟨_, _, _, rfl⟩

/-! ## Which configurations are followed -/

/-- A document with this name, and perhaps a class of its own. -/
def named_document (name : String) (classification : Option String) : Document :=
  { memo false with name := name, classification := classification }

/-- **Which configurations are followed.** The classifier answers with the configured classes, takes over
    the class of a document that is one of them, and lets rules and fields select each of
    them, if and only if they are the default classes and the fields can be read. -/
theorem follows_config_iff (platform : Platform) (cfg : RoutingConfig)
    (extraction_fields : Option (List ExtractionField)) :
    FollowsConfig platform cfg extraction_fields ↔ DefaultClasses platform cfg extraction_fields := by
  constructor
  · intro h
    refine ⟨?_, ?_⟩
    · intro c
      constructor
      · intro hc
        obtain rfl | hc := List.mem_cons.mp hc
        · decide
        · exact classify_mem (h.own_class (named_document "" (some c)) c hc rfl)
      · intro hc
        obtain ⟨class_name, confidence, source, hanswer, hknown⟩ :=
          h.answers (named_document "" (some c))
        rw [classify_own rfl hc] at hanswer
        cases hanswer
        exact hknown
    · rintro ⟨name, hname⟩
      obtain ⟨class_name, confidence, source, hanswer, -⟩ := h.answers (named_document name none)
      have hleft : LeftToFields platform DOCUMENT_CLASSES cfg (named_document name none) :=
        ⟨fun c hc => (by cases hc), hname⟩
      exact readable_of_classify hleft hanswer
  · intro h
    have hknown : ∀ document, classify platform cfg document extraction_fields =
        classify_among platform (known_classes cfg) cfg document extraction_fields := by
      intro document
      exact classify_among_congr fun c => (h.same c).symm
    refine ⟨?_, ?_, ?_, ?_⟩
    · intro document
      have hreadable : LeftToFields platform DOCUMENT_CLASSES cfg document →
          ∀ field ∈ extraction_fields.getD [], Readable field :=
        fun hleft => h.readable ⟨document.name, hleft.rules⟩
      obtain ⟨class_name, confidence, source, hanswer⟩ := classify_total hreadable
      exact ⟨class_name, confidence, source, hanswer, (h.same class_name).mpr (classify_mem hanswer)⟩
    · intro document c hc hclass
      exact classify_own hclass ((h.same c).mp (List.mem_cons_of_mem _ hc))
    · intro document rule hown hrule
      rw [hknown]
      exact classify_among_rule hown hrule
    · intro document hleft c confidence hbest hsure
      rw [hknown, classify_among_fields hleft, hbest]
      exact if_pos hsure

end classes

/-! ## The classes of a pack -/

section packs

/-- The float `0.80`. -/
def default_threshold : ℚ := 3602879701896397 / 4503599627370496

/-- `_apply_routing`; `render_name` is the default naming template. -/
def apply_routing (render_name : String → String → String → Int → Except Exn String)
    (document_classes : List String) : RoutingConfig where
  classes := document_classes
  classification_rules := []
  folder_map := document_classes.foldl (fun entries c => entries.set c ("docs/" ++ c)) ∅
  render_name := render_name
  class_policies := document_classes.foldl (fun policies c => policies.set c []) ∅
  classification_threshold := default_threshold
  routing_intent_version := "v1"
  total := by
    intro c hc
    have hkey := (Dict.mem_keys_foldl_set (fun c : String => c) (fun c => "docs/" ++ c) document_classes
      ∅ c).mpr (.inl (List.mem_map_of_mem hc))
    exact Option.isSome_iff_exists.mpr (Dict.mem_keys_iff.mp hkey)

/-- A pack has no keyword rules, so its classes must be the default ones and the fields readable. -/
theorem pack_followed_iff (platform : Platform)
    (render_name : String → String → String → Int → Except Exn String) (pack : DomainPack)
    (fields : List ExtractionField) :
    FollowsConfig platform (apply_routing render_name pack.document_classes) (some fields) ↔
      (∀ c, c ∈ "unknown" :: pack.document_classes ↔ c ∈ DOCUMENT_CLASSES) ∧
        ∀ field ∈ fields, Readable field := by
  rw [follows_config_iff]
  constructor
  · intro h
    exact ⟨h.same, h.readable ⟨"", rfl⟩⟩
  · rintro ⟨hsame, hreadable⟩
    exact ⟨hsame, fun _ => hreadable⟩

/-- `document_classes` of the consulting pack. -/
def CONSULTING_CLASSES : List String :=
  ["engagement_letter", "report", "correspondence", "working_papers", "internal_memo", "unknown"]

/-- The configuration of the consulting pack. -/
def consulting_config : RoutingConfig :=
  apply_routing (fun reference class_name date _ => .ok (reference ++ "_" ++ class_name ++ "_" ++ date))
    CONSULTING_CLASSES

/-- **A report is of no known class.** The consulting pack has reports and no court filings; the
    classifier does not know the former, and answers with the latter. -/
theorem report_is_unknown :
    classify ⟨id, fun _ => none⟩ consulting_config (named_document "q3.pdf" (some "report")) none =
      .ok ("unknown", 0, .fallback) ∧
    classify ⟨id, fun _ => none⟩ consulting_config (named_document "q3.pdf" (some "court_filing")) none =
      .ok ("court_filing", 1, .rule) ∧
    "report" ∈ consulting_config.classes ∧ "court_filing" ∉ consulting_config.classes ∧
    ¬ FollowsConfig ⟨id, fun _ => none⟩ consulting_config none := by
  have hreport : classify ⟨id, fun _ => none⟩ consulting_config
      (named_document "q3.pdf" (some "report")) none = .ok ("unknown", 0, .fallback) := rfl
  have hconfigured : "report" ∈ consulting_config.classes := by decide
  refine ⟨hreport, rfl, hconfigured, by decide, ?_⟩
  intro hfollows
  have hown := hfollows.own_class (named_document "q3.pdf" (some "report")) "report" hconfigured rfl
  rw [hreport] at hown
  exact absurd (Prod.mk.inj (Except.ok.inj hown)).1 (by decide)

/-- The classes of the immigration pack are the default ones. -/
example : ∀ c ∈ DOCUMENT_CLASSES, c ∈ IMMIGRATION_PACK.document_classes := by decide

end packs

end CaseAutomation.Routing
