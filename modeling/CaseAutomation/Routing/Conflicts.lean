import CaseAutomation.Routing.Classes
import Mathlib.Data.List.MinMax

/-! # Conflicting Extraction Fields

    Where neither the document nor a keyword rule decides, the classifier takes the first field of highest
    positive confidence. The order of the fields breaks ties, and a second class, however
    sure, is not noticed.

    `order_free_iff`: the order does not matter and conflicts are refused exactly where no two
    fields name different classes at or above the threshold, or the winner is `unknown` anyway.
-/

namespace CaseAutomation.Routing

open Framework Domain

/-! ## What the fields say -/

/-- The field names a known class, with this confidence. -/
structure Names (field : ExtractionField) (c : String) (confidence : FloatValue) : Prop where
  known : c ∈ DOCUMENT_CLASSES
  value : field.value = .str c
  confidence : field.confidence = .ok confidence

/-- Two fields name different classes, both at or above the threshold. -/
def Conflict (cfg : RoutingConfig) (fields : List ExtractionField) : Prop :=
  ∃ field ∈ fields, ∃ other ∈ fields, ∃ c c' confidence confidence',
    Names field c confidence ∧ Names other c' confidence' ∧ c ≠ c' ∧
      cfg.classification_threshold ≤ confidence ∧ cfg.classification_threshold ≤ confidence'

/-- A field names the class with the highest confidence of all, and that one is positive. -/
def Top (fields : List ExtractionField) (c : String) (confidence : FloatValue) : Prop :=
  (∃ field ∈ fields, Names field c confidence) ∧ 0 < confidence ∧
    ∀ field ∈ fields, ∀ c' confidence', Names field c' confidence' → ¬ confidence < confidence'

/-- The document or a keyword rule decides. -/
def Decided (platform : Platform) (cfg : RoutingConfig) (document : Document) : Prop :=
  ¬ LeftToFields platform DOCUMENT_CLASSES cfg document

/-- The order of the fields does not matter, and conflicts are refused. -/
structure OrderFree (platform : Platform) (cfg : RoutingConfig) (document : Document)
    (fields : List ExtractionField) : Prop where
  permuted : ∀ fields', fields'.Perm fields →
    (classify platform cfg document (some fields')).toOption =
      (classify platform cfg document (some fields)).toOption
  refused : ¬ Decided platform cfg document → Conflict cfg fields →
    ∃ confidence source, classify platform cfg document (some fields) =
      .ok ("unknown", confidence, source)

/-! ## The running maximum -/

/-- What a field says of a known class, with a positive confidence. -/
def vote (field : ExtractionField) : Option (String × Extended) :=
  match field.value, field.confidence with
  | .str c, .ok (.ordered x) =>
    if c ∈ DOCUMENT_CLASSES ∧ (0 : FloatValue) < .ordered x then some (c, x) else none
  | _, _ => none

/-- The first vote of highest confidence. -/
def winner (fields : List ExtractionField) : Option (String × Extended) :=
  (fields.filterMap vote).argmax Prod.snd

/-- The state of the loop for a vote. -/
def as_best : Option (String × Extended) → Option String × FloatValue
  | some (c, x) => (some c, .ordered x)
  | none => (none, 0)

section fields
variable {platform : Platform} {cfg : RoutingConfig} {document : Document}
  {fields fields' : List ExtractionField} {field : ExtractionField} {c : String}
  {confidence : FloatValue} {x : Extended}

theorem vote_iff : vote field = some (c, x) ↔ Names field c (.ordered x) ∧
    (0 : FloatValue) < .ordered x := by
  unfold vote
  split
  · next s y hvalue hconfidence =>
    constructor
    · intro h
      split at h
      · next hin =>
        cases h
        exact ⟨⟨hin.1, hvalue, hconfidence⟩, hin.2⟩
      · cases h
    · rintro ⟨⟨hknown, hvalue', hconfidence'⟩, hpos⟩
      rw [hvalue] at hvalue'
      rw [hconfidence] at hconfidence'
      cases hvalue'
      cases hconfidence'
      exact if_pos ⟨hknown, hpos⟩
  · next hnot =>
    constructor
    · intro h
      cases h
    · rintro ⟨⟨-, hvalue, hconfidence⟩, -⟩
      exact absurd hconfidence (hnot c x hvalue)

/-- A positive confidence for a known class is a vote. -/
theorem vote_of_names (h : Names field c confidence) (hpos : 0 < confidence) :
    ∃ x, confidence = .ordered x ∧ vote field = some (c, x) := by
  cases confidence with
  | nan => exact absurd hpos FloatValue.not_lt_nan
  | ordered x => exact ⟨x, rfl, vote_iff.mpr ⟨h, hpos⟩⟩

/-- One round of the loop. -/
theorem best_field_cons (field : ExtractionField) (rest : List ExtractionField)
    (best_class : Option String) (best_confidence : FloatValue) :
    best_field DOCUMENT_CLASSES (field :: rest) (best_class, best_confidence) = (do
      let conf ← field.confidence
      match ← class_in DOCUMENT_CLASSES field.value with
      | some field_class =>
        if best_confidence < conf then best_field DOCUMENT_CLASSES rest (some field_class, conf)
        else best_field DOCUMENT_CLASSES rest (best_class, best_confidence)
      | none => best_field DOCUMENT_CLASSES rest (best_class, best_confidence)) := rfl

/-- A field that is read, and has no vote, changes nothing. -/
theorem best_field_no_vote {rest : List ExtractionField} (hreadable : Readable field)
    (hvote : vote field = none) {best : Option String × FloatValue} (hbest : 0 ≤ best.2) :
    best_field DOCUMENT_CLASSES (field :: rest) best = best_field DOCUMENT_CLASSES rest best := by
  obtain ⟨best_class, best_confidence⟩ := best
  obtain ⟨hconf, hvalue⟩ := hreadable
  rw [best_field_cons]
  cases hc : field.confidence with
  | error e => simp [hc, Except.isOk, Except.toBool] at hconf
  | ok conf =>
    cases hv : field.value with
    | str s =>
      show (match if s ∈ DOCUMENT_CLASSES then some s else none with
        | some field_class => if best_confidence < conf then
            best_field DOCUMENT_CLASSES rest (some field_class, conf)
          else best_field DOCUMENT_CLASSES rest (best_class, best_confidence)
        | none => best_field DOCUMENT_CLASSES rest (best_class, best_confidence)) = _
      split
      · next c hin =>
        split at hin
        · next hknown =>
          cases hin
          -- the confidence is not positive, so it does not beat the best one
          have hlow : ¬ best_confidence < conf := by
            intro hhigher
            obtain ⟨x, -, hsome⟩ := vote_of_names ⟨hknown, hv, hc⟩
              (FloatValue.lt_of_le_of_lt hbest hhigher)
            rw [hsome] at hvote
            cases hvote
          rw [if_neg hlow]
        · cases hin
      · rfl
    | arr xs => simp [hv, class_in, Except.isOk, Except.toBool] at hvalue
    | obj fs => simp [hv, class_in, Except.isOk, Except.toBool] at hvalue
    | _ => rfl

theorem best_field_vote {rest : List ExtractionField} (hvote : vote field = some (c, x))
    (best : Option String × FloatValue) :
    best_field DOCUMENT_CLASSES (field :: rest) best =
      best_field DOCUMENT_CLASSES rest
        (if best.2 < .ordered x then (some c, .ordered x) else best) := by
  obtain ⟨best_class, best_confidence⟩ := best
  obtain ⟨⟨hknown, hvalue, hconfidence⟩, -⟩ := vote_iff.mp hvote
  rw [best_field_cons, hconfidence, hvalue]
  show (match if c ∈ DOCUMENT_CLASSES then some c else none with
    | some field_class => if best_confidence < FloatValue.ordered x then
        best_field DOCUMENT_CLASSES rest (some field_class, .ordered x)
      else best_field DOCUMENT_CLASSES rest (best_class, best_confidence)
    | none => best_field DOCUMENT_CLASSES rest (best_class, best_confidence)) = _
  rw [if_pos hknown]
  show (if best_confidence < .ordered x then best_field DOCUMENT_CLASSES rest (some c, .ordered x)
    else best_field DOCUMENT_CLASSES rest (best_class, best_confidence)) = _
  split
  · rfl
  · rfl

/-- The loop is a running maximum over the votes. -/
theorem best_field_foldl (h : ∀ field ∈ fields, Readable field) (best : Option (String × Extended))
    (hbest : ∀ y, best = some y → (0 : FloatValue) < .ordered y.2) :
    best_field DOCUMENT_CLASSES fields (as_best best) = .ok (as_best
      ((fields.filterMap vote).foldl (List.argAux fun b c => c.2 < b.2) best)) := by
  induction fields generalizing best with
  | nil => rfl
  | cons field rest ih =>
    have hrest : ∀ field ∈ rest, Readable field := fun f hf => h f (List.mem_cons_of_mem _ hf)
    cases hvote : vote field with
    | none =>
      have hpos : 0 ≤ (as_best best).2 := by
        cases best with
        | none => exact FloatValue.finite_le.mpr (le_refl 0)
        | some y => exact FloatValue.le_of_lt (hbest y rfl)
      rw [best_field_no_vote (h field List.mem_cons_self) hvote hpos, List.filterMap_cons_none hvote]
      exact ih hrest best hbest
    | some y =>
      obtain ⟨c, x⟩ := y
      obtain ⟨-, hconfidence⟩ := vote_iff.mp hvote
      rw [best_field_vote hvote, List.filterMap_cons_some hvote, List.foldl_cons]
      have hnext : (if (as_best best).2 < .ordered x then (some c, .ordered x) else as_best best) =
          as_best (List.argAux (fun b c => c.2 < b.2) best (c, x)) := by
        cases best with
        | none => exact if_pos hconfidence
        | some y =>
          show (if FloatValue.ordered y.2 < .ordered x then _ else _) =
            as_best (if y.2 < x then some (c, x) else some y)
          by_cases hhigher : y.2 < x
          · rw [if_pos hhigher, if_pos (FloatValue.ordered_lt.mpr hhigher)]
            rfl
          · rw [if_neg hhigher, if_neg (mt FloatValue.ordered_lt.mp hhigher)]
      rw [hnext]
      refine ih hrest _ ?_
      intro z hz
      cases best with
      | none =>
        cases hz
        exact hconfidence
      | some y =>
        have hcases : (if y.2 < x then some (c, x) else some y) = some z := hz
        split at hcases
        · cases hcases
          exact hconfidence
        · cases hcases
          exact hbest _ rfl

/-- **The loop finds the winner.** -/
theorem best_field_winner (h : ∀ field ∈ fields, Readable field) :
    best_field DOCUMENT_CLASSES fields (none, 0) = .ok (as_best (winner fields)) :=
  best_field_foldl h none fun x hx => (by cases hx)

/-! ## The winner -/

theorem winner_top (h : winner fields = some (c, x)) : Top fields c (.ordered x) := by
  have hmem := List.argmax_mem h
  obtain ⟨field, hfield, hvote⟩ := List.mem_filterMap.mp hmem
  obtain ⟨hnames, hpos⟩ := vote_iff.mp hvote
  refine ⟨⟨field, hfield, hnames⟩, hpos, ?_⟩
  intro other hother c' confidence' hnames' hhigher
  obtain ⟨x', rfl, hvote'⟩ := vote_of_names hnames' (FloatValue.lt_trans hpos hhigher)
  have hle := List.le_of_mem_argmax (List.mem_filterMap.mpr ⟨other, hother, hvote'⟩) h
  exact absurd (FloatValue.ordered_lt.mp hhigher) (not_lt.mpr hle)

/-- Somebody wins as soon as there is a positive confidence for a known class. -/
theorem winner_isSome (hfield : field ∈ fields) (hnames : Names field c confidence)
    (hpos : 0 < confidence) : ∃ c' x', winner fields = some (c', x') := by
  cases hwinner : winner fields with
  | some y => exact ⟨y.1, y.2, rfl⟩
  | none =>
    have hnil := List.argmax_eq_none.mp hwinner
    obtain ⟨x, -, hvote⟩ := vote_of_names hnames hpos
    have hmem := List.mem_filterMap.mpr ⟨field, hfield, hvote⟩
    rw [hnil] at hmem
    cases hmem

/-- A top field that comes first wins. -/
theorem winner_of_first (hnames : Names field c confidence) (htop : Top (field :: fields) c confidence) :
    ∃ x, confidence = .ordered x ∧ winner (field :: fields) = some (c, x) := by
  obtain ⟨x, rfl, hvote⟩ := vote_of_names hnames htop.2.1
  refine ⟨x, rfl, ?_⟩
  unfold winner
  rw [List.filterMap_cons_some hvote, List.argmax_eq_some_iff]
  refine ⟨List.mem_cons_self, ?_, ?_⟩
  · intro y hy
    rw [← List.filterMap_cons_some hvote] at hy
    obtain ⟨other, hother, hvote'⟩ := List.mem_filterMap.mp hy
    have hnot := htop.2.2 other hother y.1 _ (vote_iff.mp hvote').1
    exact not_lt.mp (mt FloatValue.ordered_lt.mpr hnot)
  · intro y _ _
    simp

/-! ## What the classifier makes of it -/

/-- The answer for a winner. -/
def answer_for (cfg : RoutingConfig) :
    Option (String × Extended) → String × FloatValue × ClassificationSource
  | some (c, x) =>
    if cfg.classification_threshold ≤ .ordered x then (c, .ordered x, .extraction)
    else ("unknown", 0, .fallback)
  | none => ("unknown", 0, .fallback)

theorem answer_for_some (cfg : RoutingConfig) (c : String) (x : Extended) :
    answer_for cfg (some (c, x)) =
      if cfg.classification_threshold ≤ .ordered x then (c, .ordered x, .extraction)
      else ("unknown", 0, .fallback) := rfl

/-- Where the fields are not asked, they do not matter. -/
theorem classify_decided (h : Decided platform cfg document) (fields fields' : List ExtractionField) :
    classify platform cfg document (some fields) = classify platform cfg document (some fields') := by
  unfold classify classify_among
  split
  · rfl
  · next hown =>
    split
    · rfl
    · next hrule =>
      -- then the fields would be asked
      refine absurd ⟨?_, hrule⟩ h
      intro c hc
      simpa using Option.filter_eq_none_iff.mp hown c hc

theorem classify_readable (h : LeftToFields platform DOCUMENT_CLASSES cfg document)
    (hreadable : ∀ field ∈ fields, Readable field) :
    classify platform cfg document (some fields) = .ok (answer_for cfg (winner fields)) := by
  rw [classify, classify_among_fields h, Option.getD_some, best_field_winner hreadable]
  cases winner fields with
  | none => rfl
  | some y =>
    show (if cfg.classification_threshold ≤ FloatValue.ordered y.2 then
        Except.ok (y.1, FloatValue.ordered y.2, _) else .ok _) =
      Except.ok (if cfg.classification_threshold ≤ FloatValue.ordered y.2 then
        (y.1, FloatValue.ordered y.2, _) else _)
    split
    · rfl
    · rfl

theorem classify_unreadable (h : LeftToFields platform DOCUMENT_CLASSES cfg document)
    (hunreadable : ¬ ∀ field ∈ fields, Readable field) :
    (classify platform cfg document (some fields)).toOption = none := by
  cases hanswer : classify platform cfg document (some fields) with
  | error e => rfl
  | ok answer => exact absurd (readable_of_classify h hanswer) hunreadable

theorem Top.perm (hperm : fields'.Perm fields) (h : Top fields c confidence) :
    Top fields' c confidence := by
  obtain ⟨⟨field, hfield, hnames⟩, hpos, hall⟩ := h
  exact ⟨⟨field, hperm.mem_iff.mpr hfield, hnames⟩, hpos,
    fun other hother => hall other (hperm.mem_iff.mp hother)⟩

/-- The highest confidence is one number. -/
theorem Top.unique {c' : String} {confidence' : FloatValue} (h : Top fields c confidence)
    (h' : Top fields c' confidence') : confidence = confidence' := by
  obtain ⟨⟨field, hfield, hnames⟩, hpos, hall⟩ := h
  obtain ⟨⟨field', hfield', hnames'⟩, hpos', hall'⟩ := h'
  exact FloatValue.eq_of_not_lt (FloatValue.ne_nan_of_lt hpos).2 (FloatValue.ne_nan_of_lt hpos').2
    (hall field' hfield' c' confidence' hnames') (hall' field hfield c confidence hnames)

/-- Where one class only is on top, at or above the threshold, the order does not matter. -/
theorem answer_perm (hperm : fields'.Perm fields)
    (hone : ∀ c c' confidence, Top fields c confidence → Top fields c' confidence →
      cfg.classification_threshold ≤ confidence → c = c') :
    answer_for cfg (winner fields') = answer_for cfg (winner fields) := by
  cases hwinner : winner fields with
  | none =>
    cases hwinner' : winner fields' with
    | none => rfl
    | some y' =>
      obtain ⟨⟨field, hfield, hnames⟩, hpos, -⟩ := winner_top hwinner'
      obtain ⟨c, x, hsome⟩ := winner_isSome (hperm.mem_iff.mp hfield) hnames hpos
      rw [hwinner] at hsome
      cases hsome
  | some y =>
    obtain ⟨c, x⟩ := y
    have htop := winner_top hwinner
    obtain ⟨⟨field, hfield, hnames⟩, hpos, -⟩ := id htop
    obtain ⟨c', x', hwinner'⟩ := winner_isSome (hperm.mem_iff.mpr hfield) hnames hpos
    have htop' := (winner_top hwinner').perm hperm.symm
    obtain rfl := FloatValue.ordered.inj (htop.unique htop')
    rw [hwinner']
    by_cases hsure : cfg.classification_threshold ≤ .ordered x
    · rw [hone c c' _ htop htop' hsure]
    · rw [answer_for_some, answer_for_some, if_neg hsure, if_neg hsure]

/-- Where there is a conflict, what is on top is at or above the threshold. -/
theorem Top.sure (htop : Top fields c confidence) (h : Conflict cfg fields) :
    cfg.classification_threshold ≤ confidence := by
  obtain ⟨-, hpos, hmost⟩ := htop
  obtain ⟨other, hother, -, -, c', -, confidence', -, hnames, -, -, hhigh, -⟩ := h
  rcases FloatValue.le_of_not_lt (hmost other hother c' confidence' hnames) with hle | hnan | hnan
  · exact FloatValue.le_trans hhigh hle
  · exact absurd hnan (FloatValue.ne_nan_of_lt hpos).2
  · exact absurd hnan (FloatValue.ne_nan_of_le hhigh).2

/-- Without a conflict one class only is on top, at or above the threshold. -/
theorem one_on_top (hcalm : ¬ Conflict cfg fields) (c c' : String) (confidence : FloatValue)
    (htop : Top fields c confidence) (htop' : Top fields c' confidence)
    (hsure : cfg.classification_threshold ≤ confidence) : c = c' := by
  by_contra hne
  obtain ⟨⟨field, hfield, hnames⟩, -⟩ := htop
  obtain ⟨⟨field', hfield', hnames'⟩, -⟩ := htop'
  exact hcalm ⟨field, hfield, field', hfield', c, c', _, _, hnames, hnames', hne, hsure, hsure⟩

/-- Where only `unknown` is on top, it is the answer. -/
theorem classify_unknown (hleft : LeftToFields platform DOCUMENT_CLASSES cfg document)
    (hreadable : ∀ field ∈ fields, Readable field)
    (hunknown : ∀ c confidence, Top fields c confidence → c = "unknown") :
    ∃ confidence source, classify platform cfg document (some fields) =
      .ok ("unknown", confidence, source) := by
  rw [classify_readable hleft hreadable]
  cases hwinner : winner fields with
  | none => exact ⟨_, _, rfl⟩
  | some y =>
    obtain ⟨c, x⟩ := y
    obtain rfl := hunknown c _ (winner_top hwinner)
    rw [answer_for_some]
    split
    · exact ⟨_, _, rfl⟩
    · exact ⟨_, _, rfl⟩

/-- **When the order does not matter.** The fields may come in any order, and a conflict between them is
    refused, if and only if they are not asked, or none are in conflict, or all of them can be
    read and only `unknown` is on top. -/
theorem order_free_iff (platform : Platform) (cfg : RoutingConfig) (document : Document)
    (fields : List ExtractionField) :
    OrderFree platform cfg document fields ↔
      Decided platform cfg document ∨ ¬ Conflict cfg fields ∨
        ((∀ field ∈ fields, Readable field) ∧ ∀ c confidence, Top fields c confidence → c = "unknown") := by
  constructor
  · intro h
    by_contra hnot
    obtain ⟨hundecided, hrest⟩ := not_or.mp hnot
    obtain ⟨hconflict, hrest⟩ := not_or.mp hrest
    have hleft : LeftToFields platform DOCUMENT_CLASSES cfg document := not_not.mp hundecided
    obtain ⟨found, source, hunknown⟩ := h.refused hundecided (not_not.mp hconflict)
    have hreadable := readable_of_classify hleft hunknown
    refine hrest ⟨hreadable, ?_⟩
    intro c confidence htop
    -- put a top field first: then its class is the answer, here and in the given order
    obtain ⟨⟨field, hfield, hnames⟩, -⟩ := id htop
    obtain ⟨before, after, rfl⟩ := List.append_of_mem hfield
    have hperm : (field :: (before ++ after)).Perm (before ++ field :: after) := List.perm_middle.symm
    obtain ⟨x, rfl, hfirst⟩ := winner_of_first hnames (htop.perm hperm)
    have hsame := h.permuted _ hperm
    rw [hunknown, classify_readable hleft fun f hf => hreadable f (hperm.mem_iff.mp hf), hfirst] at hsame
    have hanswer : answer_for cfg (some (c, x)) = ("unknown", found, source) :=
      Option.some.inj hsame
    rw [answer_for_some, if_pos (htop.sure (not_not.mp hconflict))] at hanswer
    exact (Prod.mk.inj hanswer).1
  · intro h
    by_cases hdecided : Decided platform cfg document
    · refine ⟨?_, fun hundecided => absurd hdecided hundecided⟩
      intro fields' _
      rw [classify_decided hdecided fields' fields]
    have hleft : LeftToFields platform DOCUMENT_CLASSES cfg document := not_not.mp hdecided
    replace h := h.resolve_left hdecided
    by_cases hreadable : ∀ field ∈ fields, Readable field
    · have hone : ∀ c c' confidence, Top fields c confidence → Top fields c' confidence →
          cfg.classification_threshold ≤ confidence → c = c' := by
        obtain hcalm | ⟨-, hunknown⟩ := h
        · exact one_on_top hcalm
        · intro c c' confidence htop htop' _
          rw [hunknown c confidence htop, hunknown c' confidence htop']
      refine ⟨?_, ?_⟩
      · intro fields' hperm
        rw [classify_readable hleft hreadable,
          classify_readable hleft fun f hf => hreadable f (hperm.mem_iff.mp hf), answer_perm hperm hone]
      · intro _ hconflict
        obtain hcalm | ⟨-, hunknown⟩ := h
        · exact absurd hconflict hcalm
        exact classify_unknown hleft hreadable hunknown
    · refine ⟨?_, ?_⟩
      · intro fields' hperm
        have hunreadable' : ¬ ∀ field ∈ fields', Readable field := by
          intro hall
          exact hreadable fun f hf => hall f (hperm.mem_iff.mpr hf)
        rw [classify_unreadable hleft hreadable, classify_unreadable hleft hunreadable']
      · intro _ hconflict
        obtain hcalm | ⟨hall, -⟩ := h
        · exact absurd hconflict hcalm
        · exact absurd hall hreadable

end fields

/-! ## Two readings of one document -/

section two_readings

/-- A field that names a class with a confidence in percent. -/
def reading (c : String) (percent : Nat) : ExtractionField :=
  ⟨.str c, .ok (percent / 100 : ℚ)⟩

/-- A document whose class is to be read from its fields. -/
def scan : Document := named_document "scan.pdf" none

/-- The answers for two orders of the same fields. -/
theorem two_answers :
    (classify plain_service.platform plain_config scan
      (some [reading "court_filing" 90, reading "id_document" 90])).toOption =
        some ("court_filing", .finite (9 / 10), .extraction) ∧
    (classify plain_service.platform plain_config scan
      (some [reading "id_document" 90, reading "court_filing" 90])).toOption =
        some ("id_document", .finite (9 / 10), .extraction) := by
  decide +kernel

/-- **The order decides.** Two classes, equally sure: the document is filed as a court filing or as an
    identity document, as the fields come, and not left to the queue. -/
theorem order_decides :
    (classify plain_service.platform plain_config scan
      (some [reading "court_filing" 90, reading "id_document" 90])).toOption =
        some ("court_filing", .finite (9 / 10), .extraction) ∧
    (classify plain_service.platform plain_config scan
      (some [reading "id_document" 90, reading "court_filing" 90])).toOption =
        some ("id_document", .finite (9 / 10), .extraction) ∧
    ¬ OrderFree plain_service.platform plain_config scan
      [reading "court_filing" 90, reading "id_document" 90] := by
  obtain ⟨hcourt, hid⟩ := two_answers
  refine ⟨hcourt, hid, ?_⟩
  intro hfree
  have hsame := hfree.permuted _ (List.Perm.swap _ _ [])
  rw [hcourt, hid] at hsame
  exact absurd (Prod.mk.inj (Option.some.inj hsame)).1 (by decide)

end two_readings

end CaseAutomation.Routing
