import CaseAutomation.Base.Text
import CaseAutomation.Intake.Dedupe

/-! # Silent Duplicates

    `dedupe_contact` against the reference CRM (`connectors/reference/crm.py`), with any contacts and
    any pattern of failures. The CRM searches names and e-mail addresses only, and the step swallows
    what a lookup raises, so that a lead becomes a new contact although its A-number is known, or
    although nobody could look (`no_silent_duplicate_iff`).
-/

namespace CaseAutomation.Intake

open Framework Workflows Program Domain

/-! ## The reference CRM -/

/-- `ReferenceCRMConnector`, with what a lookup raises, given the calls before it. -/
structure Crm where
  contacts : Dict String Contact
  failure : List Call → String → Option Exn

namespace Crm
variable (lower : String → String) (crm : Crm)

/-- `find_contact`; `lower` is `str.lower`. -/
def find_contact (made : List Call) (q : String) : Except Exn (List Contact) :=
  match crm.failure made q with
  | some exc => .error exc
  | none => .ok (crm.contacts.values.filter fun c =>
      occurs_in (lower q) (lower c.name) || occurs_in (lower q) (lower (c.email.getD "")))

/-- How the calls of the step are answered. -/
def answers : Answers := fun made c =>
  match c with
  | .find_contact q => crm.find_contact lower made q
  | _ => .error (.other "AttributeError" "not a call of the CRM")

/-- What a quiet search finds. -/
def looked_up (made : List Call) : Option String → List Contact
  | none => []
  | some q =>
    match crm.find_contact lower made q with
    | .ok found => found
    | .error _ => []

/-- The calls of a quiet search. -/
def asked : Option String → List Call
  | none => []
  | some q => [.find_contact q]

/-- The candidates for a lead. -/
def candidates (fields : IntakeFields) : List Contact :=
  let by_email := crm.looked_up lower [] (non_empty fields.email)
  if by_email.isEmpty then
    crm.looked_up lower (asked (non_empty fields.email)) (non_empty fields.full_name)
  else by_email

end Crm

/-! ## No silent duplicates -/

def has_email (fields : IntakeFields) (c : Contact) : Bool :=
  (non_empty fields.email).any fun email => decide (c.email = some email)

def has_a_number (fields : IntakeFields) (c : Contact) : Bool :=
  fields.a_number.any fun a_number => decide (c.external_ids.get? "a_number" = some a_number)

/-- One of the calls raised. -/
def Raised (answers : Answers) (made : List Call) : Prop :=
  ∃ before c exc, before ++ [c] <+: made ∧ answers before c = .error exc

/-- A lead becomes a new contact only if nothing was found and nothing was missed, and an old one only
    if no other candidate has its address or number. -/
def NoSilentDuplicate (lower : String → String) (crm : Crm) (fields : IntakeFields) : Prop :=
  ∃ result gaps made,
    (dedupe_contact fields).run (exec (crm.answers lower)) [] = (.ok (result, gaps), made) ∧
    ((∃ c ∈ crm.contacts.values, has_email fields c = true ∨ has_a_number fields c = true) ∨
        Raised (crm.answers lower) made →
      result.decision ≠ .new_contact) ∧
    (result.decision = .reuse_contact →
      ∃ c, ((crm.candidates lower fields).filter fun c =>
          has_email fields c || has_a_number fields c) = [c] ∧
        result.contact_match = some ⟨c.id, c.source, ⟨"1.0", one_repr_ok⟩⟩)

/-- Neither lookup raises, and no contact has the A-number of the lead. -/
structure Clear (crm : Crm) (fields : IntakeFields) : Prop where
  by_email : ∀ q, non_empty fields.email = some q → crm.failure [] q = none
  by_name : ∀ q, non_empty fields.full_name = some q →
    crm.failure (Crm.asked (non_empty fields.email)) q = none
  a_number : ∀ c ∈ crm.contacts.values, has_a_number fields c = false

/-- The address and the A-number of the lead do not point to different candidates. -/
structure Agreed (fields : IntakeFields) (candidates : List Contact) : Prop where
  /-- If one candidate has the address, no other has the A-number. -/
  one : ∀ c, candidates.filter (has_email fields) = [c] →
    ∀ c' ∈ candidates, has_a_number fields c' = true → has_email fields c' = true
  /-- If several have the address, the A-number does not single one out. -/
  several : 2 ≤ (candidates.filter (has_email fields)).length →
    a_number_match fields candidates = none

/-! ## The run -/

section run
variable {lower : String → String} {crm : Crm} {fields : IntakeFields}

theorem run_search_quietly (q : Option String) (made : List Call) :
    (search_quietly q).run (exec (crm.answers lower)) made =
      (.ok (crm.looked_up lower made q), made ++ Crm.asked q) := by
  cases q with
  | none => simp [search_quietly, Crm.looked_up, Crm.asked]
  | some q =>
    simp only [search_quietly, Crm.looked_up]
    rw [monad_bind, run_bind, run_attempt, run_perform]
    have hanswer : exec (crm.answers lower) (.find_contact q) made =
        (crm.find_contact lower made q, made ++ [.find_contact q]) := rfl
    rw [hanswer]
    cases crm.find_contact lower made q with
    | ok found => rfl
    | error exc => rfl

/-- The step decides on the candidates, and never raises. -/
theorem run_dedupe_contact (lower : String → String) (crm : Crm) (fields : IntakeFields) :
    (dedupe_contact fields).run (exec (crm.answers lower)) [] =
      (.ok (decide_match fields (crm.candidates lower fields)),
        Crm.asked (non_empty fields.email) ++
          if (crm.looked_up lower [] (non_empty fields.email)).isEmpty then
            Crm.asked (non_empty fields.full_name)
          else []) := by
  unfold dedupe_contact search Crm.candidates
  rw [monad_bind, monad_bind, run_bind, run_bind, run_search_quietly]
  simp only
  by_cases hempty : (crm.looked_up lower [] (non_empty fields.email)).isEmpty = true
  · simp only [hempty, if_true]
    rw [run_search_quietly]
    rfl
  · simp only [hempty]
    simp

/-- A contact is new exactly if there are no candidates. -/
theorem decide_match_new_iff (fields : IntakeFields) (candidates : List Contact) :
    (decide_match fields candidates).1.decision = .new_contact ↔ candidates = [] := by
  have honly : ∀ test, only_match [] test = none := fun test => rfl
  unfold decide_match
  match candidates with
  | [] =>
    have hemail : email_match fields [] = none := by
      unfold email_match
      simp [honly]
    have hnumber : a_number_match fields [] = none := by
      unfold a_number_match
      simp [honly]
    rw [hemail, hnumber]
    simp [ambiguous]
  | [c] =>
    split
    · simp [reuse]
    · simp [ambiguous]
  | c :: c' :: rest =>
    split
    · simp [reuse]
    · simp [ambiguous]

end run

/-! ## A new contact -/

section new
variable {lower : String → String} {crm : Crm} {fields : IntakeFields}

theorem raised_nil (answers : Answers) : ¬Raised answers [] := by
  rintro ⟨before, c, exc, hprefix, -⟩
  simp at hprefix

/-- One more search raises, or has been preceded by one that did. -/
theorem raised_append_asked_iff (made : List Call) (q : Option String) :
    Raised (crm.answers lower) (made ++ Crm.asked q) ↔
      Raised (crm.answers lower) made ∨ ∃ t, q = some t ∧ crm.failure made t ≠ none := by
  cases q with
  | none => simp [Crm.asked]
  | some t =>
    have hlast : (∃ exc, crm.answers lower made (.find_contact t) = .error exc) ↔
        crm.failure made t ≠ none := by
      show (∃ exc, crm.find_contact lower made t = .error exc) ↔ _
      unfold Crm.find_contact
      cases crm.failure made t with
      | none => simp
      | some exc => simp
    simp only [Crm.asked, Option.some.injEq, exists_eq_left', ← hlast]
    constructor
    · rintro ⟨before, c, exc, hprefix, hraise⟩
      rcases List.prefix_concat_iff.mp hprefix with heq | hearlier
      · obtain ⟨rfl, hc⟩ := List.append_inj' heq rfl
        cases hc
        exact .inr ⟨exc, hraise⟩
      · exact .inl ⟨before, c, exc, hearlier, hraise⟩
    · rintro (⟨before, c, exc, hearlier, hraise⟩ | ⟨exc, hraise⟩)
      · exact ⟨before, c, exc, hearlier.trans (List.prefix_append _ _), hraise⟩
      · exact ⟨made, _, exc, List.prefix_refl _, hraise⟩

/-- A search for an address finds the contacts that have it. -/
theorem looked_up_email_ne_nil {c : Contact} (hmem : c ∈ crm.contacts.values)
    (hemail : has_email fields c = true)
    (hanswers : ∀ q, non_empty fields.email = some q → crm.failure [] q = none) :
    crm.looked_up lower [] (non_empty fields.email) ≠ [] := by
  unfold has_email at hemail
  cases hq : non_empty fields.email with
  | none =>
    rw [hq] at hemail
    cases hemail
  | some q =>
    rw [hq] at hemail
    have hsame : c.email = some q := of_decide_eq_true hemail
    have hoccurs : occurs_in (lower q) (lower (c.email.getD "")) = true := by
      rw [hsame]
      exact decide_eq_true (List.infix_refl _)
    unfold Crm.looked_up Crm.find_contact
    simp only [hanswers q hq]
    apply List.ne_nil_of_mem
    exact List.mem_filter.mpr ⟨hmem, by rw [hoccurs, Bool.or_true]⟩

/-- Nothing is decided silently against a new contact: the lookups find someone, or they all answer
    and the A-number is not known. -/
theorem not_new_iff {result : DedupeResult} {gaps : List IntakeGap} {made : List Call}
    (hrun : (dedupe_contact fields).run (exec (crm.answers lower)) [] =
      (.ok (result, gaps), made)) :
    ((∃ c ∈ crm.contacts.values, has_email fields c = true ∨ has_a_number fields c = true) ∨
        Raised (crm.answers lower) made →
      result.decision ≠ .new_contact) ↔
      crm.candidates lower fields ≠ [] ∨ Clear crm fields := by
  rw [run_dedupe_contact] at hrun
  obtain ⟨hresult, rfl⟩ := Prod.mk.inj hrun
  have hnew : result.decision = .new_contact ↔ crm.candidates lower fields = [] := by
    rw [← decide_match_new_iff fields, Except.ok.inj hresult]
  rw [ne_eq, hnew]
  by_cases hfound : crm.candidates lower fields = []
  case neg => exact iff_of_true (fun _ => hfound) (.inl hfound)
  -- nothing was found, so both lookups were made
  have hempty : crm.looked_up lower [] (non_empty fields.email) = [] := by
    by_cases h : (crm.looked_up lower [] (non_empty fields.email)).isEmpty = true
    · exact List.isEmpty_iff.mp h
    · unfold Crm.candidates at hfound
      simp only [h] at hfound
      exact hfound
  have hraised : Raised (crm.answers lower) (Crm.asked (non_empty fields.email) ++
        if (crm.looked_up lower [] (non_empty fields.email)).isEmpty = true then
          Crm.asked (non_empty fields.full_name)
        else []) ↔
      (∃ t, non_empty fields.email = some t ∧ crm.failure [] t ≠ none) ∨
        ∃ t, non_empty fields.full_name = some t ∧
          crm.failure (Crm.asked (non_empty fields.email)) t ≠ none := by
    rw [hempty, List.isEmpty_nil, if_pos rfl, raised_append_asked_iff]
    have hfirst := @raised_append_asked_iff lower crm [] (non_empty fields.email)
    rw [List.nil_append] at hfirst
    rw [hfirst]
    simp [raised_nil]
  rw [hraised]
  simp only [hfound, ne_eq, not_true_eq_false, imp_false, false_or]
  constructor
  · intro hnone
    push Not at hnone
    refine ⟨hnone.2.1, hnone.2.2, ?_⟩
    intro c hc
    simpa using (hnone.1 c hc).2
  · rintro hclear (⟨c, hc, hemail | hnumber⟩ | ⟨t, ht, hraise⟩ | ⟨t, ht, hraise⟩)
    · exact looked_up_email_ne_nil hc hemail hclear.by_email hempty
    · rw [hclear.a_number c hc] at hnumber
      cases hnumber
    · exact hraise (hclear.by_email t ht)
    · exact hraise (hclear.by_name t ht)

end new

/-! ## A contact that is reused -/

section reuse
variable {fields : IntakeFields} {candidates : List Contact}

theorem only_match_eq_some_iff {test : Contact → Bool} {c : Contact} :
    only_match candidates test = some c ↔ candidates.filter test = [c] := by
  unfold only_match
  split
  case h_1 c' h => simp [h]
  case h_2 h =>
    constructor
    · intro heq
      cases heq
    · intro heq
      exact absurd heq (h c)

theorem email_match_iff {c : Contact} :
    email_match fields candidates = some c ↔ candidates.filter (has_email fields) = [c] := by
  unfold email_match has_email
  cases hq : non_empty fields.email with
  | none => simp
  | some email =>
    have hne : email ≠ "" := of_decide_eq_true (Option.filter_eq_some_iff.mp hq).2
    have htest : (fun c : Contact => decide (c.email.getD "" = email)) =
        fun c => (some email).any fun email => decide (c.email = some email) := by
      funext c
      rw [Option.any_some]
      cases c.email with
      | none => simp [Ne.symm hne]
      | some e => simp
    rw [Option.bind_some, only_match_eq_some_iff, htest]

theorem a_number_match_some {c : Contact} (h : a_number_match fields candidates = some c) :
    candidates.filter (has_a_number fields) = [c] := by
  unfold a_number_match at h
  obtain ⟨a_number, hnumber, honly⟩ := Option.bind_eq_some_iff.mp h
  have hsome : fields.a_number = some a_number := (Option.filter_eq_some_iff.mp hnumber).1
  unfold has_a_number
  rw [hsome]
  exact only_match_eq_some_iff.mp honly

/-- What is reused is the match of the address, else that of the A-number. -/
theorem decide_match_reuse_iff :
    (decide_match fields candidates).1.decision = .reuse_contact ↔
      ∃ c, (email_match fields candidates).or (a_number_match fields candidates) = some c ∧
        (decide_match fields candidates).1 = reuse c := by
  unfold decide_match
  cases (email_match fields candidates).or (a_number_match fields candidates) with
  | some c => simp [reuse]
  | none =>
    rcases candidates with _ | ⟨_, _ | ⟨_, _⟩⟩
    · simp [ambiguous]
    · simp [ambiguous]
    · simp [ambiguous]

/-- A reused contact always has the address or the A-number of the lead. -/
theorem reused_matches {c : Contact}
    (h : (email_match fields candidates).or (a_number_match fields candidates) = some c) :
    c ∈ candidates ∧ (has_email fields c = true ∨ has_a_number fields c = true) := by
  have hmem : ∀ test : Contact → Bool, candidates.filter test = [c] → c ∈ candidates ∧ test c = true :=
    fun test hone => List.mem_filter.mp (by rw [hone]; exact List.mem_singleton_self c)
  rcases Option.or_eq_some_iff.mp h with hemail | ⟨-, hnumber⟩
  · have := hmem _ (email_match_iff.mp hemail)
    exact ⟨this.1, .inl this.2⟩
  · have := hmem _ (a_number_match_some hnumber)
    exact ⟨this.1, .inr this.2⟩

/-- A contact is reused as the only candidate with the address or the A-number exactly if the two
    agree. -/
theorem only_one_iff :
    ((decide_match fields candidates).1.decision = .reuse_contact →
      ∃ c, (candidates.filter fun c => has_email fields c || has_a_number fields c) = [c] ∧
        (decide_match fields candidates).1.contact_match =
          some ⟨c.id, c.source, ⟨"1.0", one_repr_ok⟩⟩) ↔
      Agreed fields candidates := by
  have hdecided : ∀ c, (email_match fields candidates).or (a_number_match fields candidates) = some c →
      (decide_match fields candidates).1 = reuse c := by
    intro c h
    unfold decide_match
    rw [h]
  constructor
  · intro h
    constructor
    · intro c hone c' hmem hnumber
      have hreuse := hdecided c (by rw [email_match_iff.mpr hone, Option.some_or])
      obtain ⟨c'', heither, -⟩ := h (by rw [hreuse]; rfl)
      have hboth : ∀ x ∈ candidates, (has_email fields x || has_a_number fields x) = true →
          x = c'' := by
        intro x hx htest
        have hin : x ∈ candidates.filter fun c => has_email fields c || has_a_number fields c :=
          List.mem_filter.mpr ⟨hx, htest⟩
        rw [heither] at hin
        exact List.mem_singleton.mp hin
      have hc : c ∈ candidates ∧ has_email fields c = true :=
        List.mem_filter.mp (by rw [hone]; exact List.mem_singleton_self c)
      have hsame : c' = c := (hboth c' hmem (by rw [hnumber, Bool.or_true])).trans
        (hboth c hc.1 (by rw [hc.2, Bool.true_or])).symm
      rw [hsame]
      exact hc.2
    · intro hseveral
      cases hnumber : a_number_match fields candidates with
      | none => rfl
      | some c =>
        have hnone : email_match fields candidates = none := by
          cases hemail : email_match fields candidates with
          | none => rfl
          | some c' =>
            rw [email_match_iff.mp hemail] at hseveral
            simp at hseveral
        have hreuse := hdecided c (by rw [hnone, Option.none_or, hnumber])
        obtain ⟨c'', heither, -⟩ := h (by rw [hreuse]; rfl)
        have hsub : (candidates.filter (has_email fields)).length ≤
            (candidates.filter fun c => has_email fields c || has_a_number fields c).length :=
          (List.monotone_filter_right candidates fun x hx => by simp [hx]).length_le
        rw [heither] at hsub
        simp only [List.length_singleton] at hsub
        omega
  · intro hagreed hreuse
    obtain ⟨c, hmatch, hresult⟩ := decide_match_reuse_iff.mp hreuse
    refine ⟨c, ?_, by rw [hresult]; rfl⟩
    rcases Option.or_eq_some_iff.mp hmatch with hemail | ⟨hnone, hnumber⟩
    · -- the A-number adds nobody
      have hone := email_match_iff.mp hemail
      rw [← hone]
      apply List.filter_congr
      intro x hx
      cases hx' : has_a_number fields x with
      | false => rw [Bool.or_false]
      | true => rw [hagreed.one c hone x hx hx', Bool.true_or]
    · -- nobody has the address
      have hempty : candidates.filter (has_email fields) = [] := by
        match hfilter : candidates.filter (has_email fields) with
        | [] => rfl
        | [c'] =>
          rw [email_match_iff.mpr hfilter] at hnone
          cases hnone
        | _ :: _ :: _ =>
          have := hagreed.several (by rw [hfilter]; simp)
          rw [hnumber] at this
          cases this
      rw [← a_number_match_some hnumber]
      apply List.filter_congr
      intro x hx
      have hfalse : has_email fields x = false := by
        simpa using List.filter_eq_nil_iff.mp hempty x hx
      rw [hfalse, Bool.false_or]

end reuse

/-- **When no duplicate is decided silently.** Exactly when the lookups find someone, or both answer
    and the A-number is not known, and the candidates' addresses and A-numbers agree. -/
theorem no_silent_duplicate_iff (lower : String → String) (crm : Crm) (fields : IntakeFields) :
    NoSilentDuplicate lower crm fields ↔
      (crm.candidates lower fields ≠ [] ∨ Clear crm fields) ∧
        Agreed fields (crm.candidates lower fields) := by
  have hrun := run_dedupe_contact lower crm fields
  constructor
  · rintro ⟨result, gaps, made, hrun', hnew, honly⟩
    refine ⟨(not_new_iff hrun').mp hnew, only_one_iff.mp ?_⟩
    rw [hrun] at hrun'
    have hresult := Except.ok.inj (Prod.mk.inj hrun').1
    rw [hresult]
    exact honly
  · rintro ⟨hclear, hagreed⟩
    exact ⟨_, _, _, hrun, (not_new_iff hrun).mpr hclear, only_one_iff.mpr hagreed⟩

/-! ## A known A-number -/

/-- The lead of a client whose name and address have changed. -/
def known_number : IntakeFields where
  full_name := some "Jane Doe"
  dob := none
  preferred_language := none
  email := some "jane@example.com"
  phone := none
  address := none
  country_of_origin := none
  a_number := some "A123456789"
  current_status := none
  case_type := none
  prior_filings := []
  lead_source := none
  description := none
  field_confidence := ∅

/-- `str.lower` of an ASCII text. -/
def ascii_lower (s : String) : String := String.ofList (s.toList.map Char.toLower)

/-- The CRM with this client. -/
def crm_with_number : Crm where
  contacts := (∅ : Dict String Contact).set "contact-1" ⟨"contact-1", "crm", "J. Roe", none, none, none,
    (∅ : Dict String String).set "a_number" "A123456789"⟩
  failure _ _ := none

/-- The client becomes a second contact. -/
theorem known_number_new :
    ¬∀ (lower : String → String) (crm : Crm) (fields : IntakeFields),
      NoSilentDuplicate lower crm fields := by
  intro h
  have hnew : ((dedupe_contact known_number).run (exec (crm_with_number.answers ascii_lower))
      []).1.toOption.map (fun result => result.1.decision) = some .new_contact := by
    decide +kernel
  have hknown : ∃ c ∈ crm_with_number.contacts.values, has_a_number known_number c = true := by
    decide +kernel
  obtain ⟨result, gaps, made, hrun, hsilent, -⟩ := h ascii_lower crm_with_number known_number
  obtain ⟨c, hc, hnumber⟩ := hknown
  rw [hrun] at hnew
  have hdecision : result.decision = .new_contact := Option.some.inj hnew
  exact hsilent (.inl ⟨c, hc, .inr hnumber⟩) hdecision

end CaseAutomation.Intake
