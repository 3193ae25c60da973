import CaseAutomation.Intake.Types

/-! # The Step `dedupe_contact`

    `intake/dedupe.py`: the CRM is searched by e-mail, then by name, and the candidates found decide
    whether a contact is reused, created, or left to a human.

    `decide_match_blocks`: a gap blocks exactly when the decision is `ambiguous`.
-/

namespace CaseAutomation.Intake

open Framework Workflows Program Domain

/-! ## Search -/

/-- The text, unless it is empty. -/
def non_empty (s : Option String) : Option String := s.filter fun t => decide (t ≠ "")

/-- A search of the CRM whose exceptions are swallowed. -/
def search_quietly : Option String → M (List Contact)
  | none => return []
  | some q => do
    match ← (await (.find_contact q) : M (List Contact)).attempt with
    | .ok found => return found
    | .error _ => return []

/-- The candidates: by e-mail, else by name. -/
def search (fields : IntakeFields) : M (List Contact) := do
  let by_email ← search_quietly (non_empty fields.email)
  if by_email.isEmpty then search_quietly (non_empty fields.full_name) else return by_email

/-! ## Decision -/

/-- The only candidate that satisfies the test. -/
def only_match (candidates : List Contact) (test : Contact → Bool) : Option Contact :=
  match candidates.filter test with
  | [c] => some c
  | _ => none

def reuse (c : Contact) : DedupeResult where
  contact_match := some ⟨c.id, c.source, ⟨"1.0", one_repr_ok⟩⟩
  matter_match := none
  decision := .reuse_contact
  score := ⟨"1.0", one_repr_ok⟩

/-- The only candidate with the e-mail address of the lead. -/
def email_match (fields : IntakeFields) (candidates : List Contact) : Option Contact :=
  (non_empty fields.email).bind fun email =>
    only_match candidates fun c => decide (c.email.getD "" = email)

/-- The only candidate with the A-number of the lead. -/
def a_number_match (fields : IntakeFields) (candidates : List Contact) : Option Contact :=
  (non_empty fields.a_number).bind fun a_number =>
    only_match candidates fun c => decide (c.external_ids.get? "a_number" = some a_number)

/-- What is left to a human. -/
def ambiguous : List Contact → DedupeResult × List IntakeGap
  | [] => (⟨none, none, .new_contact, ⟨"0.0", zero_repr_ok⟩⟩, [])
  | [c] =>
    (⟨some ⟨c.id, c.source, ⟨"0.6", by decide⟩⟩, none, .ambiguous, ⟨"0.6", by decide⟩⟩,
      [⟨"contact_id", "Found a possible matching contact but confidence " ++
        "is insufficient for automatic merge.", .block⟩])
  | candidates =>
    (⟨none, none, .ambiguous, ⟨"0.5", by decide⟩⟩,
      [⟨"contact_id", "Found " ++ toString candidates.length ++ " possible matching contacts " ++
        "— requires human disambiguation.", .block⟩])

/-- The decision on the candidates found. -/
def decide_match (fields : IntakeFields) (candidates : List Contact) :
    DedupeResult × List IntakeGap :=
  match (email_match fields candidates).or (a_number_match fields candidates) with
  | some c => (reuse c, [])
  | none => ambiguous candidates

/-- `dedupe_contact`. -/
def dedupe_contact (fields : IntakeFields) : M (DedupeResult × List IntakeGap) := do
  let candidates ← search fields
  return decide_match fields candidates

/-! ## When a gap blocks -/

theorem ambiguous_blocks (candidates : List Contact) :
    blocking (ambiguous candidates).2 = decide ((ambiguous candidates).1.decision = .ambiguous) := by
  match candidates with
  | [] => rfl
  | [_] => rfl
  | _ :: _ :: _ => rfl

/-- **When the contact has a blocking gap.** Exactly when the decision is left to a human. -/
theorem decide_match_blocks (fields : IntakeFields) (candidates : List Contact) :
    blocking (decide_match fields candidates).2 =
      decide ((decide_match fields candidates).1.decision = .ambiguous) := by
  unfold decide_match
  split
  · rfl
  · exact ambiguous_blocks candidates

end CaseAutomation.Intake
