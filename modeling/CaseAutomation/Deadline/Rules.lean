import CaseAutomation.Base.JsonCodec
import CaseAutomation.Deadline.Compute

/-! # The Rule Store

    `RuleStore` of `deadline/rules.py`: an append-only registry of versioned rules. The version of a
    rule is a hash of its JSON text, a parameter here.
-/

namespace CaseAutomation.Deadline

open Framework

/-- `RuleStore._registry`: the versions of each rule, in the order in which they were loaded. -/
abbrev RuleStore : Type := Dict String (List (String × DeadlineRule))

/-! ## The content of a rule -/

def Adjust.value : Adjust → String
  | .next_business_day => "next_business_day"
  | .previous_business_day => "previous_business_day"
  | .none => "none"

def EscalationTrigger.value : EscalationTrigger → String
  | .reminder_missed => "reminder_missed"
  | .approaching => "approaching"
  | .after_due => "after_due"

/-- `x.model_dump(mode="json")` of an optional string. -/
def dump_optional : Option String → Json
  | none => .null
  | some s => .str s

def Offset.dump (offset : Offset) : Json :=
  .obj [("days", .int offset.days), ("business_days", .int offset.business_days),
    ("weeks", .int offset.weeks), ("months", .int offset.months), ("years", .int offset.years)]

def ReminderOffset.dump (rem : ReminderOffset) : Json :=
  .obj [("amount", .int rem.amount), ("unit", .str rem.unit.value),
    ("label", dump_optional rem.label)]

def EscalationLevel.dump (level : EscalationLevel) : Json :=
  .obj [("trigger", .str level.trigger.value),
    ("after", (level.after.map ReminderOffset.dump).getD .null),
    ("recipients", .arr (level.recipients.map .str))]

/-- The fields of a rule. -/
def DeadlineRule.dump (rule : DeadlineRule) : JsonObj :=
  [("rule_id", .str rule.rule_id), ("jurisdiction", .str rule.jurisdiction),
    ("practice_area", dump_optional rule.practice_area), ("trigger", .str rule.trigger),
    ("offset", rule.offset.dump), ("adjust", .str rule.adjust.value),
    ("calendar_id", .str rule.calendar_id),
    ("reminders", .arr (rule.reminders.map ReminderOffset.dump)),
    ("escalation", .obj [("levels", .arr (rule.escalation.map EscalationLevel.dump))]),
    ("description", .str rule.description),
    ("assumption_unconfirmed", .bool rule.assumption_unconfirmed)]

/-- `_content_hash` of the JSON text of a rule whose texts are ASCII. -/
def ascii_content_hash (rule : DeadlineRule) : String :=
  slice_to (Security.hexdigest (Security.sha256 (encode_utf8
    (String.ofList (JsonCodec.text [] (.obj rule.dump)))))) 16

namespace RuleStore

/-- The loaded versions of a rule. -/
def entries (store : RuleStore) (rule_id : String) : List (String × DeadlineRule) :=
  (store.get? rule_id).getD []

/-- What `load` and `register_rule` do with a rule and its version. -/
def append (store : RuleStore) (version : String) (rule : DeadlineRule) : RuleStore :=
  let existing := store.entries rule.rule_id
  if existing.any (fun entry => entry.1 == version) then store.set rule.rule_id existing
  else store.set rule.rule_id (existing ++ [(version, rule)])

/-- `register_rule`, for the version of the content. -/
def register_rule (content_hash : DeadlineRule → String) (store : RuleStore) (rule : DeadlineRule) :
    RuleStore :=
  store.append (content_hash rule) rule

/-- The versions for one jurisdiction. -/
def matching (store : RuleStore) (rule_id jurisdiction : String) : List (String × DeadlineRule) :=
  (store.entries rule_id).filter fun entry => decide (entry.2.jurisdiction = jurisdiction)

/-- `active`: the version that was loaded last. -/
def active (store : RuleStore) (rule_id jurisdiction : String) : Except Exn DeadlineRule :=
  match (store.matching rule_id jurisdiction).getLast? with
  | none => .error (.key_error ("No active rule for " ++ repr_str rule_id ++ " / " ++
      repr_str jurisdiction ++ "."))
  | some (_, rule) => .ok rule

/-- `rule_version`. -/
def rule_version (store : RuleStore) (rule_id jurisdiction : String) : Except Exn String := do
  let _ ← store.active rule_id jurisdiction
  match (store.entries rule_id).reverse.find? fun entry =>
      decide (entry.2.jurisdiction = jurisdiction) with
  | some (version, _) => .ok version
  | none => .error (.key_error (repr_str rule_id))

/-- Only the list of the rule's own id can grow, and only by a version that it does not have. -/
theorem entries_append (store : RuleStore) (version : String) (rule : DeadlineRule)
    (rule_id : String) :
    (store.append version rule).entries rule_id =
      if rule_id = rule.rule_id ∧ ∀ entry ∈ store.entries rule_id, entry.1 ≠ version then
        store.entries rule_id ++ [(version, rule)]
      else store.entries rule_id := by
  have hset : ∀ rules, RuleStore.entries (Dict.set store rule.rule_id rules) rule_id =
      if rule_id = rule.rule_id then rules else store.entries rule_id := by
    intro rules
    rw [entries, Dict.get?_set]
    split
    · rfl
    · rfl
  unfold append
  by_cases hnew : ∀ entry ∈ store.entries rule.rule_id, entry.1 ≠ version
  · have hany : ¬((store.entries rule.rule_id).any fun entry => entry.1 == version) = true := by
      intro h
      obtain ⟨entry, hmem, heq⟩ := List.any_eq_true.mp h
      exact hnew entry hmem (eq_of_beq heq)
    simp only [hany, Bool.false_eq_true, if_false, hset]
    by_cases hid : rule_id = rule.rule_id
    · subst hid
      rw [if_pos rfl, if_pos ⟨rfl, hnew⟩]
    · rw [if_neg hid, if_neg (fun h => hid h.1)]
  · have hany : ((store.entries rule.rule_id).any fun entry => entry.1 == version) = true := by
      push Not at hnew
      obtain ⟨entry, hmem, heq⟩ := hnew
      exact List.any_eq_true.mpr ⟨entry, hmem, beq_iff_eq.mpr heq⟩
    simp only [hany, if_true, hset]
    by_cases hid : rule_id = rule.rule_id
    · subst hid
      rw [if_pos rfl, if_neg (fun h => hnew h.2)]
    · rw [if_neg hid, if_neg (fun h => hid h.1)]

/-- An active rule has a version. -/
theorem rule_version_ok {store : RuleStore} {rule_id jurisdiction : String} {rule : DeadlineRule}
    (h : store.active rule_id jurisdiction = .ok rule) :
    ∃ version, store.rule_version rule_id jurisdiction = .ok version := by
  have hlast : (store.matching rule_id jurisdiction).getLast? ≠ none := by
    intro hnone
    rw [active, hnone] at h
    cases h
  have hne : store.matching rule_id jurisdiction ≠ [] := fun hnil => hlast (by rw [hnil]; rfl)
  obtain ⟨entry, hentry⟩ := List.exists_mem_of_ne_nil _ hne
  obtain ⟨hmem, hjur⟩ := List.mem_filter.mp hentry
  have hfind : ((store.entries rule_id).reverse.find? fun entry =>
      decide (entry.2.jurisdiction = jurisdiction)).isSome = true := by
    rw [List.find?_isSome]
    exact ⟨entry, List.mem_reverse.mpr hmem, hjur⟩
  obtain ⟨⟨version, found⟩, hfound⟩ := Option.isSome_iff_exists.mp hfind
  refine ⟨version, ?_⟩
  unfold rule_version
  rw [h]
  simp only [bind, Except.bind]
  rw [hfound]

end RuleStore

end CaseAutomation.Deadline
