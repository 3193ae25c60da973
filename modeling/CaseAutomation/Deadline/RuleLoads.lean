import Mathlib.Data.List.Induction
import CaseAutomation.Deadline.YamlRules

/-! # Histories of the Rule Store

    Any sequence of `load` and `register_rule` calls on a new `RuleStore`. Each rule id has one list
    for all jurisdictions, and a version that is in it is not appended a second time: a rule that is
    loaded again after another one, to go back to it, stays behind the other (`last_loaded_iff`).
-/

namespace CaseAutomation.Deadline

open Framework

namespace RuleStore

/-- `versions`. -/
def versions (store : RuleStore) (rule_id : String) : List RuleRef :=
  (store.entries rule_id).map fun (version, rule) =>
    ⟨rule_id, version, rule.jurisdiction, rule.practice_area⟩

/-- `all_rules`. -/
def all_rules (store : RuleStore) (jurisdiction : String) :
    List (String × String × DeadlineRule) :=
  (Dict.entries store).filterMap fun (rule_id, entries) =>
    let matching := entries.filter fun entry => decide (entry.2.jurisdiction = jurisdiction)
    matching.getLast?.map fun (version, rule) => (rule_id, version, rule)

/-! ## What is on top -/

/-- The version that stands last for a jurisdiction. -/
def top (store : RuleStore) (rule_id jurisdiction : String) : Option (String × DeadlineRule) :=
  (store.matching rule_id jurisdiction).getLast?

theorem active_eq_ok_iff (store : RuleStore) (rule_id jurisdiction : String) (rule : DeadlineRule) :
    store.active rule_id jurisdiction = .ok rule ↔
      ∃ version, store.top rule_id jurisdiction = some (version, rule) := by
  unfold active top
  cases (store.matching rule_id jurisdiction).getLast? with
  | none => simp
  | some entry =>
    obtain ⟨version, rule'⟩ := entry
    simp

theorem rule_version_eq_ok_iff (store : RuleStore) (rule_id jurisdiction version : String) :
    store.rule_version rule_id jurisdiction = .ok version ↔
      ∃ rule, store.top rule_id jurisdiction = some (version, rule) := by
  -- the search from the end finds the last match
  have hfind : ((store.entries rule_id).reverse.find? fun entry =>
      decide (entry.2.jurisdiction = jurisdiction)) = (store.matching rule_id jurisdiction).getLast? :=
    List.getLast?_filter.symm
  unfold rule_version active top
  rw [hfind]
  cases (store.matching rule_id jurisdiction).getLast? with
  | none => simp [bind, Except.bind]
  | some entry =>
    obtain ⟨version', rule⟩ := entry
    simp [bind, Except.bind]

/-- `all_rules` lists what is on top of each list. -/
theorem mem_all_rules_iff (store : RuleStore) (rule_id jurisdiction version : String)
    (rule : DeadlineRule) :
    (rule_id, version, rule) ∈ store.all_rules jurisdiction ↔
      store.top rule_id jurisdiction = some (version, rule) := by
  unfold all_rules top matching
  rw [List.mem_filterMap]
  constructor
  · rintro ⟨⟨rule_id', entries⟩, hmem, h⟩
    obtain ⟨⟨version', rule'⟩, hlast, heq⟩ := Option.map_eq_some_iff.mp h
    cases heq
    have hget := Dict.get?_of_mem_entries hmem
    rw [RuleStore.entries, hget]
    exact hlast
  · intro h
    cases hget : Dict.get? store rule_id with
    | none =>
      rw [RuleStore.entries, hget] at h
      cases h
    | some entries =>
      rw [RuleStore.entries, hget] at h
      exact ⟨(rule_id, entries), Dict.mem_entries_of_get? hget, Option.map_eq_some_iff.mpr ⟨_, h, rfl⟩⟩

/-- ... and lists it once. -/
theorem all_rules_nodup (store : RuleStore) (jurisdiction : String) :
    ((store.all_rules jurisdiction).map Prod.fst).Nodup := by
  refine List.Nodup.sublist ?_ store.nodup_keys
  unfold all_rules
  induction Dict.entries store with
  | nil => exact List.Sublist.refl _
  | cons entry entries ih =>
    rw [List.filterMap_cons]
    split
    · exact ih.cons _
    case h_2 listed h =>
      obtain ⟨_, _, heq⟩ := Option.map_eq_some_iff.mp h
      rw [← heq]
      exact ih.cons_cons _

/-- An append puts a version on top if it is new for the rule id, and changes nothing else. -/
theorem top_append (store : RuleStore) (version : String) (rule : DeadlineRule)
    (rule_id jurisdiction : String) :
    (store.append version rule).top rule_id jurisdiction =
      if rule_id = rule.rule_id ∧ jurisdiction = rule.jurisdiction ∧
          ∀ entry ∈ store.entries rule_id, entry.1 ≠ version then some (version, rule)
      else store.top rule_id jurisdiction := by
  unfold top matching
  rw [entries_append]
  by_cases hnew : rule_id = rule.rule_id ∧ ∀ entry ∈ store.entries rule_id, entry.1 ≠ version
  · rw [if_pos hnew, List.filter_append]
    by_cases hjur : jurisdiction = rule.jurisdiction
    · rw [if_pos ⟨hnew.1, hjur, hnew.2⟩]
      simp [hjur]
    · rw [if_neg (fun h => hjur h.2.1)]
      simp [Ne.symm hjur]
  · rw [if_neg hnew, if_neg (fun h => hnew ⟨h.1, h.2.2⟩)]

end RuleStore

/-! ## Histories of calls -/

/-- A call that can change the registry. -/
inductive Registration where
  | load (yaml_content : String)
  | register_rule (rule : DeadlineRule) (version : Option String)

section history
variable (lib : RuleLibrary) (hash : DeadlineRule → String)

/-- The version and the rule of a call that succeeds; `hash` is `_content_hash` of the JSON text of
    a rule. -/
def Registration.outcome : Registration → Except Exn (String × DeadlineRule)
  | .load yaml_content =>
    (parse_and_validate lib yaml_content).map fun rule => (content_hash yaml_content, rule)
  | .register_rule rule version =>
    match version with
    | none => .ok (hash rule, rule)
    | some text => .ok (if text = "" then hash rule else text, rule)

/-- The store after a call. -/
def Registration.apply (store : RuleStore) (reg : Registration) : RuleStore :=
  match reg.outcome lib hash with
  | .ok (version, rule) => store.append version rule
  | .error _ => store

/-- The store after a history of calls. -/
def after (done : List Registration) : RuleStore :=
  done.foldl (Registration.apply lib hash) ∅

/-- The successful calls of a history. -/
def successes (done : List Registration) : List (String × DeadlineRule) :=
  done.filterMap fun reg => (reg.outcome lib hash).toOption

/-- The last successful call for a rule id and a jurisdiction. -/
def last_loaded (done : List Registration) (rule_id jurisdiction : String) :
    Option (String × DeadlineRule) :=
  ((successes lib hash done).filter fun call =>
    decide (call.2.rule_id = rule_id ∧ call.2.jurisdiction = jurisdiction)).getLast?

/-- What is active after a history is what was loaded last, and nothing that was loaded is lost. -/
structure UpToDate (done : List Registration) : Prop where
  active : ∀ rule_id jurisdiction version rule,
    last_loaded lib hash done rule_id jurisdiction = some (version, rule) →
      (after lib hash done).active rule_id jurisdiction = .ok rule ∧
        (after lib hash done).rule_version rule_id jurisdiction = .ok version
  listed : ∀ rule_id jurisdiction version rule,
    (rule_id, version, rule) ∈ (after lib hash done).all_rules jurisdiction ↔
      last_loaded lib hash done rule_id jurisdiction = some (version, rule)
  listed_once : ∀ jurisdiction, (((after lib hash done).all_rules jurisdiction).map Prod.fst).Nodup
  versions : ∀ call ∈ successes lib hash done,
    ∃ ref ∈ (after lib hash done).versions call.2.rule_id, ref.rule_version = call.1
  versions_stay : ∀ earlier, earlier <+: done → ∀ rule_id,
    (after lib hash earlier).versions rule_id <+: (after lib hash done).versions rule_id

/-- A call whose version is new for its rule id, or repeats the last call for its rule id and
    jurisdiction. -/
def Forward (done : List Registration) (call : String × DeadlineRule) : Prop :=
  (∀ earlier ∈ successes lib hash done,
      earlier.2.rule_id = call.2.rule_id → earlier.1 ≠ call.1) ∨
    last_loaded lib hash done call.2.rule_id call.2.jurisdiction = some call

end history

section up_to_date
variable {lib : RuleLibrary} {hash : DeadlineRule → String}

/-- The calls are those of the store. -/
theorem apply_load (store : RuleStore) (yaml_content : String) :
    (Registration.load yaml_content).apply lib hash store = (store.load lib yaml_content).2 := by
  simp only [Registration.apply, Registration.outcome, RuleStore.load]
  cases parse_and_validate lib yaml_content with
  | ok rule => rfl
  | error exc => rfl

theorem apply_register_rule (store : RuleStore) (rule : DeadlineRule) :
    (Registration.register_rule rule none).apply lib hash store = store.register_rule hash rule :=
  rfl

theorem after_append_one (done : List Registration) (reg : Registration) :
    after lib hash (done ++ [reg]) = reg.apply lib hash (after lib hash done) := by
  unfold after
  rw [List.foldl_append]
  rfl

theorem successes_append_one (done : List Registration) (reg : Registration) :
    successes lib hash (done ++ [reg]) =
      successes lib hash done ++ (reg.outcome lib hash).toOption.toList := by
  unfold successes
  rw [List.filterMap_append]
  cases h : (reg.outcome lib hash).toOption with
  | none => simp [h]
  | some call => simp [h]

/-- A call changes what was loaded last for its own rule id and jurisdiction only. -/
theorem last_loaded_append_one (done : List Registration) (reg : Registration)
    (rule_id jurisdiction : String) :
    last_loaded lib hash (done ++ [reg]) rule_id jurisdiction =
      match reg.outcome lib hash with
      | .ok call =>
        if rule_id = call.2.rule_id ∧ jurisdiction = call.2.jurisdiction then some call
        else last_loaded lib hash done rule_id jurisdiction
      | .error _ => last_loaded lib hash done rule_id jurisdiction := by
  unfold last_loaded
  rw [successes_append_one]
  cases reg.outcome lib hash with
  | error exc => simp [Except.toOption]
  | ok call =>
    by_cases h : rule_id = call.2.rule_id ∧ jurisdiction = call.2.jurisdiction
    · simp [Except.toOption, h.1, h.2]
    · have hother : ¬(call.2.rule_id = rule_id ∧ call.2.jurisdiction = jurisdiction) :=
        fun hsame => h ⟨hsame.1.symm, hsame.2.symm⟩
      simp only [Except.toOption, Option.toList, List.filter_append]
      rw [if_neg h, List.filter_singleton]
      simp [hother]

/-- The versions of a rule id are those of its calls. -/
theorem mem_entries_after_iff (done : List Registration) (rule_id version : String) :
    (∃ entry ∈ (after lib hash done).entries rule_id, entry.1 = version) ↔
      ∃ call ∈ successes lib hash done, call.2.rule_id = rule_id ∧ call.1 = version := by
  -- over the calls, from the last one
  induction done using List.reverseRecOn with
  | nil => simp [after, successes, RuleStore.entries]
  | append_singleton done reg ih =>
    rw [after_append_one, successes_append_one]
    unfold Registration.apply
    cases reg.outcome lib hash with
    | error exc => simpa [Except.toOption] using ih
    | ok call =>
      obtain ⟨version', rule⟩ := call
      simp only [Except.toOption, Option.toList, List.mem_append, List.mem_singleton]
      rw [RuleStore.entries_append]
      by_cases hnew : rule_id = rule.rule_id ∧
          ∀ entry ∈ (after lib hash done).entries rule_id, entry.1 ≠ version'
      · rw [if_pos hnew]
        simp only [List.mem_append, List.mem_singleton, or_and_right, exists_or, ih]
        simp [hnew.1, eq_comm]
      · rw [if_neg hnew, ih]
        simp only [or_and_right, exists_or]
        refine ⟨.inl, ?_⟩
        rintro (h | ⟨_, rfl, hid, hversion⟩)
        · exact h
        -- a version that was not appended is one of an earlier call
        · push Not at hnew
          obtain ⟨entry, hmem, heq⟩ := hnew hid.symm
          exact ih.mp ⟨entry, hmem, heq.trans hversion⟩

/-- A later call never takes a version away. -/
theorem entries_prefix_after {earlier done : List Registration} (h : earlier <+: done)
    (rule_id : String) :
    (after lib hash earlier).entries rule_id <+: (after lib hash done).entries rule_id := by
  obtain ⟨rest, rfl⟩ := h
  induction rest using List.reverseRecOn with
  | nil =>
    simp only [List.append_nil]
    exact List.prefix_refl _
  | append_singleton rest reg ih =>
    refine ih.trans ?_
    rw [← List.append_assoc, after_append_one]
    unfold Registration.apply
    split
    · rw [RuleStore.entries_append]
      split
      · exact List.prefix_append _ _
      · exact List.prefix_refl _
    · exact List.prefix_refl _

/-- The history is up to date if and only if what is on top is what was loaded last. -/
theorem up_to_date_iff_top (done : List Registration) :
    UpToDate lib hash done ↔ ∀ rule_id jurisdiction,
      (after lib hash done).top rule_id jurisdiction =
        last_loaded lib hash done rule_id jurisdiction := by
  constructor
  · intro h rule_id jurisdiction
    apply Option.ext
    rintro ⟨version, rule⟩
    rw [← h.listed, RuleStore.mem_all_rules_iff]
  · intro h
    refine ⟨?_, ?_, fun jurisdiction => RuleStore.all_rules_nodup _ jurisdiction, ?_, ?_⟩
    · intro rule_id jurisdiction version rule hlast
      rw [← h] at hlast
      exact ⟨(RuleStore.active_eq_ok_iff _ _ _ _).mpr ⟨version, hlast⟩,
        (RuleStore.rule_version_eq_ok_iff _ _ _ _).mpr ⟨rule, hlast⟩⟩
    · intro rule_id jurisdiction version rule
      rw [RuleStore.mem_all_rules_iff, h]
    · intro call hcall
      obtain ⟨entry, hmem, heq⟩ :=
        (mem_entries_after_iff done call.2.rule_id call.1).mpr ⟨call, hcall, rfl, rfl⟩
      exact ⟨_, List.mem_map_of_mem hmem, heq⟩
    · intro earlier hprefix rule_id
      exact (entries_prefix_after hprefix rule_id).map _

/-- One more call keeps a history up to date if and only if it is forward. -/
theorem up_to_date_append_one_iff {done : List Registration} (h : UpToDate lib hash done)
    (reg : Registration) :
    UpToDate lib hash (done ++ [reg]) ↔
      ∀ call, reg.outcome lib hash = .ok call → Forward lib hash done call := by
  rw [up_to_date_iff_top] at h ⊢
  simp only [last_loaded_append_one, after_append_one]
  unfold Registration.apply
  cases reg.outcome lib hash with
  | error exc => simp [h]
  | ok call =>
    obtain ⟨version, rule⟩ := call
    simp only [RuleStore.top_append, h]
    have hnew : (∀ entry ∈ (after lib hash done).entries rule.rule_id, entry.1 ≠ version) ↔
        ∀ earlier ∈ successes lib hash done, earlier.2.rule_id = rule.rule_id →
          earlier.1 ≠ version := by
      have hmem := @mem_entries_after_iff lib hash done rule.rule_id version
      constructor
      · intro hall earlier hearlier hid heq
        obtain ⟨entry, hentry, hversion⟩ := hmem.mpr ⟨earlier, hearlier, hid, heq⟩
        exact hall entry hentry hversion
      · intro hall entry hentry heq
        obtain ⟨earlier, hearlier, hid, hversion⟩ := hmem.mp ⟨entry, hentry, heq⟩
        exact hall earlier hearlier hid hversion
    constructor
    · intro htop call heq
      cases heq
      by_cases hfresh : ∀ entry ∈ (after lib hash done).entries rule.rule_id, entry.1 ≠ version
      · exact .inl (hnew.mp hfresh)
      · have hthis := htop rule.rule_id rule.jurisdiction
        rw [if_neg (fun hc => hfresh hc.2.2), if_pos ⟨rfl, rfl⟩] at hthis
        exact .inr hthis
    · intro hforward rule_id jurisdiction
      by_cases hsame : rule_id = rule.rule_id ∧ jurisdiction = rule.jurisdiction
      · obtain ⟨rfl, rfl⟩ := hsame
        rcases hforward _ rfl with hfresh | hlast
        · rw [if_pos ⟨rfl, rfl, hnew.mpr hfresh⟩, if_pos ⟨rfl, rfl⟩]
        · have hthis : last_loaded lib hash done rule.rule_id rule.jurisdiction =
              some (version, rule) := hlast
          rw [hthis, ite_self, if_pos ⟨rfl, rfl⟩]
      · rw [if_neg hsame, if_neg (fun hc => hsame ⟨hc.1, hc.2.1⟩)]

end up_to_date

/-- What is active is what was loaded last, through a whole history, if and only if no call brings
    back a version that another one has followed. -/
theorem last_loaded_iff (lib : RuleLibrary) (hash : DeadlineRule → String)
    (history : List Registration) :
    (∀ done, done <+: history → UpToDate lib hash done) ↔
      ∀ done reg call, done ++ [reg] <+: history → reg.outcome lib hash = .ok call →
        Forward lib hash done call := by
  constructor
  · intro h done reg call hprefix houtcome
    have hdone : UpToDate lib hash done := h done ((List.prefix_append done [reg]).trans hprefix)
    exact (up_to_date_append_one_iff hdone reg).mp (h _ hprefix) call houtcome
  · intro h done hprefix
    induction done using List.reverseRecOn with
    | nil =>
      rw [up_to_date_iff_top]
      intro rule_id jurisdiction
      rfl
    | append_singleton done reg ih =>
      have hdone : UpToDate lib hash done := ih ((List.prefix_append done [reg]).trans hprefix)
      exact (up_to_date_append_one_iff hdone reg).mpr fun call => h done reg call hprefix

/-- Twenty-one days to answer, then thirty, then twenty-one again. -/
def back_to_first : List Registration :=
  let answer (days : Int) : DeadlineRule := {
    rule_id := "answer"
    jurisdiction := "US"
    practice_area := none
    trigger := "filing_date"
    offset := ⟨days, 0, 0, 0, 0⟩
    adjust := .next_business_day
    calendar_id := "us_federal"
    reminders := []
    escalation := []
    description := ""
    assumption_unconfirmed := true }
  [.register_rule (answer 21) (some "v1"), .register_rule (answer 30) (some "v2"),
    .register_rule (answer 21) (some "v1")]

/-- The second rule stays active although the first was loaded after it. -/
theorem rollback_ignored :
    ¬∀ (lib : RuleLibrary) (hash : DeadlineRule → String) (history : List Registration),
      UpToDate lib hash history := by
  intro h
  have htop := (up_to_date_iff_top back_to_first).mp (h plain_rules (fun _ => "") back_to_first)
  have hversions : ((after plain_rules (fun _ => "") back_to_first).top "answer" "US").map Prod.fst =
        some "v2" ∧
      (last_loaded plain_rules (fun _ => "") back_to_first "answer" "US").map Prod.fst =
        some "v1" := by
    decide +kernel
  rw [htop, hversions.2] at hversions
  exact absurd hversions.1 (by decide)

end CaseAutomation.Deadline
