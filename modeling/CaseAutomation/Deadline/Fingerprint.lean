import CaseAutomation.Deadline.RuleLoads
import CaseAutomation.Framework.Joined
import Mathlib.Data.String.Basic

/-! # The Fingerprint of the Rules

    `deadline-rules://{jurisdiction}` of `deadline/resources.py`: the active rules of a jurisdiction, and
    one hash over their versions. The versions are sorted before they are hashed, so the order in which
    the rules were loaded does not show. What does show is which rules are active:
    two servers that publish one fingerprint compute with the same rules (`same_fingerprint_iff`), as long
    as no hash collides and no version that was given by hand has a comma in it.
-/

namespace CaseAutomation.Deadline

open Framework Security

/-! ## The resource -/

/-- A row of the resource. -/
structure RuleRow where
  rule_id : String
  rule_version : String
  description : String
  assumption_unconfirmed : Bool
  trigger : String
  adjust : Adjust
  calendar_id : String

structure RulesResource where
  jurisdiction : String
  rules : List RuleRow
  aggregate_version : String

/-- `",".join(sorted(versions))`. -/
def joined_versions (versions : List String) : String :=
  ",".intercalate (versions.mergeSort fun a b => decide (a ≤ b))

/-- `_aggregate_version`, after the versions have been joined. -/
def joined_hash (joined : String) : String := slice_to (hexdigest (sha256 (encode_utf8 joined))) 12

/-- `_aggregate_version`. -/
def aggregate_version (versions : List String) : String := joined_hash (joined_versions versions)

def rule_row (rule_id version : String) (rule : DeadlineRule) : RuleRow where
  rule_id := rule_id
  rule_version := version
  description := rule.description
  assumption_unconfirmed := rule.assumption_unconfirmed
  trigger := rule.trigger
  adjust := rule.adjust
  calendar_id := rule.calendar_id

/-- `resource_deadline_rules`. -/
def resource_deadline_rules (store : RuleStore) (jurisdiction : String) : RulesResource :=
  let rules := store.all_rules jurisdiction
  { jurisdiction := jurisdiction
    rules := rules.map fun (rule_id, version, rule) => rule_row rule_id version rule
    aggregate_version := aggregate_version (rules.map fun entry => entry.2.1) }

/-! ## Versions -/

/-- A version that a list of versions can be told from. -/
def Separable (version : String) : Prop := version ≠ "" ∧ ',' ∉ version.toList

instance (version : String) : Decidable (Separable version) :=
  inferInstanceAs (Decidable (version ≠ "" ∧ ',' ∉ version.toList))

/-- The version is the one of the content, or has no comma. -/
def Registration.Plain : Registration → Prop
  | .load _ => True
  | .register_rule _ version => ∀ text ∈ version, ',' ∉ text.toList

instance (reg : Registration) : Decidable reg.Plain :=
  match reg with
  | .load _ => inferInstanceAs (Decidable True)
  | .register_rule _ none => isTrue fun _ h => absurd h (by simp)
  | .register_rule _ (some text) => decidable_of_iff (',' ∉ text.toList) (by simp [Registration.Plain])

theorem hex_digit_ne_comma : ∀ n < 16, hex_digit n ≠ ',' := by decide

/-- A hash of a content is made of hex digits. -/
theorem content_hash_separable (text : String) : Separable (content_hash text) := by
  have hlength : (hexdigest (sha256 (encode_utf8 text))).toList.length = 64 := by
    simp [hexdigest, sha256, word_bytes]
  constructor
  · intro hempty
    have hnil := congrArg String.toList hempty
    rw [content_hash, slice_to, String.toList_ofList] at hnil
    have hzero := congrArg List.length hnil
    rw [List.length_take, hlength] at hzero
    simp at hzero
  · intro hcomma
    rw [content_hash, slice_to, String.toList_ofList] at hcomma
    have hdigest := List.mem_of_mem_take hcomma
    rw [hexdigest, String.toList_ofList, List.mem_flatMap] at hdigest
    obtain ⟨b, -, hb⟩ := hdigest
    have hlt := b.toNat_lt
    rcases List.mem_cons.mp hb with hhigh | hlow
    · exact hex_digit_ne_comma _ (by omega) hhigh.symm
    · exact hex_digit_ne_comma _ (by omega) (List.mem_singleton.mp hlow).symm

section sorting
variable {xs ys : List String}

theorem sorted_versions_pairwise (xs : List String) :
    (xs.mergeSort fun a b => decide (a ≤ b)).Pairwise (· ≤ ·) := by
  have hle : (xs.mergeSort fun a b => decide (a ≤ b)).Pairwise fun a b => decide (a ≤ b) = true := by
    refine List.pairwise_mergeSort ?_ ?_ xs
    · intro a b c hab hbc
      exact decide_eq_true (le_trans (of_decide_eq_true hab) (of_decide_eq_true hbc))
    · intro a b
      simpa using le_total a b
  exact hle.imp fun h => of_decide_eq_true h

/-- The joined text tells the versions up to their order, and nothing else. -/
theorem joined_versions_eq_iff (hxs : ∀ x ∈ xs, Separable x) (hys : ∀ y ∈ ys, Separable y) :
    joined_versions xs = joined_versions ys ↔ xs.Perm ys := by
  have hsorted : ∀ zs : List String, (zs.mergeSort fun a b => decide (a ≤ b)).Perm zs :=
    fun zs => List.mergeSort_perm zs _
  constructor
  · intro h
    have hlist := congrArg String.toList h
    unfold joined_versions at hlist
    rw [String.toList_intercalate, String.toList_intercalate] at hlist
    have hfields : ∀ {zs : List String}, (∀ z ∈ zs, Separable z) →
        ∀ field ∈ (zs.mergeSort fun a b => decide (a ≤ b)).map String.toList, field ≠ [] ∧ ',' ∉ field := by
      intro zs hzs field hfield
      obtain ⟨z, hz, rfl⟩ := List.mem_map.mp hfield
      obtain ⟨hne, hcomma⟩ := hzs z ((hsorted zs).mem_iff.mp hz)
      exact ⟨fun hnil => hne (String.toList_inj.mp hnil), hcomma⟩
    have hsame := joined_inj ',' (hfields hxs) (hfields hys) hlist
    have hmap : Function.Injective (List.map String.toList) :=
      List.map_injective_iff.mpr fun _ _ => String.toList_inj.mp
    have hboth := hsorted ys
    rw [← hmap hsame] at hboth
    exact (hsorted xs).symm.trans hboth
  · intro hperm
    have hsame : (xs.mergeSort fun a b => decide (a ≤ b)) = ys.mergeSort fun a b => decide (a ≤ b) :=
      List.Perm.eq_of_pairwise (fun a b _ _ hab hba => le_antisymm hab hba)
        (sorted_versions_pairwise xs) (sorted_versions_pairwise ys)
        (((hsorted xs).trans hperm).trans (hsorted ys).symm)
    unfold joined_versions
    rw [hsame]

end sorting

/-! ## Histories -/

/-- No two different rules have one version. -/
def OneRuleEach (calls : List (String × DeadlineRule)) : Prop :=
  ∀ call ∈ calls, ∀ call' ∈ calls, call.1 = call'.1 → call.2 = call'.2

section history
variable {lib : RuleLibrary} {dump : DeadlineRule → String} {done done' : List Registration}

/-- The hash of the JSON text of a rule. -/
abbrev dump_hash (dump : DeadlineRule → String) (rule : DeadlineRule) : String :=
  content_hash (dump rule)

/-- What a history has left in a list was registered, under the id of the rule. -/
theorem mem_successes_of_entry {hash : DeadlineRule → String} {rule_id : String}
    {entry : String × DeadlineRule} (h : entry ∈ (after lib hash done).entries rule_id) :
    entry ∈ successes lib hash done ∧ entry.2.rule_id = rule_id := by
  -- over the calls, from the last one
  induction done using List.reverseRecOn with
  | nil => simp [after, RuleStore.entries] at h
  | append_singleton done reg ih =>
    rw [after_append_one] at h
    rw [successes_append_one, List.mem_append]
    unfold Registration.apply at h
    cases hcall : reg.outcome lib hash with
    | error exc =>
      rw [hcall] at h
      obtain ⟨hmem, hid⟩ := ih h
      exact ⟨.inl hmem, hid⟩
    | ok call =>
      obtain ⟨version, rule⟩ := call
      rw [hcall] at h
      simp only [RuleStore.entries_append] at h
      split at h
      · next hnew =>
        rcases List.mem_append.mp h with hold | hadded
        · obtain ⟨hmem, hid⟩ := ih hold
          exact ⟨.inl hmem, hid⟩
        · obtain rfl := List.mem_singleton.mp hadded
          exact ⟨.inr (by simp [Except.toOption]), hnew.1.symm⟩
      · obtain ⟨hmem, hid⟩ := ih h
        exact ⟨.inl hmem, hid⟩

/-- The versions of plain registrations can be told apart in a list. -/
theorem separable_of_plain (hplain : ∀ reg ∈ done, reg.Plain) {call : String × DeadlineRule}
    (h : call ∈ successes lib (dump_hash dump) done) : Separable call.1 := by
  obtain ⟨reg, hreg, houtcome⟩ := List.mem_filterMap.mp h
  have hthis := hplain reg hreg
  cases reg with
  | load yaml_content =>
    unfold Registration.outcome at houtcome
    cases hparse : parse_and_validate lib yaml_content with
    | error exc => simp [hparse, Except.map, Except.toOption] at houtcome
    | ok rule =>
      simp only [hparse, Except.map, Except.toOption, Option.some.injEq] at houtcome
      rw [← houtcome]
      exact content_hash_separable yaml_content
  | register_rule rule version =>
    cases version with
    | none =>
      simp only [Registration.outcome, Except.toOption, Option.some.injEq] at houtcome
      rw [← houtcome]
      exact content_hash_separable (dump rule)
    | some text =>
      simp only [Registration.outcome, Except.toOption, Option.some.injEq] at houtcome
      rw [← houtcome]
      by_cases hempty : text = ""
      · rw [if_pos hempty]
        exact content_hash_separable (dump rule)
      · rw [if_neg hempty]
        exact ⟨hempty, hthis text rfl⟩

/-- What is listed has been registered. -/
theorem registered_of_listed {hash : DeadlineRule → String} {jurisdiction rule_id version : String}
    {rule : DeadlineRule}
    (h : (rule_id, version, rule) ∈ (after lib hash done).all_rules jurisdiction) :
    (version, rule) ∈ successes lib hash done ∧ rule.rule_id = rule_id := by
  rw [RuleStore.mem_all_rules_iff, RuleStore.top] at h
  exact mem_successes_of_entry (List.mem_filter.mp (List.mem_of_getLast? h)).1

end history

/-! ## The same rules -/

/-- Two stores give the same rule and version for every id of a jurisdiction, or none. -/
def SameRules (store store' : RuleStore) (jurisdiction : String) : Prop :=
  ∀ rule_id, store.active rule_id jurisdiction = store'.active rule_id jurisdiction ∧
    store.rule_version rule_id jurisdiction = store'.rule_version rule_id jurisdiction

/-- The versions of the rules that are listed. -/
def listed_versions (store : RuleStore) (jurisdiction : String) : List String :=
  (store.all_rules jurisdiction).map fun entry => entry.2.1

section same
variable {store store' : RuleStore} {rule_id jurisdiction : String}

/-- Only what is on top decides the version. -/
theorem rule_version_of_top (store : RuleStore) (rule_id jurisdiction : String) :
    store.rule_version rule_id jurisdiction =
      (store.active rule_id jurisdiction).bind fun _ =>
        .ok (((store.top rule_id jurisdiction).map Prod.fst).getD "") := by
  cases hactive : store.active rule_id jurisdiction with
  | error exc =>
    unfold RuleStore.rule_version
    rw [hactive]
    rfl
  | ok rule =>
    obtain ⟨version, htop⟩ := (RuleStore.active_eq_ok_iff _ _ _ _).mp hactive
    rw [(RuleStore.rule_version_eq_ok_iff _ _ _ version).mpr ⟨rule, htop⟩, htop]
    rfl

theorem same_top_iff :
    store.top rule_id jurisdiction = store'.top rule_id jurisdiction ↔
      store.active rule_id jurisdiction = store'.active rule_id jurisdiction ∧
        store.rule_version rule_id jurisdiction = store'.rule_version rule_id jurisdiction := by
  constructor
  · intro htop
    have hactive : store.active rule_id jurisdiction = store'.active rule_id jurisdiction := by
      have hlast : (store.matching rule_id jurisdiction).getLast? =
          (store'.matching rule_id jurisdiction).getLast? := htop
      unfold RuleStore.active
      rw [hlast]
    refine ⟨hactive, ?_⟩
    rw [rule_version_of_top, rule_version_of_top, hactive, htop]
  · intro hsame
    apply Option.ext
    intro entry
    have hgives : ∀ s : RuleStore, s.top rule_id jurisdiction = some entry ↔
        s.rule_version rule_id jurisdiction = .ok entry.1 ∧
          s.active rule_id jurisdiction = .ok entry.2 := by
      intro s
      rw [RuleStore.rule_version_eq_ok_iff, RuleStore.active_eq_ok_iff]
      constructor
      · intro htop
        exact ⟨⟨_, htop⟩, ⟨_, htop⟩⟩
      · intro hboth
        obtain ⟨⟨rule, hrule⟩, version, hversion⟩ := hboth
        have heq := Option.some.inj (hrule.symm.trans hversion)
        rw [hversion, ← (Prod.mk.inj heq).1]
    rw [hgives store, hgives store', hsame.1, hsame.2]

/-- The same rules are active if and only if the same are listed, in whatever order. -/
theorem same_rules_iff_perm :
    SameRules store store' jurisdiction ↔
      (store.all_rules jurisdiction).Perm (store'.all_rules jurisdiction) := by
  have hnodup : ∀ s : RuleStore, (s.all_rules jurisdiction).Nodup :=
    fun s => List.Nodup.of_map _ (RuleStore.all_rules_nodup s jurisdiction)
  rw [List.perm_ext_iff_of_nodup (hnodup store) (hnodup store')]
  constructor
  · intro hsame entry
    rw [RuleStore.mem_all_rules_iff, RuleStore.mem_all_rules_iff, same_top_iff.mpr (hsame entry.1)]
  · intro hmem rule_id
    refine same_top_iff.mp (Option.ext fun entry => ?_)
    have hentry := hmem (rule_id, entry.1, entry.2)
    rw [RuleStore.mem_all_rules_iff, RuleStore.mem_all_rules_iff] at hentry
    exact hentry

end same

/-- If every version is that of one rule, a list of rules is told by its versions. -/
theorem listed_of_versions {lib : RuleLibrary} {hash : DeadlineRule → String}
    {done done' : List Registration} {jurisdiction : String}
    (hone : OneRuleEach (successes lib hash (done ++ done')))
    (hversions : ∀ version, version ∈ listed_versions (after lib hash done) jurisdiction →
      version ∈ listed_versions (after lib hash done') jurisdiction)
    {entry : String × String × DeadlineRule}
    (h : entry ∈ (after lib hash done).all_rules jurisdiction) :
    entry ∈ (after lib hash done').all_rules jurisdiction := by
  obtain ⟨rule_id, version, rule⟩ := entry
  obtain ⟨⟨rule_id', version', rule'⟩, hlisted, hversion⟩ :=
    List.mem_map.mp (hversions version (List.mem_map.mpr ⟨_, h, rfl⟩))
  obtain rfl : version' = version := hversion
  obtain ⟨hcall, rfl⟩ := registered_of_listed h
  obtain ⟨hcall', rfl⟩ := registered_of_listed hlisted
  have hsuccesses : successes lib hash (done ++ done') =
      successes lib hash done ++ successes lib hash done' := List.filterMap_append
  rw [hsuccesses] at hone
  obtain rfl : rule = rule' :=
    hone _ (List.mem_append_left _ hcall) _ (List.mem_append_right _ hcall') rfl
  exact hlisted

/-- The texts of two lists of versions have no common hash, unless they are one text. -/
def NoCollision (xs ys : List String) : Prop :=
  joined_hash (joined_versions xs) = joined_hash (joined_versions ys) →
    joined_versions xs = joined_versions ys

/-- **The fingerprint tells the rules.** Two servers, after any histories of loads and registrations that
    succeed or fail, publish one aggregate version if and only if they give the same rule and version for
    every id of the jurisdiction. It is enough that the two hashes do not collide, that no two rules were
    registered under one version, and that no version given by hand has a comma. -/
theorem same_fingerprint_iff (lib : RuleLibrary) (dump : DeadlineRule → String)
    (done done' : List Registration) (jurisdiction : String)
    (hplain : ∀ reg ∈ done ++ done', reg.Plain)
    (hone : OneRuleEach (successes lib (dump_hash dump) (done ++ done')))
    (hhash : NoCollision (listed_versions (after lib (dump_hash dump) done) jurisdiction)
      (listed_versions (after lib (dump_hash dump) done') jurisdiction)) :
    (resource_deadline_rules (after lib (dump_hash dump) done) jurisdiction).aggregate_version =
        (resource_deadline_rules (after lib (dump_hash dump) done') jurisdiction).aggregate_version ↔
      SameRules (after lib (dump_hash dump) done) (after lib (dump_hash dump) done') jurisdiction := by
  have hseparable : ∀ history : List Registration, (∀ reg ∈ history, reg ∈ done ++ done') →
      ∀ version ∈ listed_versions (after lib (dump_hash dump) history) jurisdiction,
        Separable version := by
    intro history hhistory version hversion
    obtain ⟨⟨rule_id, version, rule⟩, hlisted, rfl⟩ := List.mem_map.mp hversion
    exact separable_of_plain (fun reg hreg => hplain reg (hhistory reg hreg))
      (registered_of_listed hlisted).1
  have hjoined := joined_versions_eq_iff (hseparable done fun _ => List.mem_append_left _)
    (hseparable done' fun _ => List.mem_append_right _)
  rw [same_rules_iff_perm]
  constructor
  · intro hsame
    have hversions := hjoined.mp (hhash hsame)
    -- each listed rule is the one registered under its version, on both servers
    have hone' : OneRuleEach (successes lib (dump_hash dump) (done' ++ done)) := by
      have hswap : ∀ call ∈ successes lib (dump_hash dump) (done' ++ done),
          call ∈ successes lib (dump_hash dump) (done ++ done') := by
        intro call hcall
        have hperm : (successes lib (dump_hash dump) (done' ++ done)).Perm
            (successes lib (dump_hash dump) (done ++ done')) :=
          List.Perm.filterMap _ List.perm_append_comm
        exact hperm.mem_iff.mp hcall
      exact fun call hcall call' hcall' => hone call (hswap call hcall) call' (hswap call' hcall')
    have hnodup : ∀ s : RuleStore, (s.all_rules jurisdiction).Nodup :=
      fun s => List.Nodup.of_map _ (RuleStore.all_rules_nodup s jurisdiction)
    rw [List.perm_ext_iff_of_nodup (hnodup _) (hnodup _)]
    intro entry
    constructor
    · exact listed_of_versions hone fun version => hversions.mem_iff.mp
    · exact listed_of_versions hone' fun version => hversions.mem_iff.mpr
  · intro hperm
    have hversions : (listed_versions (after lib (dump_hash dump) done) jurisdiction).Perm
        (listed_versions (after lib (dump_hash dump) done') jurisdiction) := hperm.map _
    exact congrArg joined_hash (hjoined.mpr hversions)

/-- Three weeks from the filing. -/
def three_weeks (rule_id : String) : DeadlineRule where
  rule_id := rule_id
  jurisdiction := "US"
  practice_area := none
  trigger := "filing_date"
  offset := ⟨21, 0, 0, 0, 0⟩
  adjust := .next_business_day
  calendar_id := "us_federal"
  reminders := []
  escalation := []
  description := ""
  assumption_unconfirmed := true

def answer_then_reply : List Registration :=
  [.register_rule (three_weeks "answer") (some "v1"), .register_rule (three_weeks "reply") (some "v2")]

/-- Two servers that loaded the same rules in different orders agree on every rule. -/
theorem order_does_not_show :
    SameRules (after plain_rules (dump_hash fun _ => "") answer_then_reply)
      (after plain_rules (dump_hash fun _ => "") answer_then_reply.reverse) "US" := by
  have hlisted : listed_versions (after plain_rules (dump_hash fun _ => "") answer_then_reply) "US" =
      ["v1", "v2"] := by decide +kernel
  have hlisted' : listed_versions (after plain_rules (dump_hash fun _ => "") answer_then_reply.reverse)
      "US" = ["v2", "v1"] := by decide +kernel
  have hplain : ∀ version ∈ ["v1", "v2"], Separable version := by decide
  have hplain' : ∀ version ∈ ["v2", "v1"], Separable version := by decide
  have hsame : joined_versions ["v1", "v2"] = joined_versions ["v2", "v1"] :=
    (joined_versions_eq_iff hplain hplain').mpr (List.Perm.swap _ _ _)
  have hone : OneRuleEach (successes plain_rules (dump_hash fun _ => "")
      (answer_then_reply ++ answer_then_reply.reverse)) := by
    intro call hcall call' hcall' hversion
    have hcalls : ∀ c ∈ successes plain_rules (dump_hash fun _ => "")
        (answer_then_reply ++ answer_then_reply.reverse),
        c = ("v1", three_weeks "answer") ∨ c = ("v2", three_weeks "reply") := by
      simp [successes, answer_then_reply, Registration.outcome, Except.toOption]
    rcases hcalls call hcall with rfl | rfl
    · rcases hcalls call' hcall' with rfl | rfl
      · rfl
      · exact absurd hversion (by decide)
    · rcases hcalls call' hcall' with rfl | rfl
      · exact absurd hversion (by decide)
      · rfl
  refine (same_fingerprint_iff plain_rules (fun _ => "") answer_then_reply answer_then_reply.reverse
    "US" (by decide) hone ?_).mp ?_
  · rw [NoCollision, hlisted, hlisted']
    exact fun _ => hsame
  · show aggregate_version (listed_versions _ "US") = aggregate_version (listed_versions _ "US")
    rw [hlisted, hlisted']
    exact congrArg joined_hash hsame

end CaseAutomation.Deadline
