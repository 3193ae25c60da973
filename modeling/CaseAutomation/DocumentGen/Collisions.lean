import CaseAutomation.DocumentGen.Histories

/-! # Colliding Keys

    Calls of `store_document` and of `tool_document_generate` on one ledger, one after the other. A
    key is recorded with the checksum of its content, and `record_idem` refuses another checksum.

    Both entry points look the key up first and return what they find, so a call whose key is
    recorded never reaches the comparison: it returns the earlier document, whatever it rendered
    (`collision_replayed`).
-/

namespace CaseAutomation.DocumentGen

open Framework Program Domain

/-! ## Calls -/

/-- A call of either entry point. -/
inductive Entrance where
  | store (request : StoreRequest)
  | generate (request : GenerateRequest)

/-- What it returns or raises. -/
inductive Answer where
  | stored (r : Except Exn Document)
  | generated (r : Except Exn GenerationResult)

namespace Entrance

/-- The key of a call; none where its template is not found. -/
def key (platform : Platform) : Entrance → Option String
  | .store request => some request.idem_key
  | .generate request => request_key platform request

/-- The checksum of the content of a call, if it renders. -/
def checksum (platform : Platform) : Entrance → Option String
  | .store request => some request.rendered_checksum
  | .generate request => (request_content platform request).map DocumentGen.checksum

/-- The call, carried out. -/
def run (env : Env) : Entrance → World → Answer × World
  | .store request, w =>
    let (r, w') := (store_document request).run (exec env) w
    (.stored r, w')
  | .generate request, w =>
    let (r, w') := (tool_document_generate env.platform request).run (exec env) w
    (.generated r, w')

end Entrance

/-- A call that was made. -/
structure Made where
  entrance : Entrance
  before : World
  answer : Answer
  after : World

/-- The calls so far, the latest first, and the state they leave. -/
inductive Journal (env : Env) : List Made → World → Prop where
  | start (w : World) : w.ledger = .empty → w.puts = [] → Journal env [] w
  | next {log : List Made} {w : World} (entrance : Entrance) : Journal env log w →
      Journal env (⟨entrance, w, (entrance.run env w).1, (entrance.run env w).2⟩ :: log)
        (entrance.run env w).2

/-- The key is recorded with another checksum. -/
def Made.Collides (platform : Platform) (made : Made) : Prop :=
  ∃ key recorded rendered, made.entrance.key platform = some key ∧
    made.before.ledger.idem_checksums.get? key = some recorded ∧
    made.entrance.checksum platform = some rendered ∧ recorded ≠ rendered

/-- The answer is a refusal. -/
def Answer.IsRefusal : Answer → Prop
  | .stored r => ∃ e, r = .error e ∧ e.class_name = "VersionCollisionError"
  | .generated r => ∃ result, r = .ok result ∧ result.status = .failed ∧ result.document = none

/-- The call is refused, and nothing has changed. -/
structure Made.Refused (made : Made) : Prop where
  answer : made.answer.IsRefusal
  ledger : made.after.ledger = made.before.ledger
  puts : made.after.puts = made.before.puts
  docstore_calls : made.after.docstore_calls = made.before.docstore_calls

/-- The answer is this document, as the call's own result. -/
def Answer.Hands (doc : Document) : Answer → Prop
  | .stored r => r = .ok doc
  | .generated r => ∃ result, r = .ok result ∧ result.status = .ready ∧ result.document = some doc

section collisions
variable {env : Env} {log : List Made} {w w' : World} {made : Made} {idem_key : String}
  {existing : Document}

/-! ## A recorded key -/

/-- A key with a checksum has a document. -/
theorem document_of_checksum {ledger : InMemoryVersionLedger} {recorded : String}
    (h : ledger.idem_checksums.get? idem_key = some recorded) :
    ∃ existing, ledger.lookup_idem idem_key = some existing := by
  cases hlookup : ledger.lookup_idem idem_key with
  | some existing => exact ⟨existing, rfl⟩
  | none =>
    have hnone := (ledger.paired idem_key).mp hlookup
    rw [h] at hnone
    cases hnone

/-- `store_document` returns what it finds. -/
theorem run_store_found {request : StoreRequest}
    (h : w.ledger.lookup_idem request.idem_key = some existing) :
    (store_document request).run (exec env) w = (.ok existing, w) := by
  have hprepare : (await (.prepare request)).run (exec env) w = (.ok (.inl existing), w) := by
    rw [run_perform]
    simp only [exec, World.prepare, h]
  unfold store_document
  rw [run_bind_ok hprepare]
  rfl

/-- `tool_document_generate` returns what it finds, as ready. -/
theorem run_generate_found {request : GenerateRequest} {result : GenerationResult}
    (hkey : request_key env.platform request = some idem_key)
    (hfound : w.ledger.lookup_idem idem_key = some existing)
    (hrun : (tool_document_generate env.platform request).run (exec env) w = (.ok result, w')) :
    result.status = .ready ∧ result.document = some existing := by
  have hsame : w.found env.platform request = some existing := by
    simp [World.found, hkey, hfound]
  have hended := ended_of_outcome (outcome_of_run hrun)
  obtain ⟨hdocument, hstatus, -⟩ := hended.of_found hsame
  exact ⟨hstatus, hdocument⟩

/-- **A collision is replayed.** A call whose key is recorded hands out the document of the key. -/
theorem recorded_handed_out {entrance : Entrance} (hkey : entrance.key env.platform = some idem_key)
    (hfound : w.ledger.lookup_idem idem_key = some existing) :
    (entrance.run env w).1.Hands existing := by
  cases entrance with
  | store request =>
    obtain rfl : request.idem_key = idem_key := Option.some.inj hkey
    show ((store_document request).run (exec env) w).1 = .ok existing
    rw [run_store_found hfound]
  | generate request =>
    obtain ⟨result, w', hrun, -⟩ := run_tool_document_generate env request w
    obtain ⟨hstatus, hdocument⟩ := run_generate_found hkey hfound hrun
    refine ⟨result, ?_, hstatus, hdocument⟩
    rw [hrun]

/-- A document that is handed out is no refusal. -/
theorem Answer.Hands.not_refusal {answer : Answer} (h : answer.Hands existing) : ¬ answer.IsRefusal := by
  cases answer with
  | stored r =>
    rintro ⟨e, hr, -⟩
    rw [show r = .ok existing from h] at hr
    cases hr
  | generated r =>
    obtain ⟨result, hr, hready, -⟩ := h
    rintro ⟨result', hr', hfailed, -⟩
    rw [hr] at hr'
    cases hr'
    rw [hready] at hfailed
    cases hfailed

/-! ## All calls -/

/-- Every call was made in the state before it. -/
theorem Journal.carried_out (h : Journal env log w) (hmade : made ∈ log) :
    made.answer = (made.entrance.run env made.before).1 := by
  induction h with
  | start => cases hmade
  | next entrance _ ih =>
    obtain rfl | hmade := List.mem_cons.mp hmade
    · rfl
    · exact ih hmade

/-- What a colliding call answers. -/
theorem collision_replayed (h : Journal env log w) (hmade : made ∈ log)
    (hcollides : made.Collides env.platform) : ∃ key existing,
      made.entrance.key env.platform = some key ∧
      made.before.ledger.lookup_idem key = some existing ∧ made.answer.Hands existing := by
  obtain ⟨key, recorded, rendered, hkey, hrecorded, -, -⟩ := hcollides
  obtain ⟨existing, hfound⟩ := document_of_checksum hrecorded
  refine ⟨key, existing, hkey, hfound, ?_⟩
  rw [h.carried_out hmade]
  exact recorded_handed_out hkey hfound

/-- **When collisions are refused.** In a history of calls, every call whose key is recorded with
    another checksum is refused if and only if there is none: each one hands out the
    earlier document as its own. -/
theorem collisions_refused_iff (h : Journal env log w) :
    ((∀ made ∈ log, made.Collides env.platform → made.Refused) ↔
      ∀ made ∈ log, ¬ made.Collides env.platform) ∧
    ∀ made ∈ log, made.Collides env.platform → ∃ key existing,
      made.entrance.key env.platform = some key ∧
      made.before.ledger.lookup_idem key = some existing ∧ made.answer.Hands existing := by
  refine ⟨⟨?_, ?_⟩, fun made hmade => collision_replayed h hmade⟩
  · intro hrefused made hmade hcollides
    obtain ⟨key, existing, -, -, hhands⟩ := collision_replayed h hmade hcollides
    exact hhands.not_refusal (hrefused made hmade hcollides).answer
  · intro hnone made hmade hcollides
    exact absurd hcollides (hnone made hmade)

end collisions

/-! ## One key for two letters -/

section one_key

/-- The calls of a journal, carried out. -/
def keep_journal (env : Env) : List Entrance → List Made × World → List Made × World
  | [], state => state
  | entrance :: rest, (log, w) =>
    keep_journal env rest
      (⟨entrance, w, (entrance.run env w).1, (entrance.run env w).2⟩ :: log, (entrance.run env w).2)

theorem kept_journal {env : Env} (entrances : List Entrance) {state : List Made × World}
    (h : Journal env state.1 state.2) :
    Journal env (keep_journal env entrances state).1 (keep_journal env entrances state).2 := by
  induction entrances generalizing state with
  | nil => exact h
  | cons entrance rest ih => exact ih (h.next entrance)

theorem new_journal : Journal calm_env [] new_world := .start new_world rfl rfl

/-- A letter under a key that the caller chooses. -/
def keyed_letter (matter : Matter) (idem_key : String) : Entrance :=
  .generate { sample_generate matter "call_letter" with idem_key_override := some idem_key }

/-- A document with this content under a key. -/
def keyed_document (content idem_key : String) : Entrance :=
  .store { sample_request with
    rendered_bytes := encode_utf8 content
    rendered_checksum := checksum (encode_utf8 content)
    idem_key := idem_key }

/-- The matter of the document that an answer hands out. -/
def handed_matter : Answer → Option String
  | .stored r => r.toOption.map Document.matter_id
  | .generated r => (r.toOption.bind GenerationResult.document).map Document.matter_id

/-- What is recorded under the key of a call and what the call renders, where both are known. -/
def checksums (made : Made) : Option (String × String) :=
  (made.entrance.key plain_platform).bind fun key =>
    (made.before.ledger.idem_checksums.get? key).bind fun recorded =>
      (made.entrance.checksum plain_platform).map fun rendered => (recorded, rendered)

/-- The two differ. -/
def differ (made : Made) : Bool := (checksums made).any fun pair => decide (pair.1 ≠ pair.2)

theorem collides_iff_differ {made : Made} : made.Collides plain_platform ↔ differ made = true := by
  have hpair : ∀ pair, checksums made = some pair ↔ ∃ key,
      made.entrance.key plain_platform = some key ∧
      made.before.ledger.idem_checksums.get? key = some pair.1 ∧
      made.entrance.checksum plain_platform = some pair.2 := by
    intro pair
    simp [checksums, Option.bind_eq_some_iff, Prod.ext_iff]
  unfold differ
  constructor
  · rintro ⟨key, recorded, rendered, hkey, hrecorded, hrendered, hne⟩
    rw [(hpair (recorded, rendered)).mpr ⟨key, hkey, hrecorded, hrendered⟩]
    exact decide_eq_true hne
  · intro h
    obtain ⟨pair, hsome, hne⟩ := (Option.any_eq_true _ _).mp h
    obtain ⟨key, hkey, hrecorded, hrendered⟩ := (hpair pair).mp hsome
    exact ⟨key, pair.1, pair.2, hkey, hrecorded, hrendered, of_decide_eq_true hne⟩

/-- A letter for Ana, one for Ben under the same key, and another document under it. -/
def one_key : List Made × World :=
  keep_journal calm_env [keyed_letter ana "k", keyed_letter ben "k", keyed_document "Fees" "k"]
    ([], new_world)

/-- **Ben gets the letter for Ana.** So does whoever stores another document under the key. -/
theorem letter_for_ana :
    Journal calm_env one_key.1 one_key.2 ∧
    one_key.1.map (fun made => (handed_matter made.answer, differ made)) =
      [(some "m-1", true), (some "m-1", true), (some "m-1", false)] ∧
    ¬ ∀ made ∈ one_key.1, made.Collides plain_platform → made.Refused := by
  have hjournal : Journal calm_env one_key.1 one_key.2 := kept_journal _ new_journal
  have hcalls : one_key.1.map (fun made => (handed_matter made.answer, differ made)) =
      [(some "m-1", true), (some "m-1", true), (some "m-1", false)] := by decide +kernel
  refine ⟨hjournal, hcalls, ?_⟩
  intro hrefused
  have hmem : (some "m-1", true) ∈
      one_key.1.map (fun made => (handed_matter made.answer, differ made)) := by
    rw [hcalls]
    exact List.mem_cons_self
  obtain ⟨made, hmade, heq⟩ := List.mem_map.mp hmem
  have hcollides := collides_iff_differ.mpr (Prod.mk.inj heq).2
  obtain ⟨-, existing, -, -, hhands⟩ := collision_replayed hjournal hmade hcollides
  exact hhands.not_refusal (hrefused made hmade hcollides).answer

/-- A letter for each of two matters under its own key, and the first one again. -/
def own_keys : List Made × World :=
  keep_journal calm_env [keyed_letter ana "k", keyed_letter ben "l", keyed_letter ana "k"]
    ([], new_world)

/-- With a key for each letter nothing collides, so there is nothing to refuse. -/
theorem own_keys_refused :
    Journal calm_env own_keys.1 own_keys.2 ∧
    ∀ made ∈ own_keys.1, made.Collides plain_platform → made.Refused := by
  have hjournal : Journal calm_env own_keys.1 own_keys.2 := kept_journal _ new_journal
  refine ⟨hjournal, (collisions_refused_iff hjournal).1.mpr ?_⟩
  have hsame : ∀ made ∈ own_keys.1, differ made = false := by decide +kernel
  intro made hmade hcollides
  have hdiffer := collides_iff_differ.mp hcollides
  rw [hsame made hmade] at hdiffer
  cases hdiffer

end one_key

end CaseAutomation.DocumentGen
