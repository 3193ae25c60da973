import CaseAutomation.Orchestrator.Passes
import CaseAutomation.Orchestrator.Reference

/-! # Starting Runs

    `start_run` creates a run unless a run with the same dedupe key exists. The keys of all
    workflows share one map. So a key belongs to the workflow that used it first, and
    every later call with that key, for whatever workflow, gets that run.
-/

namespace CaseAutomation.Orchestrator

open Framework Program

/-! ## One call -/

/-- The dedupe key a call is made with, if it is not empty. -/
def StartArgs.key (args : StartArgs) : Option String :=
  (str_or args.idem_key args.trigger.dedupe_key).filter fun key => key ≠ ""

/-- The dedupe key of a run, if it is not empty. -/
def WorkflowRun.key (run : WorkflowRun) : Option String :=
  run.trigger.dedupe_key.filter fun key => key ≠ ""

/-- The id that a call gives to a new run. -/
def StartArgs.new_id (env : Env) (args : StartArgs) (w : World) : String :=
  (str_or args.run_id none).getD (env.uuid w.uuids)

/-- The world in which the new run is created: the clock was read, and an id drawn if
    the caller gave none. -/
def StartArgs.prepared (args : StartArgs) (w : World) : World :=
  match str_or args.run_id none with
  | some _ => w.tick
  | none => { w.tick with uuids := w.uuids + 1 }

@[simp] theorem StartArgs.prepared_store (args : StartArgs) (w : World) :
    (args.prepared w).store = w.store := by
  unfold prepared
  split <;> rfl

/-- The run that a call creates. -/
def StartArgs.new_run (env : Env) (args : StartArgs) (defn : WorkflowDef) (w : World) :
    WorkflowRun :=
  args.initial_run defn (args.new_id env w) (env.time w.clock)

/-- **What `start_run` does**, up to the creation of the run. -/
theorem start_run_run (env : Env) (args : StartArgs) (w : World) :
    (start_run args).run (exec env) w =
      match get_workflow_latest w.registry args.workflow_name with
      | .error e => (.error e, w)
      | .ok defn =>
        match defn.validate_context args.context with
        | .error e => (.error e, w)
        | .ok () => exec env (.create_run (args.new_run env defn w)
            (initial_rows (args.new_id env w) 0 defn.steps)) (args.prepared w) := by
  cases hlatest : get_workflow_latest w.registry args.workflow_name with
  | error e => exact run_await_error (show exec env (.get_workflow_latest _) w = _ by
      simp only [exec, hlatest])
  | ok defn =>
    refine (run_await (show exec env (.get_workflow_latest args.workflow_name) w = (.ok defn, w) by
      simp only [exec, hlatest])).trans ?_
    cases hvalid : defn.validate_context args.context with
    | error e =>
      simp only [hvalid]
      rfl
    | ok u =>
      have hnow : exec env .now w = (.ok (env.time w.clock), w.tick) := rfl
      refine (run_await hnow).trans ?_
      simp only [hvalid]
      cases hid : str_or args.run_id none with
      | some id =>
        have hchoose : args.choose_run_id.run (exec env) w.tick = (.ok id, w.tick) := by
          unfold StartArgs.choose_run_id
          rw [hid]
          rfl
        have hnew : args.new_id env w = id := by rw [StartArgs.new_id, hid, Option.getD_some]
        have hprepared : args.prepared w = w.tick := by simp only [StartArgs.prepared, hid]
        rw [StartArgs.new_run, hnew, hprepared]
        exact (run_bind_ok hchoose).trans (run_perform _ _)
      | none =>
        have hchoose : args.choose_run_id.run (exec env) w.tick =
            (.ok (env.uuid w.uuids), { w.tick with uuids := w.uuids + 1 }) := by
          unfold StartArgs.choose_run_id
          rw [hid]
          rfl
        have hnew : args.new_id env w = env.uuid w.uuids := by
          rw [StartArgs.new_id, hid, Option.getD_none]
        have hprepared : args.prepared w = { w.tick with uuids := w.uuids + 1 } := by
          simp only [StartArgs.prepared, hid]
        rw [StartArgs.new_run, hnew, hprepared]
        exact (run_bind_ok hchoose).trans (run_perform _ _)

section new_run
variable (env : Env) (args : StartArgs) (defn : WorkflowDef) (w : World)

@[simp] theorem new_run_id : (args.new_run env defn w).id = args.new_id env w := rfl

/-- A new run carries the key of the call. -/
@[simp] theorem new_run_key : (args.new_run env defn w).key = args.key := by
  show args.deduped_trigger.dedupe_key.filter _ = _
  unfold StartArgs.deduped_trigger StartArgs.key
  cases hkey : str_or args.idem_key args.trigger.dedupe_key with
  | none =>
    -- then the trigger has no key either
    have hnone : args.trigger.dedupe_key = none := by
      unfold str_or at hkey
      split at hkey
      · exact hkey
      · split at hkey
        · exact hkey
        · cases hkey
    simp [hnone]
  | some key =>
    by_cases hempty : key = ""
    · have htrigger : args.trigger.dedupe_key = some key := by
        unfold str_or at hkey
        split at hkey
        · exact hkey
        · split at hkey
          · exact hkey
          · next hne =>
            rw [hempty] at hkey
            exact absurd (Option.some.inj hkey) hne
      simp [htrigger, hempty]
    · simp [hempty]

/-- The store looks for the key of the run. -/
theorem dedupe_hit_eq (s : RunStore) (run : WorkflowRun) :
    s.dedupe_hit run = run.key.bind s.dedupe.get? := by
  unfold RunStore.dedupe_hit WorkflowRun.key
  cases run.trigger.dedupe_key with
  | none => rfl
  | some key =>
    by_cases hempty : key = ""
    · simp [hempty, Option.filter]
    · simp [hempty, Option.filter]

end new_run

/-- A call whose key is not in use creates its run. -/
theorem start_run_creates (env : Env) (args : StartArgs) (w : World) {defn : WorkflowDef}
    (hlatest : get_workflow_latest w.registry args.workflow_name = .ok defn)
    (hvalid : defn.validate_context args.context = .ok ())
    (hmiss : args.key.bind w.store.dedupe.get? = none) :
    ∃ w', (start_run args).run (exec env) w = (.ok (args.new_run env defn w), w') ∧
      Stored (args.new_id env w) (args.new_run env defn w)
        (initial_rows (args.new_id env w) 0 defn.steps) w' ∧
      w'.idem = w.idem ∧ w'.trace = w.trace ∧ w'.registry = w.registry ∧ w'.lock = w.lock := by
  have hrun := start_run_run env args w
  have hnohit : w.store.dedupe_hit (args.new_run env defn w) = none := by
    rw [dedupe_hit_eq, new_run_key, hmiss]
  obtain ⟨s', hcreate, hruns, hsteps⟩ : ∃ s', w.store.create_run (args.new_run env defn w)
      (initial_rows (args.new_id env w) 0 defn.steps) = .ok (args.new_run env defn w, s') ∧
      s'.runs = w.store.runs.set (args.new_id env w) (args.new_run env defn w) ∧
      s'.steps = w.store.steps.set (args.new_id env w)
        (initial_rows (args.new_id env w) 0 defn.steps) := by
    unfold RunStore.create_run
    rw [hnohit]
    exact ⟨_, rfl, rfl, rfl⟩
  simp only [hlatest, hvalid, exec, StartArgs.prepared_store, hcreate] at hrun
  have hprepared : (args.prepared w).idem = w.idem ∧ (args.prepared w).trace = w.trace ∧
      (args.prepared w).registry = w.registry ∧ (args.prepared w).lock = w.lock := by
    unfold StartArgs.prepared
    split <;> exact ⟨rfl, rfl, rfl, rfl⟩
  refine ⟨_, hrun, ⟨?_, ?_⟩, hprepared⟩
  · show s'.runs.get? _ = _
    rw [hruns, Dict.get?_set_self]
  · show s'.steps.get? _ = _
    rw [hsteps, Dict.get?_set_self]

/-- `start_run` with a key that is in use returns the run that has the key. -/
theorem start_run_located (env : Env) (w : World) (args : StartArgs) {defn : WorkflowDef} {run : WorkflowRun}
    (hlatest : get_workflow_latest w.registry args.workflow_name = .ok defn)
    (hvalid : defn.validate_context args.context = .ok ())
    (hkey : args.key.bind w.store.dedupe.get? = some run.id)
    (hstored : w.store.runs.get? run.id = some run) :
    ∃ w', (start_run args).run (exec env) w = (.ok run, w') ∧ w'.store = w.store := by
  have hcreate : w.store.create_run (args.new_run env defn w)
      (initial_rows (args.new_id env w) 0 defn.steps) = .ok (run, w.store) := by
    unfold RunStore.create_run
    rw [dedupe_hit_eq, new_run_key, hkey]
    simp only [hstored]
  have hrun := start_run_run env args w
  simp only [hlatest, hvalid, exec, StartArgs.prepared_store, hcreate] at hrun
  exact ⟨_, hrun, rfl⟩

/-- A run that was just started, in a fresh world. -/
theorem queued_run_stored {defn : WorkflowDef} (hname : defn.name = "plain")
    (hschema : defn.input_schema = none) :
    ∃ run, Stored "id-0" run (initial_rows "id-0" 0 defn.steps) (queued_run defn) ∧
      run.id = "id-0" ∧ run.workflow = defn.name ∧ run.status = .QUEUED ∧
      (queued_run defn).idem = .in_memory ∅ ∧ (queued_run defn).trace = [] ∧
      (queued_run defn).registry = singleton_registry defn ∧ (queued_run defn).lock = none := by
  let w := World.fresh (.in_memory ∅) none (singleton_registry defn)
  have hlatest : get_workflow_latest w.registry plain_start.workflow_name = .ok defn := by
    show get_workflow_latest (singleton_registry defn) "plain" = .ok defn
    rw [← hname]
    exact latest_singleton defn
  have hvalid : defn.validate_context plain_start.context = .ok () := by
    unfold WorkflowDef.validate_context
    rw [hschema]
  obtain ⟨w', hstart, hstored, hidem, htrace, hregistry, hlock⟩ := start_run_creates reference_env
    plain_start w hlatest hvalid rfl
  have hqueued : queued_run defn = w' := by
    show ((start_run plain_start).discard.run (exec reference_env) w).2 = w'
    unfold Program.discard
    rw [run_bind_ok hstart]
    rfl
  have hid : plain_start.new_id reference_env w = "id-0" := by
    show numbered_id 0 = "id-0"
    decide
  rw [hid] at hstored
  rw [hqueued]
  exact ⟨plain_start.new_run reference_env defn w, hstored, hid, hname.symm, rfl, hidem, htrace,
    hregistry, hlock⟩

/-! ## Any sequence of calls -/

/-- Serve these calls one after the other. The result lists the calls that returned, with the
    runs they returned. -/
def start_all (env : Env) : List StartArgs → World → List (StartArgs × WorkflowRun) × World
  | [], w => ([], w)
  | args :: rest, w =>
    match (start_run args).run (exec env) w with
    | (.ok run, w') => ((args, run) :: (start_all env rest w').1, (start_all env rest w').2)
    | (.error _, w') => start_all env rest w'

/-- Every call would give an id to its run that no run has. -/
def FreshIds (env : Env) : List StartArgs → World → Prop
  | [], _ => True
  | args :: rest, w => w.store.runs.get? (args.new_id env w) = none ∧
      FreshIds env rest ((start_run args).run (exec env) w).2

/-- The first of these calls with this key. -/
def first_use (calls : List (StartArgs × WorkflowRun)) (key : String) :
    Option (StartArgs × WorkflowRun) :=
  calls.find? fun call => call.1.key = some key

/-- The workflow that the run of a call belongs to: the workflow of the first call
    with its key, or its own if it has no key. -/
def first_workflow (calls : List (StartArgs × WorkflowRun)) (args : StartArgs) : String :=
  match args.key.bind (first_use calls) with
  | some first => first.1.workflow_name
  | none => args.workflow_name

/-- Two calls share their run exactly when they share their key. -/
def SharesRun (a b : StartArgs × WorkflowRun) : Prop :=
  a.2 = b.2 ↔ a.1.key = b.1.key ∧ a.1.key ≠ none

/-- What the store knows about the calls served so far. -/
structure Started (calls : List (StartArgs × WorkflowRun)) (s : RunStore) : Prop where
  stored : ∀ call ∈ calls, s.runs.get? call.2.id = some call.2
  keyed : ∀ call ∈ calls, call.2.key = call.1.key
  returned : ∀ id run, s.runs.get? id = some run → run.id = id ∧ ∃ call ∈ calls, call.2 = run
  dedupe : ∀ key, key ≠ "" →
    s.dedupe.get? key = (first_use calls key).map fun first => first.2.id
  workflow : ∀ call ∈ calls, call.2.workflow = first_workflow calls call.1
  /-- All calls with a key got the run of the first. -/
  owner : ∀ call ∈ calls, ∀ key, call.1.key = some key →
    ∃ first, first_use calls key = some first ∧ call.2 = first.2
  /-- A call without a key got a run of its own. -/
  alone : calls.Pairwise fun a b => b.1.key = none → a.2 ≠ b.2

section started
variable {calls : List (StartArgs × WorkflowRun)} {s : RunStore}

theorem first_use_some {key : String} {first : StartArgs × WorkflowRun}
    (h : first_use calls key = some first) : first ∈ calls ∧ first.1.key = some key :=
  ⟨List.mem_of_find?_eq_some h, by simpa using List.find?_some h⟩

theorem first_use_append {key : String} {first : StartArgs × WorkflowRun}
    (more : List (StartArgs × WorkflowRun)) (h : first_use calls key = some first) :
    first_use (calls ++ more) key = some first := by
  unfold first_use at h ⊢
  rw [List.find?_append, h, Option.some_or]

theorem key_ne_empty (args : StartArgs) {key : String} (h : args.key = some key) : key ≠ "" := by
  have hfilter := (Option.filter_eq_some_iff.mp h).2
  simpa using hfilter

/-- Later calls do not change whose run a call got. -/
theorem first_workflow_append {call : StartArgs × WorkflowRun}
    (more : List (StartArgs × WorkflowRun)) (hcall : call ∈ calls) :
    first_workflow (calls ++ more) call.1 = first_workflow calls call.1 := by
  unfold first_workflow
  cases hkey : call.1.key with
  | none => rfl
  | some key =>
    have hsome : (first_use calls key).isSome = true := by
      unfold first_use
      rw [List.find?_isSome]
      exact ⟨call, hcall, by simpa using hkey⟩
    obtain ⟨first, hfirst⟩ := Option.isSome_iff_exists.mp hsome
    rw [Option.bind_some, Option.bind_some, hfirst, first_use_append more hfirst]

/-- A key that is in use gets the run of its first call. -/
theorem Started.hit (h : Started calls s) {args : StartArgs} {key : String}
    {first : StartArgs × WorkflowRun} (hkey : args.key = some key)
    (hfirst : first_use calls key = some first) : Started (calls ++ [(args, first.2)]) s := by
  obtain ⟨hmem, hfirstkey⟩ := first_use_some hfirst
  have hnone : first_use calls key ≠ none := by
    rw [hfirst]
    exact Option.some_ne_none first
  refine ⟨?_, ?_, ?_, ?_, ?_, ?_, ?_⟩
  · intro call hcall
    rcases List.mem_append.mp hcall with hcall | hcall
    · exact h.stored call hcall
    · obtain rfl := List.mem_singleton.mp hcall
      exact h.stored first hmem
  · intro call hcall
    rcases List.mem_append.mp hcall with hcall | hcall
    · exact h.keyed call hcall
    · obtain rfl := List.mem_singleton.mp hcall
      rw [h.keyed first hmem, hfirstkey, hkey]
  · intro id run hrun
    obtain ⟨hid, call, hcall, hsame⟩ := h.returned id run hrun
    exact ⟨hid, call, List.mem_append_left _ hcall, hsame⟩
  · intro other hother
    rw [h.dedupe other hother]
    cases huse : first_use calls other with
    | some earlier => rw [first_use_append _ huse]
    | none =>
      have hne : key ≠ other := by
        rintro rfl
        exact hnone huse
      unfold first_use at huse ⊢
      rw [List.find?_append, huse]
      simp [hkey, hne]
  · intro call hcall
    rcases List.mem_append.mp hcall with hcall | hcall
    · rw [first_workflow_append _ hcall]
      exact h.workflow call hcall
    · obtain rfl := List.mem_singleton.mp hcall
      have hfirstflow := h.workflow first hmem
      unfold first_workflow at hfirstflow ⊢
      rw [hfirstkey, Option.bind_some, hfirst] at hfirstflow
      rw [hkey, Option.bind_some, first_use_append _ hfirst]
      exact hfirstflow
  · intro call hcall other hother
    rcases List.mem_append.mp hcall with hcall | hcall
    · obtain ⟨earlier, huse, hsame⟩ := h.owner call hcall other hother
      exact ⟨earlier, first_use_append _ huse, hsame⟩
    · obtain rfl := List.mem_singleton.mp hcall
      have hother : args.key = some other := hother
      obtain rfl := Option.some.inj (hkey.symm.trans hother)
      exact ⟨first, first_use_append _ hfirst, rfl⟩
  · rw [List.pairwise_append]
    refine ⟨h.alone, List.pairwise_singleton _ _, ?_⟩
    intro call _ last hlast hnokey
    obtain rfl := List.mem_singleton.mp hlast
    have hnokey : args.key = none := hnokey
    rw [hkey] at hnokey
    cases hnokey

/-- A call with a key that is not in use, or without a key, gets a new run. -/
theorem Started.create (h : Started calls s) {args : StartArgs} {run : WorkflowRun}
    {rows : List StepState} (hkey : run.key = args.key) (hflow : run.workflow = args.workflow_name)
    (hfresh : s.runs.get? run.id = none) (hunused : ∀ key, args.key = some key →
      first_use calls key = none) {s' : RunStore} (hcreated : s.create_run run rows = .ok (run, s'))
    (hmiss : s.dedupe_hit run = none) : Started (calls ++ [(args, run)]) s' := by
  unfold RunStore.create_run at hcreated
  rw [hmiss] at hcreated
  have hs' := (Prod.mk.inj (Except.ok.inj hcreated)).2
  have hother : ∀ call ∈ calls, call.2.id ≠ run.id := by
    intro call hcall hid
    have hstored := h.stored call hcall
    rw [hid, hfresh] at hstored
    cases hstored
  -- the dictionary of keys gains the key of the run, if it has one
  have hdedupe : ∀ key, key ≠ "" → s'.dedupe.get? key =
      if args.key = some key then some run.id else s.dedupe.get? key := by
    intro key hne
    rw [← hs', ← hkey]
    unfold WorkflowRun.key
    dsimp only
    cases run.trigger.dedupe_key with
    | none => simp
    | some own =>
      by_cases hempty : own = ""
      · simp [hempty, Option.filter]
      · by_cases hown : own = key
        · simp [hown, hne, Option.filter]
        · have hown' : key ≠ own := Ne.symm hown
          simp [hempty, hown, Option.filter, Dict.get?_set_ne _ _ hown']
  subst hs'
  refine ⟨?_, ?_, ?_, ?_, ?_, ?_, ?_⟩
  · intro call hcall
    rcases List.mem_append.mp hcall with hcall | hcall
    · exact (Dict.get?_set_ne _ _ (hother call hcall)).trans (h.stored call hcall)
    · obtain rfl := List.mem_singleton.mp hcall
      exact Dict.get?_set_self _ _ _
  · intro call hcall
    rcases List.mem_append.mp hcall with hcall | hcall
    · exact h.keyed call hcall
    · obtain rfl := List.mem_singleton.mp hcall
      exact hkey
  · intro id stored hstored
    rcases Dict.get?_set_cases hstored with ⟨rfl, rfl⟩ | ⟨-, hold⟩
    · exact ⟨rfl, _, List.mem_append_right _ List.mem_cons_self, rfl⟩
    · obtain ⟨hid, call, hcall, hsame⟩ := h.returned id stored hold
      exact ⟨hid, call, List.mem_append_left _ hcall, hsame⟩
  · intro key hne
    refine (hdedupe key hne).trans ?_
    rw [h.dedupe key hne]
    unfold first_use at hunused ⊢
    rw [List.find?_append]
    by_cases hown : args.key = some key
    · simp [hown, hunused key hown]
    · simp [hown]
  · intro call hcall
    rcases List.mem_append.mp hcall with hcall | hcall
    · rw [first_workflow_append _ hcall]
      exact h.workflow call hcall
    · obtain rfl := List.mem_singleton.mp hcall
      unfold first_workflow
      cases hown : args.key with
      | none => exact hflow
      | some key =>
        have hnone := hunused key hown
        unfold first_use at hnone ⊢
        rw [Option.bind_some, List.find?_append, hnone]
        simp [hown, hflow]
  · intro call hcall key hown
    rcases List.mem_append.mp hcall with hcall | hcall
    · obtain ⟨first, huse, hsame⟩ := h.owner call hcall key hown
      exact ⟨first, first_use_append _ huse, hsame⟩
    · obtain rfl := List.mem_singleton.mp hcall
      refine ⟨(args, run), ?_, rfl⟩
      have hnone := hunused key hown
      unfold first_use at hnone ⊢
      rw [List.find?_append, hnone]
      simpa using hown
  · rw [List.pairwise_append]
    refine ⟨h.alone, List.pairwise_singleton _ _, ?_⟩
    intro call hcall last hlast _ hsame
    obtain rfl := List.mem_singleton.mp hlast
    exact hother call hcall (congrArg WorkflowRun.id hsame)

theorem Started.shares (h : Started calls s) : calls.Pairwise SharesRun := by
  refine h.alone.imp_of_mem ?_
  intro a b ha hb halone
  constructor
  · intro hsame
    have hkeys : a.1.key = b.1.key := by rw [← h.keyed a ha, hsame, h.keyed b hb]
    refine ⟨hkeys, ?_⟩
    intro hnone
    exact halone (hkeys ▸ hnone) hsame
  · rintro ⟨hkeys, hsome⟩
    obtain ⟨key, hkey⟩ := Option.ne_none_iff_exists'.mp hsome
    obtain ⟨first, huse, hfirst⟩ := h.owner a ha key hkey
    obtain ⟨first', huse', hfirst'⟩ := h.owner b hb key (hkeys ▸ hkey)
    rw [huse] at huse'
    obtain rfl := Option.some.inj huse'
    rw [hfirst, hfirst']

/-- **One call of `start_run`** raises and changes no run, or returns the run of the first
    call with its key, or a new run. -/
theorem Started.step (env : Env) (args : StartArgs) {w : World} (h : Started calls w.store)
    (hfresh : w.store.runs.get? (args.new_id env w) = none) :
    (∃ e w', (start_run args).run (exec env) w = (.error e, w') ∧ w'.store = w.store) ∨
    ∃ run w', (start_run args).run (exec env) w = (.ok run, w') ∧
      Started (calls ++ [(args, run)]) w'.store := by
  have hrun := start_run_run env args w
  cases hlatest : get_workflow_latest w.registry args.workflow_name with
  | error e =>
    simp only [hlatest] at hrun
    exact Or.inl ⟨e, w, hrun, rfl⟩
  | ok defn =>
    cases hvalid : defn.validate_context args.context with
    | error e =>
      simp only [hlatest, hvalid] at hrun
      exact Or.inl ⟨e, w, hrun, rfl⟩
    | ok u =>
      simp only [hlatest, hvalid, exec, StartArgs.prepared_store] at hrun
      right
      cases huse : args.key.bind (first_use calls) with
      | some first =>
        obtain ⟨key, hkey, hfirst⟩ := Option.bind_eq_some_iff.mp huse
        have hhit : args.key.bind w.store.dedupe.get? = some first.2.id := by
          rw [hkey, Option.bind_some, h.dedupe key (key_ne_empty args hkey), hfirst, Option.map_some]
        obtain ⟨w', hstart, hsame⟩ := start_run_located env w args hlatest hvalid hhit
          (h.stored first (first_use_some hfirst).1)
        refine ⟨first.2, w', hstart, ?_⟩
        rw [hsame]
        exact h.hit hkey hfirst
      | none =>
        have hunused : ∀ key, args.key = some key → first_use calls key = none := by
          intro key hkey
          rwa [hkey, Option.bind_some] at huse
        have hmiss : w.store.dedupe_hit (args.new_run env defn w) = none := by
          rw [dedupe_hit_eq, new_run_key]
          cases hkey : args.key with
          | none => rfl
          | some key =>
            rw [Option.bind_some, h.dedupe key (key_ne_empty args hkey), hunused key hkey,
              Option.map_none]
        obtain ⟨s', hcreate⟩ : ∃ s', w.store.create_run (args.new_run env defn w)
            (initial_rows (args.new_id env w) 0 defn.steps) =
              .ok (args.new_run env defn w, s') := by
          unfold RunStore.create_run
          rw [hmiss]
          exact ⟨_, rfl⟩
        simp only [hcreate] at hrun
        exact ⟨_, _, hrun, h.create (new_run_key env args defn w) rfl hfresh hunused hcreate hmiss⟩

/-- Any sequence of calls. -/
theorem start_all_started (env : Env) (args : List StartArgs) {w : World}
    (h : Started calls w.store) (hfresh : FreshIds env args w) :
    Started (calls ++ (start_all env args w).1) (start_all env args w).2.store := by
  induction args generalizing calls w with
  | nil =>
    rw [start_all, List.append_nil]
    exact h
  | cons args rest ih =>
    obtain ⟨hnew, hrest⟩ := hfresh
    rcases h.step env args hnew with ⟨e, w', hrun, hstore⟩ | ⟨run, w', hrun, hstarted⟩
    · rw [hrun] at hrest
      rw [start_all, hrun]
      exact ih (hstore ▸ h) hrest
    · rw [hrun] at hrest
      rw [start_all, hrun]
      have hall := ih hstarted hrest
      rw [List.append_assoc] at hall
      exact hall

end started

theorem started_nil : Started [] RunStore.empty where
  stored := fun _ h => (List.not_mem_nil h).elim
  keyed := fun _ h => (List.not_mem_nil h).elim
  returned := fun _ _ h => by cases h
  dedupe := fun _ _ => rfl
  workflow := fun _ h => (List.not_mem_nil h).elim
  owner := fun _ h => (List.not_mem_nil h).elim
  alone := .nil

/-- The runs that were created for a key. -/
def runs_for (key : String) (s : RunStore) : List WorkflowRun :=
  s.runs.values.filter fun run => run.key = some key

/-- **`start_run` is idempotent in the key.** Whatever calls are made, each returns a run of the
    workflow for which its key was first used, two calls return the same run exactly
    when they have the same non-empty key, and at most one run is created for a key. -/
theorem start_run_idempotent_in_key (env : Env) (args : List StartArgs) (idem : IdemStore)
    (lock : Option (List String)) (registry : Registry)
    (hfresh : FreshIds env args (World.fresh idem lock registry)) :
    (∀ call ∈ (start_all env args (World.fresh idem lock registry)).1,
      call.2.workflow =
        first_workflow (start_all env args (World.fresh idem lock registry)).1 call.1) ∧
    (start_all env args (World.fresh idem lock registry)).1.Pairwise SharesRun ∧
    ∀ key, (runs_for key (start_all env args (World.fresh idem lock registry)).2.store).length ≤ 1 := by
  have hempty : Started [] (World.fresh idem lock registry).store := started_nil
  have hall := start_all_started env args hempty hfresh
  rw [List.nil_append] at hall
  refine ⟨hall.workflow, hall.shares, ?_⟩
  intro key
  apply Dict.filter_values_length_le_one
  intro id id' run run' hrun hrun' hkey hkey'
  obtain ⟨rfl, call, hcall, rfl⟩ := hall.returned id run hrun
  obtain ⟨rfl, call', hcall', rfl⟩ := hall.returned id' run' hrun'
  rw [decide_eq_true_iff, hall.keyed _ hcall] at hkey
  rw [decide_eq_true_iff, hall.keyed _ hcall'] at hkey'
  obtain ⟨first, huse, hfirst⟩ := hall.owner call hcall key hkey
  obtain ⟨first', huse', hfirst'⟩ := hall.owner call' hcall' key hkey'
  rw [huse] at huse'
  obtain rfl := Option.some.inj huse'
  rw [hfirst, hfirst']

/-! ## One key, two workflows -/

section two_workflows

def letter_workflow (name : String) : WorkflowDef :=
  { plain_workflow ["draft"] draft_ne_nil (fun _ _ _ => .returned none []) fun _ => none with
    name := name }

def letter_registry : Registry :=
  ((∅ : Registry).set (registry_key "intake" 1) (letter_workflow "intake")).set
    (registry_key "routing" 1) (letter_workflow "routing")

/-- A call that starts a workflow for event `evt-1`. -/
def letter_start (name : String) : StartArgs where
  workflow_name := name
  context := []
  trigger := ⟨.event, "webhook", some "evt-1"⟩
  idem_key := none
  run_id := none

def letter_calls : List StartArgs := [letter_start "intake", letter_start "routing"]

def letters : List (StartArgs × WorkflowRun) × World :=
  start_all reference_env letter_calls (World.fresh (.in_memory ∅) none letter_registry)

theorem letter_ids_fresh :
    FreshIds reference_env letter_calls (World.fresh (.in_memory ∅) none letter_registry) := by
  refine ⟨rfl, ?_, trivial⟩
  have hnone : ((((start_run (letter_start "intake")).run (exec reference_env)
      (World.fresh (.in_memory ∅) none letter_registry)).2.store.runs.get?
        ((letter_start "routing").new_id reference_env
          ((start_run (letter_start "intake")).run (exec reference_env)
            (World.fresh (.in_memory ∅) none letter_registry)).2)).isNone) = true := by
    decide +kernel
  exact Option.isNone_iff_eq_none.mp hnone

/-- **A run of another workflow is returned** for a key that another workflow has used. -/
theorem key_shared_across_workflows :
    FreshIds reference_env letter_calls (World.fresh (.in_memory ∅) none letter_registry) ∧
    letters.1.map (fun call => call.1.workflow_name) = ["intake", "routing"] ∧
    letters.1.map (fun call => call.2.workflow) = ["intake", "intake"] ∧
    letters.1.map (fun call => call.2.id) = ["id-0", "id-0"] := by
  exact ⟨letter_ids_fresh, by decide +kernel, by decide +kernel, by decide +kernel⟩

/-- The law at work: both calls share the one run that is created for the event. -/
theorem letters_share_run :
    letters.1.Pairwise SharesRun ∧ (runs_for "evt-1" letters.2.store).length ≤ 1 :=
  ⟨(start_run_idempotent_in_key reference_env letter_calls (.in_memory ∅) none letter_registry
      letter_ids_fresh).2.1,
    (start_run_idempotent_in_key reference_env letter_calls (.in_memory ∅) none letter_registry
      letter_ids_fresh).2.2 "evt-1"⟩

end two_workflows

end CaseAutomation.Orchestrator
