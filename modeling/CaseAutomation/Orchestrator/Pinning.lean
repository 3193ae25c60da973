import CaseAutomation.Framework.Ghost
import CaseAutomation.Orchestrator.Reference
import CaseAutomation.Orchestrator.Walk

/-! # Which Version a Run Executes

    `start_run` copies the version of the definition it finds into the run and lays out one row
    per step of that definition. `_execute` does not look at the version: each pass takes the
    highest version registered at that moment.

    Histories here have any number of requests, interleaved call by call, over a registry that
    grows while they run. `Watch` adds to the world which run each thread has read last, and whether
    it has called a handler since it last marked a row running.
-/

namespace CaseAutomation.Orchestrator

open Framework Program

namespace Pinning

/-! ## Histories with registrations -/

/-- The world, and what each thread is about. -/
structure Watch where
  world : World
  /-- The run that a thread has read last. -/
  loaded : Nat → Option WorkflowRun
  /-- Whether the thread has called a handler since it last marked a row running. -/
  called : Nat → Bool

/-- Reading a run. -/
def note_loaded (i : Nat) (c : Call) (s : Watch) : Nat → Option WorkflowRun :=
  match c with
  | .get_run run_id => Function.update s.loaded i (s.world.store.get_run run_id)
  | _ => s.loaded

/-- Marking a row running, and calling a handler. -/
def note_called (i : Nat) (c : Call) (s : Watch) : Nat → Bool :=
  match c with
  | .update_step row => if row.status = .RUNNING then Function.update s.called i false else s.called
  | .invoke _ _ _ => Function.update s.called i true
  | _ => s.called

/-- What a call of thread `i` leaves behind. -/
def note (i : Nat) (c : Call) (s : Watch) (w : World) : Watch where
  world := w
  loaded := note_loaded i c s
  called := note_called i c s

/-- A call of thread `i`. -/
def watched (env : Env) (i : Nat) : Relation Call Call.Resp Exn Watch :=
  fun c s r s' => ∃ w, faulty env c s.world r w ∧ s' = note i c s w

/-- No version of the run's workflow above its own is registered. -/
def Newest (registry : Registry) (run : WorkflowRun) : Prop :=
  ∀ defn ∈ registry.values, defn.name = run.workflow → defn.version ≤ run.workflow_version

/-- A call of thread `i`, as long as a definition is looked up for a run only while the run's
    own version is the newest. -/
def current (env : Env) (i : Nat) : Relation Call Call.Resp Exn Watch :=
  fun c s r s' => watched env i c s r s' ∧
    ∀ name run, c = .get_workflow_latest name → s.loaded i = some run →
      Newest s.world.registry run

/-- What happens between the calls: locks expire, and workflows are registered. -/
inductive upkeep (s : Watch) : Watch → Prop where
  | expire {w : World} : expiry s.world w → upkeep s { s with world := w }
  | register {name : String} {version : Int} {schema : Option (JsonObj → Except Exn Unit)}
      {cls : WorkflowClass} {registry : Registry} :
      workflow name version schema cls s.world.registry = .ok registry →
      upkeep s { s with world := { s.world with registry := registry } }

/-- Nothing has been stored, registered or requested yet. -/
def blank (idem : IdemStore) (lock : Option (List String)) : Watch where
  world := World.fresh idem lock ∅
  loaded _ := none
  called _ := false

/-- Any requests on any workflows, interleaved call by call, with registrations at any time. -/
def Registering (step : Nat → Relation Call Call.Resp Exn Watch) (engine : Engine) :
    Watch → List (M Unit) → Prop :=
  Pool step upkeep (fun s => ∃ idem lock, s = blank idem lock)
    (fun _ p => ∃ q : Request, p = q.program engine)

/-! ## What it means to follow the pinned definition -/

/-- The gate request asks for what the configuration says. -/
structure Configured (gate : GateRequest) (cfg : GateConfig) : Prop where
  required_role : gate.required_role = cfg.required_role
  quorum : gate.quorum = cfg.quorum
  channels : gate.channels = cfg.channels
  expires_at : gate.expires_at = gate.created_at + seconds cfg.ttl_seconds

/-- Thread `i` works on `run`, whose pinned definition is `defn`. -/
structure WorksOn (s : Watch) (i : Nat) (run : WorkflowRun) (defn : WorkflowDef) : Prop where
  loaded : s.loaded i = some run
  pinned : get_workflow s.world.registry run.workflow run.workflow_version = .ok defn

/-- The call that thread `i` is about to make comes from the definition registered under the
    workflow and the version of the run it works on:

    * the handler it invokes and the gate request it creates are that definition's;
    * a step of that definition is marked failed only after its handler has been called;
    * the workflow of the run is found. -/
def FromPinned (s : Watch) (i : Nat) : Call → Prop
  | .invoke handler step ctx => ∃ run defn, WorksOn s i run defn ∧ run.id = ctx.run_id ∧
      defn.handlers step = some handler
  | .create_gate_request gate => ∃ run defn, WorksOn s i run defn ∧ run.id = gate.run_id ∧
      Configured gate (defn.gate_config gate.step)
  | .update_step row => row.status = .FAILED → ∃ run defn, WorksOn s i run defn ∧
      (row.step ∈ defn.steps → s.called i = true)
  | .get_workflow_latest name => ∀ run, s.loaded i = some run → run.workflow = name →
      ∃ defn, get_workflow_latest s.world.registry name = .ok defn
  | _ => True

/-- The rows of every run are the steps of its pinned definition. -/
def RowsPinned (w : World) : Prop :=
  ∀ id run, w.store.runs.get? id = some run → ∃ defn,
    get_workflow w.registry run.workflow run.workflow_version = .ok defn ∧
      (w.store.get_steps id).map StepState.step = defn.steps

/-! ## The registry -/

/-- Every definition is filed under its own name and version. -/
def Filed (registry : Registry) : Prop :=
  ∀ defn ∈ registry.values, registry.get? (registry_key defn.name defn.version) = some defn

/-- Definitions are added, never changed or removed. -/
def Extends (registry registry' : Registry) : Prop :=
  ∀ key defn, registry.get? key = some defn → registry'.get? key = some defn

theorem Extends.refl (registry : Registry) : Extends registry registry := fun _ _ h => h

theorem Extends.trans {a b c : Registry} (h : Extends a b) (h' : Extends b c) : Extends a c :=
  fun key defn hget => h' key defn (h key defn hget)

theorem get_workflow_eq_ok {registry : Registry} {name : String} {version : Int}
    {defn : WorkflowDef} : get_workflow registry name version = .ok defn ↔
      registry.get? (registry_key name version) = some defn := by
  unfold get_workflow
  cases registry.get? (registry_key name version) with
  | none => simp
  | some found => simp

theorem Extends.get_workflow {registry registry' : Registry} {name : String} {version : Int}
    {defn : WorkflowDef} (h : Extends registry registry')
    (hget : get_workflow registry name version = .ok defn) :
    Orchestrator.get_workflow registry' name version = .ok defn := by
  rw [get_workflow_eq_ok] at hget ⊢
  exact h _ _ hget

/-- The decorator adds one definition, under a key that was free. -/
theorem workflow_ok {name : String} {version : Int} {schema : Option (JsonObj → Except Exn Unit)}
    {cls : WorkflowClass} {registry registry' : Registry}
    (h : workflow name version schema cls registry = .ok registry') :
    ∃ defn, defn.name = name ∧ defn.version = version ∧
      registry.get? (registry_key name version) = none ∧
        registry' = registry.set (registry_key name version) defn := by
  unfold workflow at h
  split at h
  · cases h
  split at h
  · split at h
    · cases h
    · cases h
  · split_ifs at h with hmem
    cases h
    refine ⟨_, ?_, ?_, Dict.get?_eq_none_iff.mpr hmem, rfl⟩
    · rfl
    · rfl

theorem Extends.set {registry : Registry} {key : String} {defn : WorkflowDef}
    (hfree : registry.get? key = none) : Extends registry (registry.set key defn) := by
  intro key' found hget
  have hne : key' ≠ key := by
    rintro rfl
    rw [hfree] at hget
    cases hget
  rw [Dict.get?_set_ne _ _ hne]
  exact hget

theorem Filed.set {registry : Registry} {defn : WorkflowDef} (h : Filed registry)
    (hfree : registry.get? (registry_key defn.name defn.version) = none) :
    Filed (registry.set (registry_key defn.name defn.version) defn) := by
  intro found hfound
  obtain ⟨key, hget⟩ := Dict.mem_values_iff.mp hfound
  rcases Dict.get?_set_cases hget with ⟨-, rfl⟩ | ⟨-, hold⟩
  · exact Dict.get?_set_self _ _ _
  · exact Extends.set hfree _ _ (h found (Dict.mem_values_iff.mpr ⟨key, hold⟩))

/-- The definition of the run's version is registered, under its name. -/
structure PinnedTo (registry : Registry) (run : WorkflowRun) (defn : WorkflowDef) : Prop where
  found : get_workflow registry run.workflow run.workflow_version = .ok defn
  name : defn.name = run.workflow
  version : defn.version = run.workflow_version

theorem PinnedTo.mem {registry : Registry} {run : WorkflowRun} {defn : WorkflowDef}
    (h : PinnedTo registry run defn) : defn ∈ registry.values :=
  Dict.mem_values_iff.mpr ⟨_, get_workflow_eq_ok.mp h.found⟩

theorem PinnedTo.mono {registry registry' : Registry} {run : WorkflowRun} {defn : WorkflowDef}
    (h : PinnedTo registry run defn) (hext : Extends registry registry') :
    PinnedTo registry' run defn :=
  ⟨hext.get_workflow h.found, h.name, h.version⟩

/-- **The lookup finds the pinned definition exactly when no newer one is registered.** -/
theorem latest_pinned_iff {registry : Registry} {run : WorkflowRun} {defn : WorkflowDef}
    (hfiled : Filed registry) (h : PinnedTo registry run defn) :
    get_workflow_latest registry run.workflow = .ok defn ↔ Newest registry run := by
  constructor
  · intro hlatest d hd hname
    rw [← h.version]
    exact (latest_ok hlatest).2.2 d hd hname
  · intro hnewest
    obtain ⟨found, hfound⟩ := latest_found h.mem
    rw [h.name] at hfound
    obtain ⟨hmem, hname, hmax⟩ := latest_ok hfound
    -- the version found is the run's own, so it is filed under the same key
    have hle := hnewest found hmem hname
    have hge := hmax defn h.mem h.name
    have hversion : found.version = run.workflow_version := by
      have := h.version
      omega
    have hkey := hfiled found hmem
    rw [hname, hversion] at hkey
    have hsame : some found = some defn := hkey.symm.trans (get_workflow_eq_ok.mp h.found)
    rw [hfound, Option.some.inj hsame]

/-! ## The invariant -/

section proof
variable {env : Env} {i : Nat} {s s' : Watch}

/-- The row names of a run are the steps of its pinned definition. -/
structure RunPinned (registry : Registry) (id : String) (run : WorkflowRun)
    (names : List String) : Prop where
  id : run.id = id
  pinned : ∃ defn, PinnedTo registry run defn ∧ names = defn.steps

/-- Every run and its rows follow one registered definition. -/
def StorePinned (registry : Registry) (store : RunStore) : Prop :=
  ∀ id run, store.runs.get? id = some run →
    RunPinned registry id run ((store.get_steps id).map StepState.step)

/-- The invariant of the histories. -/
structure PinInv (s : Watch) : Prop where
  filed : Filed s.world.registry
  stored : StorePinned s.world.registry s.world.store
  loaded : ∀ i run, s.loaded i = some run → ∃ defn, PinnedTo s.world.registry run defn

/-- What the other threads leave to thread `i`. -/
structure Rely (i : Nat) (s s' : Watch) : Prop where
  registry : Extends s.world.registry s'.world.registry
  loaded : s'.loaded i = s.loaded i
  called : s'.called i = s.called i

/-- What holds where thread `i` makes a call. -/
def PinGuard (i : Nat) (c : Call) (s : Watch) : Prop :=
  FromPinned s i c ∧ ∀ run rows, c = .create_run run rows →
    ∃ defn, PinnedTo s.world.registry run defn ∧ rows.map StepState.step = defn.steps

/-- The contract of thread `i`. -/
def pin_contract (env : Env) (i : Nat) : Contract Call Call.Resp Exn Watch :=
  threadContract (current env) PinInv Rely PinGuard i

theorem Rely.refl (i : Nat) (s : Watch) : Rely i s s := ⟨Extends.refl _, rfl, rfl⟩

theorem Rely.trans {a b c : Watch} (h : Rely i a b) (h' : Rely i b c) : Rely i a c :=
  ⟨h.registry.trans h'.registry, h'.loaded.trans h.loaded, h'.called.trans h.called⟩

theorem RunPinned.mono {registry registry' : Registry} {id : String} {run : WorkflowRun}
    {names : List String} (h : RunPinned registry id run names)
    (hext : Extends registry registry') : RunPinned registry' id run names := by
  obtain ⟨hid, defn, hpinned, hnames⟩ := h
  exact ⟨hid, defn, hpinned.mono hext, hnames⟩

/-- A run keeps its definition when its status or its current step changes. -/
theorem StorePinned.set_run {registry : Registry} {store : RunStore} {run_id : String}
    {run run' : WorkflowRun} (h : StorePinned registry store)
    (hget : store.runs.get? run_id = some run) (hid : run'.id = run.id)
    (hworkflow : run'.workflow = run.workflow)
    (hversion : run'.workflow_version = run.workflow_version) :
    StorePinned registry { store with runs := store.runs.set run_id run' } := by
  intro id found hfound
  rcases Dict.get?_set_cases hfound with ⟨rfl, rfl⟩ | ⟨-, hold⟩
  · obtain ⟨hrun, defn, hpinned, hnames⟩ := h id run hget
    refine ⟨hid.trans hrun, defn, ⟨?_, ?_, ?_⟩, hnames⟩
    · rw [hworkflow, hversion]
      exact hpinned.found
    · rw [hworkflow]
      exact hpinned.name
    · rw [hversion]
      exact hpinned.version
  · exact h id found hold

/-- Rows are rewritten under their names. -/
theorem StorePinned.set_rows {registry : Registry} {store : RunStore} {run_id : String}
    {rows rows' : List StepState} (h : StorePinned registry store)
    (hget : store.steps.get? run_id = some rows)
    (hnames : rows'.map StepState.step = rows.map StepState.step) :
    StorePinned registry { store with steps := store.steps.set run_id rows' } := by
  intro id run hrun
  have hold := h id run hrun
  by_cases hid : id = run_id
  · subst hid
    rw [RunStore.get_steps_eq hget] at hold
    rw [RunStore.get_steps_set_self, hnames]
    exact hold
  · rw [RunStore.get_steps_set_ne store rows' hid]
    exact hold

/-- Every call keeps the runs on their definitions. -/
theorem StorePinned.exec {c : Call} {w : World} (h : StorePinned w.registry w.store)
    (hguard : ∀ run rows, c = .create_run run rows →
      ∃ defn, PinnedTo w.registry run defn ∧ rows.map StepState.step = defn.steps) :
    StorePinned w.registry (exec env c w).2.store := by
  have hchange := exec_store_change env c w
  generalize (Orchestrator.exec env c w).2.store = store at hchange
  generalize (Orchestrator.exec env c w).2.clock = clock at hchange
  cases hchange with
  | created run rows dedupe hmiss =>
    obtain ⟨defn, hpinned, hnames⟩ := hguard run rows rfl
    intro id found hfound
    rcases Dict.get?_set_cases hfound with ⟨rfl, rfl⟩ | ⟨hid, hold⟩
    · refine ⟨rfl, defn, hpinned, ?_⟩
      rw [RunStore.get_steps, Dict.get?_set_self]
      exact hnames
    · have hrows : RunStore.get_steps { w.store with
          runs := w.store.runs.set run.id run, steps := w.store.steps.set run.id rows,
          dedupe := dedupe } id = w.store.get_steps id :=
        RunStore.get_steps_set_ne w.store rows hid
      rw [hrows]
      exact h id found hold
  | status status cur err hget => exact h.set_run hget rfl rfl rfl
  | current step hget => exact h.set_run hget rfl rfl rfl
  | advanced hget _ hstep => exact h.set_rows hget (by simp)
  | updated hget _ hstep => exact h.set_rows hget (by simp [hstep])
  | _ => exact h

theorem note_rely {c : Call} {w : World} {j : Nat} (hji : j ≠ i)
    (hregistry : w.registry = s.world.registry) : Rely j s (note i c s w) := by
  refine ⟨?_, ?_, ?_⟩
  · show Extends _ w.registry
    rw [hregistry]
    exact Extends.refl _
  · show note_loaded i c s j = s.loaded j
    unfold note_loaded
    split
    · exact Function.update_of_ne hji _ _
    · rfl
  · show note_called i c s j = s.called j
    unfold note_called
    split
    · split_ifs
      · exact Function.update_of_ne hji _ _
      · rfl
    · exact Function.update_of_ne hji _ _
    · rfl

/-- A run that has been read is one that was stored, or the thread has it from before. -/
theorem note_loaded_cases {c : Call} {j : Nat} {run : WorkflowRun}
    (h : note_loaded i c s j = some run) :
    s.loaded j = some run ∨ ∃ id, s.world.store.runs.get? id = some run := by
  unfold note_loaded at h
  split at h
  · next run_id =>
    by_cases hji : j = i
    · rw [hji, Function.update_self] at h
      exact Or.inr ⟨run_id, h⟩
    · rw [Function.update_of_ne hji] at h
      exact Or.inl h
  · exact Or.inl h

/-- **Step lemma**: a guarded call keeps the invariant, and the other threads' view. -/
theorem PinInv.step {c : Call} {r : Except Exn c.Resp} (h : PinInv s) (hguard : PinGuard i c s)
    (hstep : current env i c s r s') :
    PinInv s' ∧ (∀ j, j ≠ i → Rely j s s') ∧ s'.world.registry = s.world.registry := by
  obtain ⟨⟨w, hfaulty, rfl⟩, -⟩ := hstep
  have hworld : w.registry = s.world.registry ∧ StorePinned s.world.registry w.store := by
    obtain ⟨rfl, -⟩ | rfl := hfaulty.world
    · exact ⟨rfl, h.stored⟩
    · exact ⟨exec_registry env c s.world, h.stored.exec hguard.2⟩
  obtain ⟨hregistry, hstored⟩ := hworld
  refine ⟨⟨?_, ?_, ?_⟩, fun j hji => note_rely hji hregistry, hregistry⟩
  · show Filed w.registry
    rw [hregistry]
    exact h.filed
  · show StorePinned w.registry w.store
    rw [hregistry]
    exact hstored
  · intro j run hloaded
    show ∃ defn, PinnedTo w.registry run defn
    rw [hregistry]
    obtain hold | ⟨id, hget⟩ := note_loaded_cases hloaded
    · exact h.loaded j run hold
    · obtain ⟨defn, hpinned, -⟩ := (h.stored id run hget).pinned
      exact ⟨defn, hpinned⟩

/-- Locks expire and workflows are registered behind every thread's back. -/
theorem upkeep_keeps (h : PinInv s) (hd : upkeep s s') : PinInv s' ∧ ∀ i, Rely i s s' := by
  cases hd with
  | expire hexpiry =>
    obtain ⟨held, held', -, -, rfl⟩ := hexpiry
    exact ⟨⟨h.filed, h.stored, h.loaded⟩, fun i => ⟨Extends.refl _, rfl, rfl⟩⟩
  | @register name version schema cls registry hregister =>
    obtain ⟨defn, rfl, rfl, hfree, rfl⟩ := workflow_ok hregister
    have hext : Extends s.world.registry
        (s.world.registry.set (registry_key defn.name defn.version) defn) := Extends.set hfree
    refine ⟨⟨h.filed.set hfree, ?_, ?_⟩, fun i => ⟨hext, rfl, rfl⟩⟩
    · intro id run hget
      exact (h.stored id run hget).mono hext
    · intro j run hloaded
      obtain ⟨pinned, hpinned⟩ := h.loaded j run hloaded
      exact ⟨pinned, hpinned.mono hext⟩

/-! ## Rules for the calls -/

/-- An assertion that thread `i` may keep across the steps of the others. -/
def Stable (i : Nat) (A : Watch → Prop) : Prop := ∀ s s', Rely i s s' → A s → A s'

/-- One call. -/
theorem safe_call {c : Call} {A : Watch → Prop} {R : Except Exn c.Resp → Watch → Prop}
    (hA : Stable i A) (hguard : ∀ s, PinInv s → A s → PinGuard i c s)
    (hnext : ∀ s r s', PinInv s → A s → current env i c s r s' →
      s'.world.registry = s.world.registry → R r s') (h : A s) :
    Safe (pin_contract env i) R (await c) s := by
  apply Safe.perform
  intro s₁ hrely hinv
  have hA₁ := hA s s₁ hrely h
  have hg := hguard s₁ hinv hA₁
  refine ⟨hg, ?_⟩
  intro r s₂ hstep
  obtain ⟨hinv₂, hothers, hregistry⟩ := hinv.step hg hstep
  exact ⟨hinv₂, hothers, hnext s₁ r s₂ hinv hA₁ hstep hregistry⟩

/-- Calls that may be made anywhere. -/
def free : Call → Bool
  | .create_run _ _ => false
  | .update_step _ => false
  | .create_gate_request _ => false
  | .invoke _ _ _ => false
  | _ => true

/-- Free calls after which a thread is still about the same. -/
def plain : Call → Bool
  | .get_run _ => false
  | c => free c

theorem free_guard {c : Call} (hc : free c = true) (h : PinInv s) : PinGuard i c s := by
  refine ⟨?_, ?_⟩
  · cases c with
    | create_run run rows => trivial
    | update_step row => cases hc
    | create_gate_request gate => cases hc
    | invoke handler step ctx => cases hc
    | get_workflow_latest name =>
      rintro run hloaded rfl
      obtain ⟨defn, hpinned⟩ := h.loaded i run hloaded
      have hfound := latest_found hpinned.mem
      rw [hpinned.name] at hfound
      exact hfound
    | _ => trivial
  · rintro run rows rfl
    cases hc

theorem plain_free {c : Call} (hc : plain c = true) : free c = true := by
  cases c with
  | get_run run_id => rfl
  | _ => exact hc

/-- A plain call looks to its own thread like a call of another one. -/
theorem plain_rely {c : Call} {r : Except Exn c.Resp} (hc : plain c = true)
    (hstep : current env i c s r s') (hregistry : s'.world.registry = s.world.registry) :
    Rely i s s' := by
  obtain ⟨⟨w, -, rfl⟩, -⟩ := hstep
  refine ⟨?_, ?_, ?_⟩
  · rw [hregistry]
    exact Extends.refl _
  · cases c with
    | get_run run_id => cases hc
    | _ => rfl
  · cases c with
    | update_step row => cases hc
    | invoke handler step ctx => cases hc
    | _ => rfl

/-- A program of plain calls keeps what the thread knows. -/
theorem safe_plain {α : Type} {p : M α} {A : Watch → Prop} (hA : Stable i A)
    (hp : Issues (fun c => plain c = true) p) (h : A s) :
    Safe (pin_contract env i) (fun _ s' => A s') p s := by
  apply Safe.of_issues (C := pin_contract env i) (P := fun c => plain c = true) (A := A) hA _ hp h
  intro c s hc hinv hs
  have hguard : PinGuard i c s := free_guard (plain_free hc) hinv
  refine ⟨hguard, ?_⟩
  intro r s' hstep
  obtain ⟨hinv', hothers, hregistry⟩ := hinv.step hguard hstep
  exact ⟨hinv', hothers, hA s s' (plain_rely hc hstep hregistry) hs⟩

/-- A free call needs nothing. -/
theorem free_call {c : Call} (hc : free c = true) : Free (pin_contract env i) c := by
  intro s hinv
  have hguard : PinGuard i c s := free_guard hc hinv
  refine ⟨hguard, ?_⟩
  intro r s' hstep
  obtain ⟨hinv', hothers, -⟩ := hinv.step hguard hstep
  exact ⟨hinv', hothers⟩

/-- A program of free calls needs nothing. -/
theorem safe_free {α : Type} {p : M α} (hp : Issues (fun c => free c = true) p) :
    Safe (pin_contract env i) (fun _ _ => True) p s :=
  Safe.weaken (walk_free (hp.mono fun _ hc => free_call hc) s) fun _ _ _ => trivial

theorem pin_lenient (env : Env) (i : Nat) : Lenient (pin_contract env i) where
  plain := by
    intro c hc
    apply free_call
    cases c <;> first | rfl | cases hc
  parked := fun _ _ => free_call rfl
  no_reset := by
    rintro row s a s' hrow ⟨⟨w, hfaulty, -⟩, -⟩
    exact exec_pending hrow hfaulty.ok

/-- Sequencing, when nothing is asked of the end. -/
theorem safe_then {α β : Type} {p : M α} {f : α → M β} {P : Except Exn α → Watch → Prop}
    (h : Safe (pin_contract env i) P p s)
    (hf : ∀ a s', P (.ok a) s' → Safe (pin_contract env i) (fun _ _ => True) (f a) s') :
    Safe (pin_contract env i) (fun _ _ => True) (p.bind f) s :=
  Safe.bind h hf fun _ _ _ => trivial

/-! ## A pass -/

/-- Thread `i` works on `run`, and has called the handler of `step` if the definition has one. -/
structure Tried (i : Nat) (run : WorkflowRun) (defn : WorkflowDef) (step : String) (s : Watch) :
    Prop where
  works : WorksOn s i run defn
  called : step ∈ defn.steps → s.called i = true

theorem stable_works (run : WorkflowRun) (defn : WorkflowDef) :
    Stable i fun s => WorksOn s i run defn := by
  intro s s' hrely h
  exact ⟨hrely.loaded.trans h.loaded, hrely.registry.get_workflow h.pinned⟩

theorem stable_tried (run : WorkflowRun) (defn : WorkflowDef) (step : String) :
    Stable i (Tried i run defn step) := by
  intro s s' hrely h
  refine ⟨stable_works run defn s s' hrely h.works, ?_⟩
  intro hstep
  rw [hrely.called]
  exact h.called hstep

/-- A row is written as running, completed or reset: the thread stays at its run. -/
theorem safe_write_row {row : StepState} {run : WorkflowRun} {defn : WorkflowDef}
    (hstatus : row.status ≠ .FAILED) (h : WorksOn s i run defn) :
    Safe (pin_contract env i) (fun _ s' => WorksOn s' i run defn) (await (.update_step row)) s := by
  apply safe_call (stable_works run defn) _ _ h
  · intro s _ _
    exact ⟨fun hfailed => absurd hfailed hstatus, fun _ _ hc => by cases hc⟩
  · rintro s r s' _ hs ⟨⟨w, -, rfl⟩, -⟩ hregistry
    refine ⟨hs.loaded, ?_⟩
    rw [hregistry]
    exact hs.pinned

/-- A completed or reset row does not forget the call either. -/
theorem safe_write_tried {row : StepState} {run : WorkflowRun} {defn : WorkflowDef} {step : String}
    (hfailed : row.status = .FAILED → row.step = step) (hrunning : row.status ≠ .RUNNING)
    (h : Tried i run defn step s) :
    Safe (pin_contract env i) (fun _ s' => Tried i run defn step s') (await (.update_step row))
      s := by
  apply safe_call (stable_tried run defn step) _ _ h
  · intro s _ hs
    refine ⟨fun hrow => ⟨run, defn, hs.works, ?_⟩, fun _ _ hc => by cases hc⟩
    rw [hfailed hrow]
    exact hs.called
  · rintro s r s' _ hs ⟨⟨w, -, rfl⟩, -⟩ hregistry
    refine ⟨⟨hs.works.loaded, ?_⟩, ?_⟩
    · rw [hregistry]
      exact hs.works.pinned
    · intro hstep
      show note_called i (.update_step row) s i = true
      simp only [note_called, if_neg hrunning]
      exact hs.called hstep

/-- The handler of the pinned definition is called. -/
theorem safe_invoke {handler : Handler} {step : String} {ctx : StepContext} {run : WorkflowRun}
    {defn : WorkflowDef} (hid : run.id = ctx.run_id) (hhandler : defn.handlers step = some handler)
    (h : WorksOn s i run defn) :
    Safe (pin_contract env i) (fun _ s' => Tried i run defn step s')
      (await (.invoke handler step ctx)) s := by
  apply safe_call (stable_works run defn) _ _ h
  · intro s _ hs
    exact ⟨⟨run, defn, hs, hid, hhandler⟩, fun _ _ hc => by cases hc⟩
  · rintro s r s' _ hs ⟨⟨w, -, rfl⟩, -⟩ hregistry
    refine ⟨⟨hs.loaded, ?_⟩, ?_⟩
    · rw [hregistry]
      exact hs.pinned
    · intro _
      show note_called i (.invoke handler step ctx) s i = true
      simp only [note_called, Function.update_self]

/-- The `try` block: whatever it raises, it has called the handler first. -/
theorem yields_try_step (engine : Engine) {run : WorkflowRun} {defn : WorkflowDef}
    {run_id : String} {row : StepState} {ctx : StepContext} (compensations : List Compensation)
    (hid : run.id = ctx.run_id) (hgate : is_gate row.step = false) (h : WorksOn s i run defn) :
    Yields (pin_contract env i)
      (fun done s' => done.row.step = row.step ∧ Tried i run defn row.step s')
      (engine.try_step defn run_id row ctx compensations) s := by
  unfold Engine.try_step
  cases hhandler : defn.handlers row.step with
  | none =>
    refine Yields.ret ⟨rfl, h, ?_⟩
    intro hstep
    -- a definition has handlers for its own steps
    have htotal := defn.handlers_total row.step hstep hgate
    rw [hhandler] at htotal
    cases htotal
  | some handler =>
    have hstable := stable_tried (i := i) run defn row.step
    apply Yields.bind (.attempt_keeps (safe_invoke hid hhandler h))
    intro returned s₁ h₁
    rcases returned with e | ⟨output, hooks⟩
    · exact Yields.ret ⟨rfl, h₁⟩
    have hrecord : Issues (fun c => plain c = true) (do
        let _ ← await (.reserve row.idem_key)
        await (.record row.idem_key (output.getD [])) : M Unit) :=
      .bind (.perform rfl) fun _ => .perform rfl
    apply Yields.bind (.attempt_keeps (safe_plain hstable hrecord h₁))
    intro recorded s₂ h₂
    rcases recorded with e | u
    · exact Yields.ret ⟨rfl, h₂⟩
    apply Yields.bind (.of_keeps (safe_plain hstable (.perform rfl) h₂))
    intro now s₃ h₃
    have hcomplete : Safe (pin_contract env i) (fun _ s' => Tried i run defn row.step s')
        (do
          await (.update_step (Engine.succeeded_row row (output.getD []) now))
          engine.audit "step.succeeded" run_id [("step", .str row.step)] (output.getD [])
          await (.set_current_step run_id row.step) : M Unit) s₃ := by
      apply Safe.bind (safe_write_tried (fun hfailed => by cases hfailed)
        (fun hrunning => by cases hrunning) h₃) _ fun _ _ h => h
      intro _ s₄ h₄
      exact safe_plain hstable (.bind (Engine.audit_issues engine _ _ _ _ fun _ => rfl)
        fun _ => .perform rfl) h₄
    apply Yields.bind (.attempt_keeps hcomplete)
    intro completed s₄ h₄
    rcases completed with e | u
    · exact Yields.ret ⟨rfl, h₄⟩
    · exact Yields.ret ⟨rfl, h₄⟩

/-- The `except` block: the row is marked failed and the run parked. The store refuses to reset
    the row, so the pass is not repeated. -/
theorem safe_fail_step (engine : Engine) (again : M WorkflowRun) {run : WorkflowRun}
    {defn : WorkflowDef} (run_id : String) {row : StepState} {step : String}
    (compensations : List Compensation) (exn : Exn) (hrow : row.step = step)
    (h : Tried i run defn step s) :
    Safe (pin_contract env i) (fun _ _ => True)
      (engine.fail_step again run_id row compensations exn) s := by
  unfold Engine.fail_step
  apply safe_then (safe_plain (stable_tried run defn step) (.perform rfl) h)
  intro now s₁ h₁
  have hmark : Safe (pin_contract env i) (fun _ s' => Tried i run defn step s')
      (await (.update_step (Engine.failed_row row (classify_error exn row.attempt) now))) s₁ :=
    safe_write_tried (fun _ => hrow) (fun hrunning => by cases hrunning) h₁
  apply safe_then hmark
  intro _ s₂ h₂
  split
  · have hreset : Safe (pin_contract env i) (fun r _ => ∀ a, r ≠ .ok a)
        (await (.update_step { Engine.failed_row row (classify_error exn row.attempt) now with
          status := .PENDING })) s₂ := by
      apply safe_call (A := fun _ => True) (fun _ _ _ _ => trivial) _ _ trivial
      · intro s _ _
        exact ⟨fun hfailed => (by cases hfailed), fun _ _ hc => (by cases hc)⟩
      · rintro s r s' _ - hstep - a rfl
        exact (pin_lenient env i).no_reset _ s a s' rfl hstep
    apply safe_then hreset
    intro a _ hnever
    exact absurd rfl (hnever a)
  · apply safe_free
    exact .bind (Engine.park_issues engine run_id _ _ (fun _ => rfl) rfl fun _ => rfl) fun _ =>
      Engine.reload_issues run_id rfl

/-- The loop, with the pinned definition in hand. -/
theorem safe_execute_loop (engine : Engine) (again : M WorkflowRun) {run : WorkflowRun}
    {defn : WorkflowDef} {run_id : String} (rows : List StepState)
    (outputs : Dict String JsonObj) (compensations : List Compensation) (hid : run.id = run_id)
    (h : WorksOn s i run defn) :
    Safe (pin_contract env i) (fun _ _ => True)
      (engine.execute_loop again run defn run_id rows outputs compensations) s := by
  induction rows generalizing outputs compensations s with
  | nil =>
    apply safe_free
    exact .bind (.perform rfl) fun _ =>
      .bind (Engine.audit_issues engine _ _ _ _ fun _ => rfl) fun _ =>
        Engine.reload_issues run_id rfl
  | cons row rest ih =>
    unfold Engine.execute_loop
    have hstable := stable_works (i := i) run defn
    by_cases hdone : Engine.step_done row.status = true
    · rw [if_pos hdone]
      exact ih _ _ h
    rw [if_neg hdone]
    by_cases hgate : is_gate row.step = true
    · rw [if_pos hgate]
      unfold Engine.handle_gate
      apply safe_then _ fun _ _ _ => safe_free (Engine.reload_issues run_id rfl)
      · exact fun _ _ => True
      apply safe_then (safe_plain hstable (.perform rfl) h)
      intro gate_id s₁ h₁
      apply safe_then (safe_plain hstable (.perform rfl) h₁)
      intro now s₂ h₂
      have hcreate : Safe (pin_contract env i) (fun _ _ => True) (await (.create_gate_request
          (Engine.gate_request run.id row.step gate_id (defn.gate_config row.step) now))) s₂ := by
        apply safe_call hstable _ (fun _ _ _ _ _ _ _ => trivial) h₂
        intro s _ hs
        exact ⟨⟨run, defn, hs, rfl, rfl, rfl, rfl, rfl⟩, fun _ _ hc => by cases hc⟩
      apply safe_then hcreate
      intro _ s₃ _
      apply safe_free
      exact .bind (Engine.issue_tokens_issues engine _ _ _ _ _ rfl rfl fun _ => rfl) fun _ =>
        .bind (.perform rfl) fun _ => Engine.audit_issues engine _ _ _ _ fun _ => rfl
    rw [if_neg hgate]
    apply safe_then (safe_plain hstable (.perform rfl) h)
    intro found s₁ h₁
    cases found with
    | some existing =>
      apply safe_then (safe_plain hstable (.perform rfl) h₁)
      intro _ s₂ h₂
      exact ih _ _ h₂
    | none =>
      apply safe_then (safe_plain hstable (.perform rfl) h₁)
      intro now s₂ h₂
      apply safe_then (safe_write_row (fun hfailed => by cases hfailed) h₂)
      intro _ s₃ h₃
      have hnot : is_gate (Engine.running_row row now).step = false := by
        show is_gate row.step = false
        simpa using hgate
      have htry : Yields (pin_contract env i)
          (fun done s' => done.row.step = row.step ∧ Tried i run defn row.step s')
          (engine.try_step defn run_id (Engine.running_row row now)
            ⟨run_id, run.context, outputs, row.idem_key⟩ compensations) s₃ :=
        yields_try_step engine compensations hid hnot h₃
      apply safe_then htry
      intro done s₄ h₄
      obtain ⟨hname, htried⟩ := h₄ done rfl
      cases done.result with
      | ok output => exact ih _ _ htried.works
      | error e => exact safe_fail_step engine again run_id _ e hname htried

/-- What a thread knows when it has read a run. -/
def Read (i : Nat) (run_id : String) (run : WorkflowRun) (s : Watch) : Prop :=
  s.loaded i = some run ∧ run.id = run_id

theorem stable_read (run_id : String) (run : WorkflowRun) : Stable i (Read i run_id run) := by
  intro s s' hrely h
  exact ⟨hrely.loaded.trans h.1, h.2⟩

theorem safe_get_run (run_id : String) (s : Watch) :
    Safe (pin_contract env i) (fun r s' => ∀ run, r = .ok (some run) → Read i run_id run s')
      (await (.get_run run_id)) s := by
  apply safe_call (A := fun _ => True) (fun _ _ _ _ => trivial) _ _ trivial
  · intro s hinv _
    exact free_guard rfl hinv
  · rintro s r s' hinv - ⟨⟨w, hfaulty, rfl⟩, -⟩ - run rfl
    have hget : s.world.store.get_run run_id = some run := by
      have hcall := hfaulty.ok
      simp only [exec, Prod.mk.injEq, Except.ok.injEq] at hcall
      exact hcall.1
    refine ⟨?_, (hinv.stored run_id run hget).id⟩
    show note_loaded i (.get_run run_id) s i = some run
    simp only [note_loaded, Function.update_self]
    exact hget

/-- The lookup of a pass finds the pinned definition. -/
theorem safe_lookup {run_id : String} {run : WorkflowRun} (h : Read i run_id run s) :
    Safe (pin_contract env i) (fun r s' => ∀ defn, r = .ok defn → WorksOn s' i run defn)
      (await (.get_workflow_latest run.workflow)) s := by
  apply safe_call (stable_read run_id run) _ _ h
  · intro s hinv _
    exact free_guard rfl hinv
  · rintro s r s' hinv hs ⟨⟨w, hfaulty, rfl⟩, hnewest⟩ hregistry defn rfl
    obtain ⟨pinned, hpinned⟩ := hinv.loaded i run hs.1
    have hlatest := (latest_pinned_iff hinv.filed hpinned).mpr (hnewest _ run rfl hs.1)
    have hcall := hfaulty.ok
    simp only [exec, Prod.mk.injEq] at hcall
    rw [hlatest, Except.ok.injEq] at hcall
    obtain ⟨rfl, -⟩ := hcall
    refine ⟨hs.1, ?_⟩
    rw [hregistry]
    exact hpinned.found

theorem safe_begin_run {run_id : String} {run : WorkflowRun} (h : Read i run_id run s) :
    Yields (pin_contract env i) (fun run' s' => Read i run_id run' s')
      (Engine.begin_run run_id run) s := by
  unfold Engine.begin_run
  split
  · apply Yields.bind (.of_keeps (safe_plain (stable_read run_id run) (.perform rfl) h))
    intro _ s₁ _
    have hget : Yields (pin_contract env i)
        (fun found s' => ∀ run', found = some run' → Read i run_id run' s')
        (await (.get_run run_id)) s₁ := by
      apply Safe.weaken (safe_get_run run_id s₁)
      rintro r s' hr found rfl run' rfl
      exact hr run' rfl
    apply Yields.bind hget
    intro found s₂ h₂
    cases found with
    | none => exact Yields.raise
    | some run' => exact Yields.ret (h₂ run' rfl)
  · exact Yields.ret h

theorem yields_execute_locked (engine : Engine) (again : M WorkflowRun) (run_id : String)
    (s : Watch) :
    Yields (pin_contract env i) (fun _ _ => True) (engine.execute_locked again run_id) s := by
  apply Yields.of_keeps
  apply safe_then (safe_get_run run_id s)
  intro found s₁ h₁
  cases found with
  | none => exact Safe.raise trivial
  | some run =>
    apply safe_then (safe_begin_run (h₁ run rfl))
    intro run' s₂ h₂
    have hread := h₂ run' rfl
    apply safe_then (safe_lookup hread)
    intro defn s₃ h₃
    apply safe_then (safe_plain (stable_works run' defn) (.perform rfl) (h₃ defn rfl))
    intro rows s₄ h₄
    exact safe_execute_loop engine again rows _ _ hread.2 h₄

/-! ## The other requests -/

/-- A definition that has been found stays registered. -/
def Registered (name : String) (defn : WorkflowDef) (s : Watch) : Prop :=
  defn.name = name ∧ get_workflow s.world.registry defn.name defn.version = .ok defn

theorem stable_registered (name : String) (defn : WorkflowDef) :
    Stable i (Registered name defn) := by
  intro s s' hrely h
  exact ⟨h.1, hrely.registry.get_workflow h.2⟩

/-- A new run is pinned to the definition its rows were laid out from. -/
theorem safe_start_run (args : StartArgs) (s : Watch) :
    Safe (pin_contract env i) (fun _ _ => True) (start_run args) s := by
  have hlookup : Safe (pin_contract env i)
      (fun r s' => ∀ defn, r = .ok defn → Registered args.workflow_name defn s')
      (await (.get_workflow_latest args.workflow_name)) s := by
    apply safe_call (A := fun _ => True) (fun _ _ _ _ => trivial) _ _ trivial
    · intro s hinv _
      exact free_guard rfl hinv
    · rintro s r s' hinv - ⟨⟨w, hfaulty, rfl⟩, -⟩ hregistry defn rfl
      have hcall := hfaulty.ok
      simp only [exec, Prod.mk.injEq] at hcall
      obtain ⟨hmem, hname, -⟩ := latest_ok hcall.1
      refine ⟨hname, ?_⟩
      rw [hregistry]
      exact get_workflow_eq_ok.mpr (hinv.filed defn hmem)
  apply safe_then hlookup
  intro defn s₁ h₁
  have hstable := stable_registered (i := i) args.workflow_name defn
  apply safe_then (safe_plain hstable .ofExcept (h₁ defn rfl))
  intro _ s₂ h₂
  apply safe_then (safe_plain hstable (.perform rfl) h₂)
  intro now s₃ h₃
  have hchoose : Issues (fun c => plain c = true) args.choose_run_id := by
    unfold StartArgs.choose_run_id
    split
    · exact .ret
    · exact .perform rfl
  apply safe_then (safe_plain hstable hchoose h₃)
  intro run_id s₄ h₄
  apply safe_call hstable _ (fun _ _ _ _ _ _ _ => trivial) h₄
  rintro s - ⟨hname, hfound⟩
  refine ⟨trivial, ?_⟩
  rintro run rows ⟨rfl, rfl⟩
  refine ⟨defn, ⟨?_, hname, rfl⟩, initial_rows_steps run_id 0 defn.steps⟩
  show get_workflow s.world.registry args.workflow_name defn.version = .ok defn
  rw [← hname]
  exact hfound

theorem safe_request (engine : Engine) (q : Request) (s : Watch) :
    Safe (pin_contract env i) (fun _ _ => True) (q.program engine) s := by
  cases q with
  | start_run args => exact Safe.discard (safe_start_run args s)
  | execute depth run_id =>
    exact (walk_execute (pin_lenient env i) engine depth run_id s
      fun again s => yields_execute_locked engine again run_id s).discard
  | recovery_sweep depth enqueue =>
    exact (walk_recovery_sweep (pin_lenient env i) engine depth enqueue s
      fun run_id again s => yields_execute_locked engine again run_id s).discard
  | resolve_gate args =>
    apply safe_free
    apply Issues.discard
    apply (resolve_gate_of_resolution engine.crypto args).mono
    intro c hc
    cases c with
    | create_run run rows => cases hc
    | update_step row => cases hc
    | create_gate_request gate => cases hc
    | invoke handler step ctx => cases hc
    | _ => rfl
  | update_run_status run_id status => exact safe_free (.perform rfl)

end proof

/-- **Version pinning.** Requests on any workflows are interleaved call by call, with failing
    services, crashes and expiring locks, and workflows are registered at any time. As
    long as every pass looks its definition up while no version above the run's own is
    registered, every handler invoked and every gate request created comes from the definition
    registered under the workflow and version of the run, a step is marked failed only after its
    handler has been called, and the rows of each run stay the steps of that definition. -/
theorem passes_pinned_when_newest {env : Env} {engine : Engine} {s : Watch} {ts : List (M Unit)}
    (h : Registering (current env) engine s ts) :
    (∀ i c k, ts[i]? = some (.call c k) → FromPinned s i c) ∧ RowsPinned s.world := by
  have hsafe : PinInv s ∧ ∀ i p, ts[i]? = some p →
      Safe (pin_contract env i) (fun _ _ => True) p s := by
    refine Pool.safe (G := PinGuard) Rely.refl (fun _ => Rely.trans) ?_ ?_ ?_ h
    · rintro s ⟨idem, lock, rfl⟩
      refine ⟨?_, ?_, ?_⟩
      · intro defn hdefn
        cases hdefn
      · intro id run hget
        cases hget
      · intro i run hloaded
        cases hloaded
    · rintro s p _ ⟨q, rfl⟩ i
      exact safe_request engine q s
    · intro s s' hinv hd
      exact upkeep_keeps hinv hd
  constructor
  · intro i c k hi
    exact (Pool.guard_holds Rely.refl hsafe hi).1
  · intro id run hget
    obtain ⟨defn, hpinned, hnames⟩ := (hsafe.1.stored id run hget).pinned
    exact ⟨defn, hpinned.found, hnames⟩

/-! ## A second version in flight -/

section editions

/-- A workflow class with one step, which returns nothing in the first edition. -/
def letter_class (output : Option JsonObj) : WorkflowClass where
  cls_name := "Letter"
  steps := ["draft"]
  gates _ := none
  methods _ := some ⟨true, fun _ _ => .returned output []⟩

/-- The registry after one more version of the letter. -/
def with_edition (version : Int) (output : Option JsonObj) (s : Watch) : Watch :=
  { s with world := { s.world with
      registry := match workflow "plain" version none (letter_class output) s.world.registry with
        | .ok registry => registry
        | .error _ => s.world.registry } }

theorem edition_registered {version : Int} {output : Option JsonObj} {s : Watch}
    (h : (workflow "plain" version none (letter_class output) s.world.registry).toBool = true) :
    upkeep s (with_edition version output s) := by
  cases hregister : workflow "plain" version none (letter_class output) s.world.registry with
  | error e =>
    rw [hregister] at h
    cases h
  | ok registry =>
    unfold with_edition
    rw [hregister]
    exact .register hregister

/-- The services, as thread `i` sees them. -/
def watch_exec (i : Nat) : Service Call Call.Resp Exn Watch :=
  fun c s => ((exec reference_env c s.world).1, note i c s (exec reference_env c s.world).2)

theorem watched_exec (i : Nat) (c : Call) (s : Watch) :
    watched reference_env i c s (watch_exec i c s).1 (watch_exec i c s).2 :=
  ⟨_, .answered, rfl⟩

/-- The next `n` calls of thread `i`. -/
theorem watched_calls (i n : Nat) (p : M Unit) (s : Watch) :
    Steps (watched reference_env i) p s (after (watch_exec i) n p s).1
      (after (watch_exec i) n p s).2 :=
  steps_after_in (J := fun _ => True) (fun c s _ => ⟨watched_exec i c s, trivial⟩) n p trivial

/-- The first edition is registered. -/
def first_edition : Watch := with_edition 1 none (blank (.in_memory ∅) none)

def start_letter : M Unit := Request.program reference_engine (.start_run plain_start)

def execute_letter : M Unit := Request.program reference_engine (.execute 1 "id-0")

/-- Thread 0 has started a run of it. -/
def letter_started : M Unit × Watch := after (watch_exec 0) 4 start_letter first_edition

/-- Thread 1 has looked its definition up. -/
def letter_looked_up : M Unit × Watch := after (watch_exec 1) 5 execute_letter letter_started.2

/-- Then the second edition is registered, and thread 1 is about to invoke the handler of `draft`. -/
def letter_drafting : M Unit × Watch :=
  after (watch_exec 1) 4 letter_looked_up.1 (with_edition 2 (some []) letter_looked_up.2)

/-- The second edition is registered before thread 1 looks its definition up. -/
def letter_overtaken : M Unit × Watch :=
  after (watch_exec 1) 9 execute_letter (with_edition 2 (some []) letter_started.2)

/-- The handler returns a dictionary. -/
def returns_dict (handler : Handler) (ctx : StepContext) : Bool :=
  match handler [] ctx with
  | .returned (some _) _ => true
  | _ => false

/-- The next call of thread `i` invokes a handler that returns a dictionary, and the pinned
    definition's handler for this step does not. -/
def strays (i : Nat) (s : Watch) : M Unit → Bool
  | .call (.invoke handler step ctx) _ =>
    match s.loaded i with
    | none => false
    | some run =>
      match get_workflow s.world.registry run.workflow run.workflow_version with
      | .error _ => false
      | .ok defn => returns_dict handler ctx &&
        ((defn.handlers step).map fun pinned => returns_dict pinned ctx) == some false
  | _ => false

theorem strays_not_pinned {i : Nat} {s : Watch} {p : M Unit} (h : strays i s p = true) :
    ∃ c k, p = .call c k ∧ ¬FromPinned s i c := by
  unfold strays at h
  split at h
  · next handler step ctx k =>
    refine ⟨_, k, rfl, ?_⟩
    rintro ⟨run, defn, ⟨hloaded, hpinned⟩, -, hhandler⟩
    simp only [hloaded, hpinned, hhandler, Option.map_some, Bool.and_eq_true, beq_iff_eq,
      Option.some.injEq] at h
    rw [h.1] at h
    cases h.2
  · cases h

/-- **The newest version runs**: the run was started under version 1, version 2 is registered
    before it is executed, and the handler about to be invoked is version 2's. -/
theorem second_edition_invoked :
    ∃ s ts c k, Registering (watched reference_env) reference_engine s ts ∧
      ts[1]? = some (.call c k) ∧ ¬FromPinned s 1 c := by
  have hfirst : Registering (watched reference_env) reference_engine first_edition [] :=
    .drift (.boot ⟨_, _, rfl⟩) (edition_registered (by decide +kernel))
  have hstarted := Pool.alone (i := 0) (fun _ _ _ _ h => h) (.spawn hfirst ⟨_, rfl⟩) rfl
    (watched_calls 0 4 start_letter first_edition)
  have hupkeep : upkeep letter_started.2 (with_edition 2 (some []) letter_started.2) :=
    edition_registered (by decide +kernel)
  have hovertaken := Pool.alone (i := 1) (fun _ _ _ _ h => h)
    (.spawn (.drift hstarted hupkeep) ⟨_, rfl⟩) rfl (watched_calls 1 9 execute_letter _)
  have hstrays : strays 1 letter_overtaken.2 letter_overtaken.1 = true := by decide +kernel
  obtain ⟨c, k, hcall, hnot⟩ := strays_not_pinned hstrays
  exact ⟨letter_overtaken.2, _, c, k, hovertaken, congrArg some hcall, hnot⟩

/-- A lookup of thread `i` finds the version of its run the newest. -/
def newest_looked_up (i : Nat) (c : Call) (s : Watch) : Bool :=
  match c, s.loaded i with
  | .get_workflow_latest _, some run => s.world.registry.values.all fun defn =>
      decide (defn.name = run.workflow → defn.version ≤ run.workflow_version)
  | _, _ => true

theorem current_exec {i : Nat} {c : Call} {s : Watch} (h : newest_looked_up i c s = true) :
    current reference_env i c s (watch_exec i c s).1 (watch_exec i c s).2 := by
  refine ⟨watched_exec i c s, ?_⟩
  rintro name run rfl hloaded
  simp only [newest_looked_up, hloaded, List.all_eq_true, decide_eq_true_eq] at h
  exact h

/-- The next `n` calls of thread `i`, each checked where it is made. -/
theorem current_calls (i n : Nat) (p : M Unit) (s : Watch)
    (h : afterMeets (watch_exec i) (newest_looked_up i) n p s = true) :
    Steps (current reference_env i) p s (after (watch_exec i) n p s).1
      (after (watch_exec i) n p s).2 := by
  refine steps_after_meets ?_ n p s h
  intro c s hc
  exact current_exec hc

/-- The handler that thread `i` is about to invoke is the pinned one. -/
def invokes_pinned (s : Watch) (i : Nat) (p : M Unit) : Prop :=
  ∃ handler step ctx k, p = .call (.invoke handler step ctx) k ∧
    FromPinned s i (.invoke handler step ctx)

/-- The guarantee at work: the second edition is registered after the pass has looked its definition
    up, and the handler invoked is the first edition's. -/
theorem first_edition_invoked : invokes_pinned letter_drafting.2 1 letter_drafting.1 := by
  have hfirst : Registering (current reference_env) reference_engine first_edition [] :=
    .drift (.boot ⟨_, _, rfl⟩) (edition_registered (by decide +kernel))
  have hstarted := Pool.alone (i := 0) (fun _ _ _ _ h => h) (.spawn hfirst ⟨_, rfl⟩) rfl
    (current_calls 0 4 start_letter first_edition (by decide +kernel))
  have hlooked_up := Pool.alone (i := 1) (fun _ _ _ _ h => h) (.spawn hstarted ⟨_, rfl⟩) rfl
    (current_calls 1 5 execute_letter letter_started.2 (by decide +kernel))
  have hupkeep : upkeep letter_looked_up.2 (with_edition 2 (some []) letter_looked_up.2) :=
    edition_registered (by decide +kernel)
  have hdrafting := Pool.alone (i := 1) (fun _ _ _ _ h => h) (.drift hlooked_up hupkeep) rfl
    (current_calls 1 4 letter_looked_up.1 _ (by decide +kernel))
  have hinvoking : invoking letter_drafting.1 = some ("id-0", "draft") := by decide +kernel
  obtain ⟨handler, ctx, k, hcall, -⟩ := invoking_eq_some hinvoking
  exact ⟨handler, "draft", ctx, k, hcall,
    (passes_pinned_when_newest hdrafting).1 1 _ k (congrArg some hcall)⟩

end editions

end Pinning

end CaseAutomation.Orchestrator
