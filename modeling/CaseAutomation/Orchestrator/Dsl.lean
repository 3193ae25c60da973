import CaseAutomation.Framework.Dict
import CaseAutomation.Orchestrator.States

/-! # Workflow Definitions

    Gate configuration, step contexts, handlers and the workflow registry of
    `orchestrator/dsl.py`.

    A handler is arbitrary code with external effects. It is modelled as a
    function of its `StepContext` and of everything that has happened in the
    outside world so far (the list of `Event`s), so it may keep state, fail on
    its first invocations, or answer differently each time.
-/

namespace CaseAutomation.Orchestrator

open Framework

/-! ## Gate configuration -/

/-- `GATE_PREFIX`. -/
def GATE_PREFIX : String := "GATE:"

/-- Per-gate configuration embedded in a workflow class. -/
structure GateConfig where
  required_role : String
  quorum : Int
  channels : List Channel
  ttl_seconds : Int
  deriving DecidableEq, Repr

/-- `_DEFAULT_GATE_CONFIG`: the field defaults of `GateConfig`. -/
def default_gate_config : GateConfig where
  required_role := "attorney"
  quorum := 1
  channels := [.mcp, .web, .email]
  ttl_seconds := 86400

/-- `WorkflowDef.is_gate`. -/
def is_gate (step : String) : Bool := startswith step GATE_PREFIX

/-- `WorkflowDef.gate_name`: strip the prefix. -/
def gate_name (step : String) : String := slice_from step GATE_PREFIX.toList.length

/-! ## Step contexts, handlers and events -/

/-- A compensation hook: an opaque callable, told apart by its label. -/
structure Compensation where
  label : String
  /-- The exception the hook raises when called, if any. -/
  fails : Option Exn
  deriving DecidableEq, Repr

/-- What a step handler is given. -/
structure StepContext where
  run_id : String
  context : JsonObj
  step_outputs : Dict String JsonObj
  idem_key : String

/-- `StepContext.output`: a prior step's output, if it has run. -/
def StepContext.output (ctx : StepContext) (step_name : String) : Option JsonObj :=
  ctx.step_outputs.get? step_name

/-- How one invocation of a handler ends: with its return value and the hooks it
    registered with `ctx.compensate`, or with an exception. -/
inductive HandlerResult where
  | returned (output : Option JsonObj) (compensations : List Compensation)
  | raised (exn : Exn)

/-- An entry handed to the audit service. -/
structure AuditEntry where
  actor : String
  action : String
  inputs : JsonObj
  outputs : JsonObj
  run_id : Option String

/-- What the outside world has seen: effects and completed writes, oldest first. -/
inductive Event where
  /-- A handler was invoked. -/
  | invoked (run_id step : String) (ctx : StepContext) (result : HandlerResult)
  /-- A compensation hook was called. -/
  | compensated (run_id : String) (fn : Compensation)
  /-- `idem.record` completed. -/
  | recorded (idem_key : String) (output : JsonObj)
  /-- `store.update_step` completed. -/
  | step_updated (run_id step : String) (status : StepStatus)
  | audited (entry : AuditEntry)
  /-- A run was handed to the job queue. -/
  | enqueued (run_id : String)
  /-- An error was logged for a run. -/
  | logged_error (event run_id : String) (exn : Exn)

/-- A bound handler method. -/
abbrev Handler : Type := List Event → StepContext → HandlerResult

/-! ## Workflow definitions and the registry -/

/-- A parsed, validated workflow definition: it has steps, and every step that is
    not a gate has a handler. -/
structure WorkflowDef where
  name : String
  version : Int
  steps : List String
  handlers : String → Option Handler
  gate_configs : String → Option GateConfig
  /-- `input_schema.model_validate`, if a schema is declared. -/
  input_schema : Option (JsonObj → Except Exn Unit)
  steps_ne_nil : steps ≠ []
  handlers_total : ∀ step ∈ steps, is_gate step = false → (handlers step).isSome

namespace WorkflowDef

def gate_config (defn : WorkflowDef) (step : String) : GateConfig :=
  (defn.gate_configs (gate_name step)).getD default_gate_config

/-- Validate a context against the input schema, if there is one. -/
def validate_context (defn : WorkflowDef) (context : JsonObj) : Except Exn Unit :=
  match defn.input_schema with
  | none => .ok ()
  | some schema => schema context

end WorkflowDef

/-- `_REGISTRY`: definitions keyed by `"name:version"`, in registration order. -/
abbrev Registry : Type := Dict String WorkflowDef

/-- `_registry_key`. -/
def registry_key (name : String) (version : Int) : String := name ++ ":" ++ toString version

/-- A method found on a workflow class. -/
structure Method where
  is_coroutine : Bool
  handler : Handler

/-- The class body given to the `@workflow` decorator. -/
structure WorkflowClass where
  cls_name : String
  steps : List String
  gates : String → Option GateConfig
  methods : String → Option Method

/-- The method of a step is an `async def`. -/
def WorkflowClass.has_handler (cls : WorkflowClass) (step : String) : Bool :=
  match cls.methods step with
  | some m => m.is_coroutine
  | none => false

/-- The first non-gate step without a usable handler, as the decorator's loop meets it. -/
def WorkflowClass.first_bad_step (cls : WorkflowClass) : Option String :=
  cls.steps.find? fun step => !is_gate step && !cls.has_handler step

/-- The `@workflow(name, version, input_schema)` decorator: validate the class and
    register its definition. -/
def workflow (name : String) (version : Int)
    (input_schema : Option (JsonObj → Except Exn Unit)) (cls : WorkflowClass)
    (registry : Registry) : Except Exn Registry :=
  if hsteps : cls.steps = [] then
    .error (.value_error ("Workflow " ++ repr_str name ++ ": `steps` list is empty."))
  else
    match hbad : cls.first_bad_step with
    | some step =>
      match cls.methods step with
      | none => .error (.value_error ("Workflow " ++ repr_str name ++ ": step " ++
          repr_str step ++ " has no handler method on " ++ cls.cls_name ++ "."))
      | some _ => .error (.value_error ("Workflow " ++ repr_str name ++ ": handler " ++
          repr_str step ++ " must be an async def."))
    | none =>
      if registry_key name version ∈ registry.keys then
        .error (.value_error ("Workflow " ++ repr_str name ++ " version " ++
          toString version ++ " is already registered. Use a different version number."))
      else
        .ok (registry.set (registry_key name version)
          { name := name
            version := version
            steps := cls.steps
            handlers := fun step =>
              if step ∈ cls.steps ∧ is_gate step = false then
                (cls.methods step).map Method.handler
              else none
            -- gates without an explicit entry get the default configuration
            gate_configs := fun gate =>
              match cls.gates gate with
              | some cfg => some cfg
              | none =>
                if ∃ step ∈ cls.steps, is_gate step = true ∧ gate_name step = gate then
                  some default_gate_config
                else none
            input_schema := input_schema
            steps_ne_nil := hsteps
            handlers_total := by
              intro step hmem hgate
              rw [if_pos ⟨hmem, hgate⟩]
              have hfind := List.find?_eq_none.mp hbad step hmem
              simp only [hgate, WorkflowClass.has_handler] at hfind
              cases hm : cls.methods step with
              | none => rw [hm] at hfind; simp at hfind
              | some m => rfl })

/-- `max(matches, key=version)`: the first definition of the highest version. -/
def max_version : WorkflowDef → List WorkflowDef → WorkflowDef
  | best, [] => best
  | best, d :: rest => if best.version < d.version then max_version d rest else max_version best rest

/-- `get_workflow_latest`: the highest-version registration for a workflow name. -/
def get_workflow_latest (registry : Registry) (name : String) : Except Exn WorkflowDef :=
  match registry.values.filter fun d => d.name = name with
  | [] => .error (.key_error ("No workflow registered for " ++ repr_str name ++ "."))
  | d :: rest => .ok (max_version d rest)

/-- The maximum is one of the candidates, and no candidate is above it. -/
theorem max_version_spec (best : WorkflowDef) (rest : List WorkflowDef) :
    max_version best rest ∈ best :: rest ∧
      ∀ defn ∈ best :: rest, defn.version ≤ (max_version best rest).version := by
  induction rest generalizing best with
  | nil => simp [max_version]
  | cons d rest ih =>
    simp only [max_version]
    by_cases hlt : best.version < d.version
    · rw [if_pos hlt]
      obtain ⟨hmem, hmax⟩ := ih d
      refine ⟨List.mem_cons_of_mem best hmem, ?_⟩
      intro defn hdefn
      rcases List.mem_cons.mp hdefn with rfl | hdefn
      · have hd := hmax d List.mem_cons_self
        omega
      · exact hmax defn hdefn
    · rw [if_neg hlt]
      obtain ⟨hmem, hmax⟩ := ih best
      have hbest := hmax best List.mem_cons_self
      constructor
      · rcases List.mem_cons.mp hmem with heq | hmem
        · rw [heq]
          exact List.mem_cons_self
        · exact List.mem_cons_of_mem _ (List.mem_cons_of_mem _ hmem)
      · intro defn hdefn
        rcases List.mem_cons.mp hdefn with rfl | hdefn
        · exact hbest
        rcases List.mem_cons.mp hdefn with rfl | hdefn
        · omega
        · exact hmax defn (List.mem_cons_of_mem best hdefn)

/-- The definition found has the name, and no other one of that name is newer. -/
theorem latest_ok {registry : Registry} {name : String} {defn : WorkflowDef}
    (h : get_workflow_latest registry name = .ok defn) :
    defn ∈ registry.values ∧ defn.name = name ∧
      ∀ d ∈ registry.values, d.name = name → d.version ≤ defn.version := by
  unfold get_workflow_latest at h
  split at h
  · cases h
  · next best rest hmatches =>
    cases h
    obtain ⟨hmem, hmax⟩ := max_version_spec best rest
    rw [← hmatches] at hmem hmax
    have hfound := List.mem_filter.mp hmem
    refine ⟨hfound.1, of_decide_eq_true hfound.2, ?_⟩
    intro d hd hname
    exact hmax d (List.mem_filter.mpr ⟨hd, decide_eq_true hname⟩)

theorem latest_found {registry : Registry} {defn : WorkflowDef} (h : defn ∈ registry.values) :
    ∃ found, get_workflow_latest registry defn.name = .ok found := by
  unfold get_workflow_latest
  split
  · next hmatches =>
    have hmem : defn ∈ registry.values.filter fun d => d.name = defn.name := by
      rw [List.mem_filter]
      exact ⟨h, decide_eq_true rfl⟩
    rw [hmatches] at hmem
    cases hmem
  · exact ⟨_, rfl⟩

/-- `get_workflow`: an exact version. -/
def get_workflow (registry : Registry) (name : String) (version : Int) :
    Except Exn WorkflowDef :=
  match registry.get? (registry_key name version) with
  | none => .error (.key_error ("No workflow registered for " ++ repr_str name ++
      " version " ++ toString version ++ "."))
  | some defn => .ok defn

end CaseAutomation.Orchestrator
