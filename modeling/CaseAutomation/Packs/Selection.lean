import CaseAutomation.Intake.Completeness
import CaseAutomation.Packs.Consulting
import CaseAutomation.Routing.Classes
import Mathlib.Data.String.Basic

/-! # The Active Pack

    The registry and the selection of `packs/base.py`, `apply_pack` of `packs/apply.py`,
    `configure_pii_patterns` of `obs/observability.py`, the pack step of the sidecar's lifespan, and the
    list of `sidecar/pack_inspector.py`.

    All of it is state of the process that any import, plugin or startup may change. A
    `Command` is one call; the results are about every sequence of them:

    * `pack_state_sound`: what is served was validated, comes from one pack, and keeps the patterns of
      the engine;
    * `startup_settled`: after a startup the process stays with its pack, until another pack is asked for.
-/

namespace CaseAutomation.Packs

open Framework Deadline Intake Routing

/-! ## State -/

/-- The pack objects of a process, which compare by identity. A pack is frozen, so an object has
    one content. -/
structure PackObjects (Obj : Type) where
  contents : Obj → DomainPack
  /-- `IMMIGRATION_PACK`. -/
  immigration : Obj
  /-- `CONSULTING_PACK`. -/
  consulting : Obj
  immigration_contents : contents immigration = IMMIGRATION_PACK
  consulting_contents : contents consulting = CONSULTING_PACK

/-- The module globals that hold a pack, or were populated from one. -/
structure PackState (Obj : Type) where
  /-- `_REGISTRY`. -/
  registry : Dict String Obj
  /-- `_ACTIVE`. -/
  active : Option Obj
  /-- `_config` of `intake/config.py`. -/
  intake_config : IntakeConfig
  /-- `_config` of `document_routing/config.py`. -/
  routing_config : RoutingConfig
  /-- `_pii_patterns` of `obs/observability.py`. -/
  pii_patterns : List String

/-- The name that a class gets in the default naming template. -/
abbrev RenderName : Type := String → String → String → Int → Except Exn String

/-- The state after the imports. -/
def PackState.imported {Obj : Type} (render_name : RenderName) : PackState Obj where
  registry := ∅
  active := none
  intake_config := neutral_config
  routing_config := apply_routing render_name DOCUMENT_CLASSES
  pii_patterns := ENGINE_PII_BASELINE

/-- `PackSelectionError`. -/
def pack_selection_error (message : String) : Exn := .other "PackSelectionError" message

section operations
variable {Obj : Type} [DecidableEq Obj] (objs : PackObjects Obj) (render_name : RenderName)

/-! ## Registry and selection -/

/-- `register_pack`. -/
def register_pack (s : PackState Obj) (pack : Obj) : Except Exn Unit × PackState Obj :=
  let name := (objs.contents pack).name
  if (s.registry.get? name).any fun held => decide (held ≠ pack) then
    (.error (pack_validation_error
      ("a different pack is already registered under name " ++ repr_str name)), s)
  else (.ok (), { s with registry := s.registry.set name pack })

/-- `_REGISTRY.setdefault(pack.name, pack)`. -/
def set_default (registry : Dict String Obj) (pack : Obj) : Dict String Obj :=
  let name := (objs.contents pack).name
  if (registry.get? name).isSome then registry else registry.set name pack

/-- `register_builtin_packs`. -/
def register_builtin_packs (s : PackState Obj) : PackState Obj :=
  { s with registry := set_default objs (set_default objs s.registry objs.immigration) objs.consulting }

/-- `get_active_pack`. -/
def get_active_pack (s : PackState Obj) : Except Exn Obj :=
  match s.active with
  | none => .error (pack_selection_error ("no active domain pack — call " ++
      "select_pack()/activate_configured_pack() at startup (CAM_DOMAIN_PACK is required)"))
  | some pack => .ok pack

/-- `list_registered_pack_names`. -/
def list_registered_pack_names (s : PackState Obj) : List String :=
  s.registry.keys.insertionSort (· ≤ ·)

/-- `select_pack`. -/
def select_pack (s : PackState Obj) (name : String) : Except Exn Obj × PackState Obj :=
  match s.registry.get? name with
  | none => (.error (pack_selection_error ("unknown domain pack " ++ repr_str name ++
      "; registered packs: " ++ repr_strs (list_registered_pack_names s))), s)
  | some pack =>
    match validate_pack (objs.contents pack) with
    | .error exc => (.error exc, s)
    | .ok () => (.ok pack, { s with active := some pack })

/-- `activate_configured_pack`: there is no implicit default. -/
def activate_configured_pack (s : PackState Obj) (domain_pack : Option String) :
    Except Exn Obj × PackState Obj :=
  let refused := pack_selection_error
    "CAM_DOMAIN_PACK is not set; no implicit default domain pack (refuse to serve)"
  match domain_pack with
  | none => (.error refused, s)
  | some name =>
    if name = "" then (.error refused, s) else select_pack objs (register_builtin_packs objs s) name

/-- What an entry point of the group `cam.packs` comes to: it fails to load, or its factory
    does; it gives something else; it gives a pack. -/
inductive Plugin (Obj : Type) where
  | broken (exc : Exn)
  | other
  | pack (pack : Obj)

/-- One turn of the loop of `load_pack_plugins`: whatever is raised, the plugin is skipped. -/
def load_plugin (s : PackState Obj) : Plugin Obj → PackState Obj
  | .broken _ => s
  | .other => s
  | .pack pack => (register_pack objs s pack).2

/-- `load_pack_plugins`. -/
def load_pack_plugins (s : PackState Obj) (eps : List (Plugin Obj)) : PackState Obj :=
  eps.foldl (load_plugin objs) s

/-- `reset_registry`. -/
def reset_registry (s : PackState Obj) : PackState Obj := { s with registry := ∅, active := none }

/-! ## The configuration populated from a pack -/

/-- `_apply_intake`. -/
def apply_intake (pack : DomainPack) : IntakeConfig where
  case_type_configs := pack.case_types
  default_case_type := pack.default_case_type
  confidence_threshold := .finite ⟨"0.8", eight_tenths_repr_ok⟩

/-- `pack or get_active_pack()`. -/
def given_or_active (s : PackState Obj) : Option Obj → Except Exn Obj
  | some pack => .ok pack
  | none => get_active_pack s

/-- `apply_pack`. -/
def apply_pack (s : PackState Obj) (pack : Option Obj) : Except Exn Obj × PackState Obj :=
  match given_or_active s pack with
  | .error exc => (.error exc, s)
  | .ok pack =>
    (.ok pack, { s with
      intake_config := apply_intake (objs.contents pack)
      routing_config := apply_routing render_name (objs.contents pack).document_classes })

/-- `configure_pii_patterns`. -/
def configure_pii_patterns (s : PackState Obj) (pack : Option Obj) : PackState Obj :=
  match given_or_active s pack with
  | .error _ => { s with pii_patterns := ENGINE_PII_BASELINE }
  | .ok pack => { s with pii_patterns := active_pii_patterns (objs.contents pack) }

/-- The pack step of the lifespan, for `Settings.model_validate({})`: what its `try` ended with, which
    is logged, and the state that it leaves. -/
def startup (s : PackState Obj) (settings : Except Exn (Option String)) :
    Except Exn Obj × PackState Obj :=
  match settings with
  | .error exc => (.error exc, s)
  | .ok domain_pack =>
    match activate_configured_pack objs s domain_pack with
    | (.error exc, s) => (.error exc, s)
    | (.ok pack, s) =>
      match apply_pack objs render_name s (some pack) with
      | (.error exc, s) => (.error exc, s)
      | (.ok _, s) => (.ok pack, configure_pii_patterns objs s none)

/-! ## The inspector -/

/-- A row of `list_packs`. A pack has no `description`. -/
structure PackRow where
  name : String
  version : String
  description : String
  is_active : Bool

/-- The row of a registered pack. -/
def pack_row (active_name : Option String) (pack : DomainPack) : PackRow where
  name := pack.name
  version := pack.version
  description := ""
  is_active := decide (active_name = some pack.name)

/-- `list_packs`. -/
def list_packs (s : PackState Obj) : List PackRow :=
  let active_name := (get_active_pack s).toOption.map fun pack => (objs.contents pack).name
  (list_registered_pack_names s).filterMap fun name =>
    (s.registry.get? name).map fun pack => pack_row active_name (objs.contents pack)

/-! ## Histories -/

/-- One call. `apply_pack` and `configure_pii_patterns` are called for the active pack. -/
inductive Command (Obj : Type) where
  | register (pack : Obj)
  | builtins
  | plugins (eps : List (Plugin Obj))
  | select (name : String)
  | activate (domain_pack : Option String)
  | apply
  | configure
  | startup (settings : Except Exn (Option String))
  | reset

/-- The state after a call, whatever it returned. -/
def Command.exec (s : PackState Obj) : Command Obj → PackState Obj
  | .register pack => (register_pack objs s pack).2
  | .builtins => register_builtin_packs objs s
  | .plugins eps => load_pack_plugins objs s eps
  | .select name => (select_pack objs s name).2
  | .activate domain_pack => (activate_configured_pack objs s domain_pack).2
  | .apply => (apply_pack objs render_name s none).2
  | .configure => configure_pii_patterns objs s none
  | .startup settings => (Packs.startup objs render_name s settings).2
  | .reset => reset_registry s

/-- The state after a sequence of calls. -/
def run (s : PackState Obj) (commands : List (Command Obj)) : PackState Obj :=
  commands.foldl (Command.exec objs render_name) s

/-- The pack that a call asks for by name. -/
def Command.asked : Command Obj → Option String
  | .select name => some name
  | .activate domain_pack => domain_pack
  | .startup (.ok domain_pack) => domain_pack
  | _ => none

/-! ## What has to hold -/

/-- What a case type refers to is there: its template, and an active rule for each rule id. -/
structure Resolves (content_hash : DeadlineRule → String) (pack : DomainPack) (cfg : CaseTypeConfig) :
    Prop where
  template : cfg.welcome_template_id ∈ pack.template_ids
  rules : ∀ rule_id ∈ cfg.deadline_rule_ids, ∃ jurisdiction rule,
    (build_rule_store_from_pack content_hash pack).active rule_id jurisdiction = .ok rule ∧
      rule.rule_id = rule_id

/-- Intake and routing work for this pack. -/
structure WorksFor (s : PackState Obj) (pack : Obj) : Prop where
  valid : validate_pack (objs.contents pack) = .ok ()
  intake : s.intake_config = apply_intake (objs.contents pack)
  routing : s.routing_config = apply_routing render_name (objs.contents pack).document_classes

/-- What the rest of the engine may rely on between two calls. -/
structure Sound (content_hash : DeadlineRule → String) (s : PackState Obj) : Prop where
  /-- The active pack was validated and is the one registered under its name. -/
  active_registered : ∀ pack, s.active = some pack →
    s.registry.get? (objs.contents pack).name = some pack ∧
      validate_pack (objs.contents pack) = .ok ()
  /-- Intake and routing never work for two different packs, and what intake refers to exists. -/
  one_pack : (s.intake_config = neutral_config ∧
      s.routing_config = apply_routing render_name DOCUMENT_CLASSES) ∨
    ∃ pack, WorksFor objs render_name s pack ∧
      ∀ case_type cfg, s.intake_config.get_case_type case_type = .ok cfg →
        Resolves content_hash (objs.contents pack) cfg
  /-- Every lead has a case type. -/
  intake_total : ∀ case_type, ∃ cfg, s.intake_config.get_case_type case_type = .ok cfg
  /-- No pattern of the engine is ever missing. -/
  floor : ∀ pattern ∈ ENGINE_PII_BASELINE, pattern ∈ s.pii_patterns
  /-- The inspector lists every registered pack once, by name. -/
  listed : (list_packs objs s).map PackRow.name = list_registered_pack_names s ∧
    ((list_packs objs s).map PackRow.name).Pairwise (· < ·)
  /-- The row marked active is that of the active pack. -/
  listed_active : ∀ row ∈ list_packs objs s, row.is_active = true ↔
    ∃ pack, s.active = some pack ∧ row = pack_row (some row.name) (objs.contents pack)

end operations

/-! ## What a call can do -/

section step
variable {Obj : Type} {objs : PackObjects Obj} {render_name : RenderName}
variable {s s' : PackState Obj}

/-- The registry keeps what it holds, and what is new stands under its own name. -/
structure Added (objs : PackObjects Obj) (registry registry' : Dict String Obj) : Prop where
  kept : ∀ name pack, registry.get? name = some pack → registry'.get? name = some pack
  own_name : ∀ name pack, registry'.get? name = some pack →
    registry.get? name = some pack ∨ (objs.contents pack).name = name

theorem Added.refl (registry : Dict String Obj) : Added objs registry registry :=
  ⟨fun _ _ h => h, fun _ _ h => .inl h⟩

theorem Added.trans {r₁ r₂ r₃ : Dict String Obj} (h : Added objs r₁ r₂) (h' : Added objs r₂ r₃) :
    Added objs r₁ r₃ := by
  constructor
  · intro name pack hget
    exact h'.kept name pack (h.kept name pack hget)
  · intro name pack hget
    rcases h'.own_name name pack hget with hold | hname
    · exact h.own_name name pack hold
    · exact .inr hname

/-- A pack may be added under its name if the name is free or already its own. -/
theorem Added.set {registry : Dict String Obj} {pack : Obj}
    (h : ∀ held, registry.get? (objs.contents pack).name = some held → held = pack) :
    Added objs registry (registry.set (objs.contents pack).name pack) := by
  constructor
  · intro name held hget
    rw [Dict.get?_set]
    by_cases hname : name = (objs.contents pack).name
    · rw [if_pos hname, h held (hname ▸ hget)]
    · rw [if_neg hname]
      exact hget
  · intro name held hget
    rw [Dict.get?_set] at hget
    by_cases hname : name = (objs.contents pack).name
    · rw [if_pos hname] at hget
      exact .inr (Option.some.inj hget ▸ hname.symm)
    · rw [if_neg hname] at hget
      exact .inl hget

variable (objs) in
/-- A registration fails, or adds the pack. -/
theorem register_pack_added [DecidableEq Obj] (s : PackState Obj) (pack : Obj) :
    ∃ registry, (register_pack objs s pack).2 = { s with registry := registry } ∧
      Added objs s.registry registry := by
  unfold register_pack
  by_cases hother : ((s.registry.get? (objs.contents pack).name).any fun held =>
      decide (held ≠ pack)) = true
  · refine ⟨s.registry, ?_, Added.refl _⟩
    simp only [hother, if_true]
  · refine ⟨s.registry.set (objs.contents pack).name pack, ?_, Added.set ?_⟩
    · simp only [hother, Bool.false_eq_true, if_false]
    · intro held hheld
      simpa [hheld] using hother

theorem set_default_added (registry : Dict String Obj) (pack : Obj) :
    Added objs registry (set_default objs registry pack) := by
  unfold set_default
  by_cases hheld : (registry.get? (objs.contents pack).name).isSome = true
  · simp only [hheld, if_true]
    exact Added.refl _
  · simp only [hheld, Bool.false_eq_true, if_false]
    refine Added.set fun held h => ?_
    simp [h] at hheld

variable (objs) in
theorem register_builtin_packs_added (s : PackState Obj) :
    Added objs s.registry (register_builtin_packs objs s).registry :=
  (set_default_added _ _).trans (set_default_added _ _)

variable (objs) in
/-- Plugins only add to the registry. -/
theorem load_pack_plugins_added [DecidableEq Obj] (s : PackState Obj) (eps : List (Plugin Obj)) :
    ∃ registry, load_pack_plugins objs s eps = { s with registry := registry } ∧
      Added objs s.registry registry := by
  -- over the entry points, for every state
  induction eps generalizing s with
  | nil => exact ⟨s.registry, rfl, Added.refl _⟩
  | cons ep eps ih =>
    have hone : ∃ registry, load_plugin objs s ep = { s with registry := registry } ∧
        Added objs s.registry registry := by
      cases ep with
      | broken exc => exact ⟨s.registry, rfl, Added.refl _⟩
      | other => exact ⟨s.registry, rfl, Added.refl _⟩
      | pack pack => exact register_pack_added objs s pack
    obtain ⟨first, hfirst, hadded⟩ := hone
    obtain ⟨registry, hrest, hmore⟩ := ih (load_plugin objs s ep)
    rw [hfirst] at hrest hmore
    refine ⟨registry, ?_, hadded.trans hmore⟩
    show load_pack_plugins objs (load_plugin objs s ep) eps = _
    rw [hfirst, hrest]

/-- Without a given pack it is the active one, if there is one. -/
theorem given_active_cases (s : PackState Obj) :
    (∃ pack, s.active = some pack ∧ given_or_active s none = .ok pack) ∨
      ∃ exc, s.active = none ∧ given_or_active s none = .error exc := by
  rw [given_or_active, get_active_pack]
  cases s.active with
  | none => exact .inr ⟨_, rfl, rfl⟩
  | some pack => exact .inl ⟨pack, rfl, rfl⟩

variable (objs) in
/-- A selection answers with the registered pack, which is valid and now active, or changes
    nothing. -/
theorem select_pack_cases (s : PackState Obj) (name : String) :
    (∃ pack, s.registry.get? name = some pack ∧ validate_pack (objs.contents pack) = .ok () ∧
      select_pack objs s name = (.ok pack, { s with active := some pack })) ∨
    ∃ exc, select_pack objs s name = (.error exc, s) := by
  unfold select_pack
  cases hget : s.registry.get? name with
  | none => exact .inr ⟨_, rfl⟩
  | some pack =>
    cases hvalid : validate_pack (objs.contents pack) with
    | error exc => exact .inr ⟨exc, by simp only [hvalid]⟩
    | ok u => exact .inl ⟨pack, rfl, hvalid, by simp only [hvalid]⟩

variable (objs) in
/-- So does an activation, after the built-in packs are registered. -/
theorem activate_cases (s : PackState Obj) (domain_pack : Option String) :
    ∃ registry, Added objs s.registry registry ∧
      ((∃ name pack, domain_pack = some name ∧ registry.get? name = some pack ∧
          validate_pack (objs.contents pack) = .ok () ∧
          activate_configured_pack objs s domain_pack =
            (.ok pack, { s with registry := registry, active := some pack })) ∨
        ∃ exc, activate_configured_pack objs s domain_pack =
          (.error exc, { s with registry := registry })) := by
  unfold activate_configured_pack
  cases domain_pack with
  | none => exact ⟨s.registry, Added.refl _, .inr ⟨_, rfl⟩⟩
  | some name =>
    by_cases hname : name = ""
    · subst hname
      exact ⟨s.registry, Added.refl _, .inr ⟨_, rfl⟩⟩
    · refine ⟨(register_builtin_packs objs s).registry, register_builtin_packs_added objs s, ?_⟩
      simp only [hname, if_false]
      rcases select_pack_cases objs (register_builtin_packs objs s) name with
        ⟨pack, hget, hvalid, heq⟩ | ⟨exc, heq⟩
      · exact .inl ⟨name, pack, rfl, hget, hvalid, heq⟩
      · exact .inr ⟨exc, heq⟩

variable (objs render_name) in
/-- A startup sets everything from one valid pack, or leaves everything but the registry. -/
theorem startup_cases (s : PackState Obj) (settings : Except Exn (Option String)) :
    ∃ registry, Added objs s.registry registry ∧
      ((∃ name pack, settings = .ok (some name) ∧ registry.get? name = some pack ∧
          validate_pack (objs.contents pack) = .ok () ∧
          startup objs render_name s settings =
            (.ok pack, ⟨registry, some pack, apply_intake (objs.contents pack),
              apply_routing render_name (objs.contents pack).document_classes,
              active_pii_patterns (objs.contents pack)⟩)) ∨
        ∃ exc, startup objs render_name s settings = (.error exc, { s with registry := registry })) := by
  unfold startup
  cases settings with
  | error exc => exact ⟨s.registry, Added.refl _, .inr ⟨exc, rfl⟩⟩
  | ok domain_pack =>
    obtain ⟨registry, hadded, hok | ⟨exc, heq⟩⟩ := activate_cases objs s domain_pack
    · obtain ⟨name, pack, rfl, hget, hvalid, heq⟩ := hok
      refine ⟨registry, hadded, .inl ⟨name, pack, rfl, hget, hvalid, ?_⟩⟩
      simp only [heq]
      rfl
    · refine ⟨registry, hadded, .inr ⟨exc, ?_⟩⟩
      simp only [heq]

/-- What a call that does not reset can do. -/
structure Step (objs : PackObjects Obj) (render_name : RenderName) (asked : Option String)
    (s s' : PackState Obj) : Prop where
  registry : Added objs s.registry s'.registry
  active : s'.active = s.active ∨ ∃ name pack, asked = some name ∧ s'.active = some pack ∧
    s'.registry.get? name = some pack ∧ validate_pack (objs.contents pack) = .ok ()
  config : (s'.intake_config = s.intake_config ∧ s'.routing_config = s.routing_config) ∨
    ∃ pack, s'.active = some pack ∧ s'.intake_config = apply_intake (objs.contents pack) ∧
      s'.routing_config = apply_routing render_name (objs.contents pack).document_classes
  pii : s'.pii_patterns = s.pii_patterns ∨
    (s'.active = none ∧ s'.pii_patterns = ENGINE_PII_BASELINE) ∨
    ∃ pack, s'.active = some pack ∧ s'.pii_patterns = active_pii_patterns (objs.contents pack)

/-- A call that only adds to the registry. -/
theorem Step.of_added {asked : Option String} {registry : Dict String Obj}
    (h : Added objs s.registry registry) :
    Step objs render_name asked s { s with registry := registry } :=
  ⟨h, .inl rfl, .inl ⟨rfl, rfl⟩, .inl rfl⟩

theorem exec_step [DecidableEq Obj] (s : PackState Obj) {c : Command Obj} (hreset : c ≠ .reset) :
    Step objs render_name c.asked s (c.exec objs render_name s) := by
  cases c with
  | register pack =>
    obtain ⟨registry, heq, hadded⟩ := register_pack_added objs s pack
    rw [Command.exec, heq]
    exact Step.of_added hadded
  | builtins => exact Step.of_added (register_builtin_packs_added objs s)
  | plugins eps =>
    obtain ⟨registry, heq, hadded⟩ := load_pack_plugins_added objs s eps
    rw [Command.exec, heq]
    exact Step.of_added hadded
  | select name =>
    rw [Command.exec]
    rcases select_pack_cases objs s name with ⟨pack, hget, hvalid, heq⟩ | ⟨exc, heq⟩
    · rw [heq]
      exact ⟨Added.refl _, .inr ⟨name, pack, rfl, rfl, hget, hvalid⟩, .inl ⟨rfl, rfl⟩, .inl rfl⟩
    · rw [heq]
      exact Step.of_added (Added.refl _)
  | activate domain_pack =>
    rw [Command.exec]
    obtain ⟨registry, hadded, hok | ⟨exc, heq⟩⟩ := activate_cases objs s domain_pack
    · obtain ⟨name, pack, rfl, hget, hvalid, heq⟩ := hok
      rw [heq]
      exact ⟨hadded, .inr ⟨name, pack, rfl, rfl, hget, hvalid⟩, .inl ⟨rfl, rfl⟩, .inl rfl⟩
    · rw [heq]
      exact Step.of_added hadded
  | apply =>
    rw [Command.exec, apply_pack]
    rcases given_active_cases s with ⟨pack, hactive, hgiven⟩ | ⟨exc, _, hgiven⟩
    · rw [hgiven]
      exact ⟨Added.refl _, .inl rfl, .inr ⟨pack, hactive, rfl, rfl⟩, .inl rfl⟩
    · rw [hgiven]
      exact Step.of_added (Added.refl _)
  | configure =>
    rw [Command.exec, configure_pii_patterns]
    rcases given_active_cases s with ⟨pack, hactive, hgiven⟩ | ⟨exc, hactive, hgiven⟩
    · rw [hgiven]
      exact ⟨Added.refl _, .inl rfl, .inl ⟨rfl, rfl⟩, .inr (.inr ⟨pack, hactive, rfl⟩)⟩
    · rw [hgiven]
      exact ⟨Added.refl _, .inl rfl, .inl ⟨rfl, rfl⟩, .inr (.inl ⟨hactive, rfl⟩)⟩
  | startup settings =>
    rw [Command.exec]
    obtain ⟨registry, hadded, hok | ⟨exc, heq⟩⟩ :=
      startup_cases objs render_name s settings
    · obtain ⟨name, pack, rfl, hget, hvalid, heq⟩ := hok
      rw [heq]
      exact ⟨hadded, .inr ⟨name, pack, rfl, rfl, hget, hvalid⟩, .inr ⟨pack, rfl, rfl, rfl⟩,
        .inr (.inr ⟨pack, rfl, rfl⟩)⟩
    · rw [heq]
      exact Step.of_added hadded
  | reset => exact absurd rfl hreset

end step

/-! ## What a valid pack refers to -/

section references
variable {pack : DomainPack}

theorem check_ok {failed : Bool} {message : String} (h : check failed message = .ok ()) :
    failed = false := by
  unfold check at h
  by_cases hfailed : failed = true
  · rw [if_pos hfailed] at h
    cases h
  · exact eq_false_of_ne_true hfailed

/-- A loop of checks passes only if each check does. -/
theorem forM_ok {α : Type} {f : α → Except Exn Unit} {xs : List α} (h : xs.forM f = .ok ()) :
    ∀ x ∈ xs, f x = .ok () := by
  induction xs with
  | nil =>
    intro x hx
    cases hx
  | cons y ys ih =>
    obtain ⟨u, hfirst, hrest⟩ := ok_of_bind (f := fun _ => ys.forM f) h
    intro x hx
    rcases List.mem_cons.mp hx with rfl | hx
    · exact hfirst
    · exact ih hrest x hx

theorem check_case_type_ok {ct_name : String} {ct : CaseTypeConfig}
    (h : check_case_type pack ct_name ct = .ok ()) :
    ct.welcome_template_id ∈ pack.template_ids ∧
      ∀ rid ∈ ct.deadline_rule_ids, rid ∈ pack.deadline_rules.map DeadlineRule.rule_id := by
  unfold check_case_type at h
  obtain ⟨_, htemplate, hrules⟩ := ok_of_bind h
  constructor
  · simpa using check_ok htemplate
  · intro rid hrid
    simpa using check_ok (forM_ok hrules rid hrid)

/-- A valid pack has its default case type, and what its case types refer to. -/
theorem validate_pack_ok (h : validate_pack pack = .ok ()) :
    (pack.case_types.get? pack.default_case_type).isSome = true ∧
      ∀ name ct, pack.case_types.get? name = some ct →
        ct.welcome_template_id ∈ pack.template_ids ∧
          ∀ rid ∈ ct.deadline_rule_ids, rid ∈ pack.deadline_rules.map DeadlineRule.rule_id := by
  unfold validate_pack at h
  obtain ⟨_, _, h⟩ := ok_of_bind h
  obtain ⟨_, _, h⟩ := ok_of_bind h
  obtain ⟨_, hdefault, h⟩ := ok_of_bind h
  obtain ⟨_, _, h⟩ := ok_of_bind h
  obtain ⟨_, _, h⟩ := ok_of_bind h
  obtain ⟨_, _, h⟩ := ok_of_bind h
  obtain ⟨_, _, h⟩ := ok_of_bind h
  obtain ⟨_, _, h⟩ := ok_of_bind h
  obtain ⟨_, hcases, _⟩ := ok_of_bind h
  constructor
  · simpa using check_ok hdefault
  · intro name ct hget
    exact check_case_type_ok (forM_ok hcases (name, ct) (Dict.mem_entries_of_get? hget))

/-- Each rule is in the list of its id, whatever the hashes are. -/
theorem entries_registered (content_hash : DeadlineRule → String) (rules : List DeadlineRule)
    (store : RuleStore) (rule_id : String)
    (hown : ∀ entry ∈ store.entries rule_id, entry.2.rule_id = rule_id) :
    (∀ entry ∈ (rules.foldl (RuleStore.register_rule content_hash) store).entries rule_id,
        entry.2.rule_id = rule_id) ∧
      (store.entries rule_id ≠ [] ∨ rule_id ∈ rules.map DeadlineRule.rule_id →
        (rules.foldl (RuleStore.register_rule content_hash) store).entries rule_id ≠ []) := by
  -- over the rules, for every store
  induction rules generalizing store with
  | nil => exact ⟨hown, fun h => h.resolve_right (by simp)⟩
  | cons rule rules ih =>
    have hentries := RuleStore.entries_append store (content_hash rule) rule rule_id
    have hstep : ∀ entry ∈ (store.register_rule content_hash rule).entries rule_id,
        entry.2.rule_id = rule_id := by
      show ∀ entry ∈ (store.append (content_hash rule) rule).entries rule_id, _
      rw [hentries]
      intro entry hmem
      by_cases hnew : rule_id = rule.rule_id ∧
          ∀ entry ∈ store.entries rule_id, entry.1 ≠ content_hash rule
      · rw [if_pos hnew, List.mem_append, List.mem_singleton] at hmem
        rcases hmem with hmem | rfl
        · exact hown entry hmem
        · exact hnew.1.symm
      · rw [if_neg hnew] at hmem
        exact hown entry hmem
    have hheld : store.entries rule_id ≠ [] ∨ rule_id = rule.rule_id →
        (store.register_rule content_hash rule).entries rule_id ≠ [] := by
      show _ → (store.append (content_hash rule) rule).entries rule_id ≠ []
      intro h
      rw [hentries]
      by_cases hnew : rule_id = rule.rule_id ∧
          ∀ entry ∈ store.entries rule_id, entry.1 ≠ content_hash rule
      · rw [if_pos hnew]
        simp
      · rw [if_neg hnew]
        intro hnil
        -- an empty list has no version that could stand in the way
        rcases h with h | h
        · exact h hnil
        · exact hnew ⟨h, by simp [hnil]⟩
    obtain ⟨hall, hmore⟩ := ih (store.register_rule content_hash rule) hstep
    refine ⟨hall, fun h => hmore ?_⟩
    rcases h with h | h
    · exact .inl (hheld (.inl h))
    · rcases List.mem_cons.mp h with h | h
      · exact .inl (hheld (.inr h))
      · exact .inr h

/-- Every rule id of a pack is active in its rule store, for some jurisdiction. -/
theorem rule_of_pack_active (content_hash : DeadlineRule → String) {rule_id : String}
    (h : rule_id ∈ pack.deadline_rules.map DeadlineRule.rule_id) :
    ∃ jurisdiction rule, (build_rule_store_from_pack content_hash pack).active rule_id jurisdiction =
      .ok rule ∧ rule.rule_id = rule_id := by
  obtain ⟨hown, hheld⟩ := entries_registered content_hash pack.deadline_rules ∅ rule_id
    (fun entry hentry => by cases hentry)
  obtain ⟨entry, hentry⟩ := List.exists_mem_of_ne_nil _ (hheld (.inr h))
  have hmatching : entry ∈ (build_rule_store_from_pack content_hash pack).matching rule_id
      entry.2.jurisdiction := List.mem_filter.mpr ⟨hentry, by simp⟩
  obtain ⟨last, hlast⟩ := Option.isSome_iff_exists.mp
    (List.getLast?_isSome.mpr (List.ne_nil_of_mem hmatching))
  refine ⟨entry.2.jurisdiction, last.2, ?_, ?_⟩
  · unfold RuleStore.active
    rw [hlast]
  · exact hown last (List.mem_filter.mp (List.mem_of_getLast? hlast)).1

/-- The case types of a valid pack resolve, and its default case type exists. -/
theorem apply_intake_resolves (content_hash : DeadlineRule → String)
    (h : validate_pack pack = .ok ()) (case_type : Option String) :
    ∃ cfg, (apply_intake pack).get_case_type case_type = .ok cfg ∧ Resolves content_hash pack cfg := by
  obtain ⟨hdefault, hrefs⟩ := validate_pack_ok h
  obtain ⟨fallback, hfallback⟩ := Option.isSome_iff_exists.mp hdefault
  have hall : ∀ name ct, pack.case_types.get? name = some ct → Resolves content_hash pack ct :=
    fun name ct hget => ⟨(hrefs name ct hget).1,
      fun rid hrid => rule_of_pack_active content_hash ((hrefs name ct hget).2 rid hrid)⟩
  unfold IntakeConfig.get_case_type
  simp only [apply_intake, hfallback]
  refine ⟨_, rfl, ?_⟩
  cases hget : pack.case_types.get? (text_or case_type pack.default_case_type) with
  | none => exact hall _ _ hfallback
  | some ct => exact hall _ _ hget

end references

/-! ## Every history -/

section histories
variable {Obj : Type} [DecidableEq Obj] {objs : PackObjects Obj} {render_name : RenderName}
variable {s s' : PackState Obj}

/-- The invariant of a process. -/
structure Inv (objs : PackObjects Obj) (render_name : RenderName) (s : PackState Obj) : Prop where
  own_name : ∀ name pack, s.registry.get? name = some pack → (objs.contents pack).name = name
  active : ∀ pack, s.active = some pack → s.registry.get? (objs.contents pack).name = some pack ∧
    validate_pack (objs.contents pack) = .ok ()
  config : (s.intake_config = neutral_config ∧
      s.routing_config = apply_routing render_name DOCUMENT_CLASSES) ∨
    ∃ pack, WorksFor objs render_name s pack
  pii : s.pii_patterns = ENGINE_PII_BASELINE ∨
    ∃ pack, s.pii_patterns = active_pii_patterns (objs.contents pack)

omit [DecidableEq Obj] in
theorem inv_imported : Inv objs render_name (PackState.imported render_name) where
  own_name := by
    intro name pack h
    cases h
  active := by
    intro pack h
    cases h
  config := .inl ⟨rfl, rfl⟩
  pii := .inl rfl

omit [DecidableEq Obj] in
theorem Inv.step {asked : Option String} (h : Inv objs render_name s)
    (hstep : Step objs render_name asked s s') : Inv objs render_name s' := by
  have hnames : ∀ name pack, s'.registry.get? name = some pack → (objs.contents pack).name = name := by
    intro name pack hget
    rcases hstep.registry.own_name name pack hget with hold | hname
    · exact h.own_name name pack hold
    · exact hname
  have hactive : ∀ pack, s'.active = some pack →
      s'.registry.get? (objs.contents pack).name = some pack ∧
        validate_pack (objs.contents pack) = .ok () := by
    intro pack hpack
    rcases hstep.active with hsame | ⟨name, chosen, _, hchosen, hget, hvalid⟩
    · obtain ⟨hget, hvalid⟩ := h.active pack (hsame ▸ hpack)
      exact ⟨hstep.registry.kept _ _ hget, hvalid⟩
    · rw [hchosen] at hpack
      cases hpack
      rw [hnames name pack hget]
      exact ⟨hget, hvalid⟩
  refine ⟨hnames, hactive, ?_, ?_⟩
  · rcases hstep.config with ⟨hintake, hrouting⟩ | ⟨pack, hpack, hintake, hrouting⟩
    · rcases h.config with ⟨hneutral, hdefault⟩ | ⟨pack, hworks⟩
      · exact .inl ⟨hintake.trans hneutral, hrouting.trans hdefault⟩
      · exact .inr ⟨pack, hworks.valid, hintake.trans hworks.intake, hrouting.trans hworks.routing⟩
    · exact .inr ⟨pack, (hactive pack hpack).2, hintake, hrouting⟩
  · rcases hstep.pii with hsame | ⟨_, hfloor⟩ | ⟨pack, _, hpatterns⟩
    · rw [hsame]
      exact h.pii
    · exact .inl hfloor
    · exact .inr ⟨pack, hpatterns⟩

/-- Every call keeps the invariant; a reset empties what it speaks about. -/
theorem Inv.exec (h : Inv objs render_name s) (c : Command Obj) :
    Inv objs render_name (c.exec objs render_name s) := by
  by_cases hreset : c = .reset
  · subst hreset
    refine ⟨?_, ?_, ?_, h.pii⟩
    · intro name pack hget
      cases hget
    · intro pack hpack
      cases hpack
    · rcases h.config with hneutral | ⟨pack, hworks⟩
      · exact .inl hneutral
      · exact .inr ⟨pack, hworks.valid, hworks.intake, hworks.routing⟩
  · exact h.step (exec_step s hreset)

theorem Inv.run (h : Inv objs render_name s) (commands : List (Command Obj)) :
    Inv objs render_name (run objs render_name s commands) := by
  induction commands generalizing s with
  | nil => exact h
  | cons c commands ih => exact ih (h.exec c)

/-! ## What the inspector shows -/

omit [DecidableEq Obj] in
theorem list_packs_names (h : Inv objs render_name s) :
    (list_packs objs s).map PackRow.name = list_registered_pack_names s := by
  have hrows : ∀ names : List String, (∀ name ∈ names, name ∈ s.registry.keys) →
      ∀ active_name, (names.filterMap fun name => (s.registry.get? name).map fun pack =>
        pack_row active_name (objs.contents pack)).map PackRow.name = names := by
    intro names hkeys active_name
    induction names with
    | nil => rfl
    | cons name names ih =>
      obtain ⟨pack, hget⟩ := Dict.mem_keys_iff.mp (hkeys name List.mem_cons_self)
      rw [List.filterMap_cons, hget]
      show (objs.contents pack).name :: _ = _
      rw [h.own_name name pack hget, ih fun n hn => hkeys n (List.mem_cons_of_mem _ hn)]
  refine hrows _ ?_ _
  intro name hname
  exact (List.mem_insertionSort (· ≤ ·)).mp hname

omit [DecidableEq Obj] in
theorem registered_names_increasing (s : PackState Obj) :
    (list_registered_pack_names s).Pairwise (· < ·) := by
  have hnodup : (list_registered_pack_names s).Nodup :=
    (List.perm_insertionSort (· ≤ ·) s.registry.keys).nodup_iff.mpr s.registry.nodup_keys
  exact (List.sortedLE_insertionSort.pairwise.and hnodup).imp fun h => lt_of_le_of_ne h.1 h.2

omit [DecidableEq Obj] in
theorem list_packs_active (h : Inv objs render_name s) (row : PackRow)
    (hrow : row ∈ list_packs objs s) :
    row.is_active = true ↔
      ∃ pack, s.active = some pack ∧ row = pack_row (some row.name) (objs.contents pack) := by
  obtain ⟨name, _, hname⟩ := List.mem_filterMap.mp hrow
  obtain ⟨held, hget, rfl⟩ := Option.map_eq_some_iff.mp hname
  have hown := h.own_name name held hget
  constructor
  · intro hactive
    have hsame := of_decide_eq_true hactive
    unfold get_active_pack at hsame
    cases hs : s.active with
    | none =>
      rw [hs] at hsame
      cases hsame
    | some pack =>
      rw [hs] at hsame
      have hnames : (objs.contents pack).name = (objs.contents held).name := Option.some.inj hsame
      -- one name, one pack
      have hpack := (h.active pack hs).1
      rw [hnames, hown, hget] at hpack
      cases hpack
      refine ⟨held, rfl, ?_⟩
      unfold get_active_pack
      rw [hs]
      rfl
  · intro hex
    obtain ⟨pack, _, heq⟩ := hex
    rw [heq]
    have hname : (objs.contents held).name = (objs.contents pack).name := congrArg PackRow.name heq
    exact decide_eq_true (congrArg some hname)

omit [DecidableEq Obj] in
/-- What the invariant is good for. -/
theorem Inv.sound (h : Inv objs render_name s) (content_hash : DeadlineRule → String) :
    Sound objs render_name content_hash s where
  active_registered := h.active
  one_pack := by
    rcases h.config with hneutral | ⟨pack, hworks⟩
    · exact .inl hneutral
    · refine .inr ⟨pack, hworks, ?_⟩
      intro case_type cfg hcfg
      obtain ⟨found, hfound, hresolves⟩ :=
        apply_intake_resolves content_hash hworks.valid case_type
      rw [hworks.intake, hfound] at hcfg
      exact Except.ok.inj hcfg ▸ hresolves
  intake_total := by
    intro case_type
    rcases h.config with ⟨hneutral, _⟩ | ⟨pack, hworks⟩
    · rw [hneutral]
      exact ⟨_, rfl⟩
    · obtain ⟨found, hfound, _⟩ := apply_intake_resolves content_hash hworks.valid case_type
      rw [hworks.intake]
      exact ⟨found, hfound⟩
  floor := by
    intro pattern hpattern
    rcases h.pii with hfloor | ⟨pack, hpatterns⟩
    · rw [hfloor]
      exact hpattern
    · rw [hpatterns]
      exact List.mem_append_left _ hpattern
  listed := by
    rw [list_packs_names h]
    exact ⟨rfl, registered_names_increasing s⟩
  listed_active := list_packs_active h

/-- **The pack state is sound after every history** of registrations, plugins, selections, startups
    and resets, in any order, whether they succeed or fail. -/
theorem pack_state_sound (objs : PackObjects Obj) (render_name : RenderName)
    (content_hash : DeadlineRule → String) (commands : List (Command Obj)) :
    Sound objs render_name content_hash
      (run objs render_name (PackState.imported render_name) commands) :=
  (inv_imported.run commands).sound content_hash

/-! ## After a startup -/

/-- The process serves with this pack. -/
structure Serves (objs : PackObjects Obj) (render_name : RenderName) (name : String) (pack : Obj)
    (s : PackState Obj) : Prop where
  named : (objs.contents pack).name = name
  registered : s.registry.get? name = some pack
  active : s.active = some pack
  works : WorksFor objs render_name s pack
  pii : s.pii_patterns = active_pii_patterns (objs.contents pack)

/-- A call that does not reset, and asks for no other pack. -/
def Settled (name : String) (c : Command Obj) : Prop :=
  c ≠ .reset ∧ ∀ asked, c.asked = some asked → asked = name

omit [DecidableEq Obj] in
theorem Serves.step {name : String} {pack : Obj} {asked : Option String}
    (h : Serves objs render_name name pack s) (hasked : ∀ other, asked = some other → other = name)
    (hstep : Step objs render_name asked s s') : Serves objs render_name name pack s' := by
  have hregistered := hstep.registry.kept name pack h.registered
  have hactive : s'.active = some pack := by
    rcases hstep.active with hsame | ⟨other, chosen, hother, hchosen, hget, _⟩
    · exact hsame.trans h.active
    · -- the name leads to the same pack as before
      rw [hasked other hother, hregistered] at hget
      rw [hchosen, ← hget]
  have honly : ∀ {other}, s'.active = some other → other = pack :=
    fun hother => Option.some.inj (hother.symm.trans hactive)
  refine ⟨h.named, hregistered, hactive, ?_, ?_⟩
  · rcases hstep.config with ⟨hintake, hrouting⟩ | ⟨other, hother, hintake, hrouting⟩
    · exact ⟨h.works.valid, hintake.trans h.works.intake, hrouting.trans h.works.routing⟩
    · rw [honly hother] at hintake hrouting
      exact ⟨h.works.valid, hintake, hrouting⟩
  · rcases hstep.pii with hsame | ⟨hnone, _⟩ | ⟨other, hother, hpatterns⟩
    · exact hsame.trans h.pii
    · rw [hnone] at hactive
      cases hactive
    · rw [honly hother] at hpatterns
      exact hpatterns

theorem Serves.run {name : String} {pack : Obj} {commands : List (Command Obj)}
    (h : Serves objs render_name name pack s) (hcommands : ∀ c ∈ commands, Settled name c) :
    Serves objs render_name name pack (run objs render_name s commands) := by
  induction commands generalizing s with
  | nil => exact h
  | cons c commands ih =>
    obtain ⟨hreset, hasked⟩ := hcommands c List.mem_cons_self
    exact ih (h.step hasked (exec_step s hreset)) fun c hc => hcommands c (List.mem_cons_of_mem _ hc)

omit [DecidableEq Obj] in
/-- A startup that succeeds serves with the pack of that name. -/
theorem startup_serves {name : String} {pack : Obj} (h : Inv objs render_name s)
    (hstart : (startup objs render_name s (.ok (some name))).1 = .ok pack) :
    Serves objs render_name name pack (startup objs render_name s (.ok (some name))).2 := by
  obtain ⟨registry, hadded, hok | ⟨exc, heq⟩⟩ :=
    startup_cases objs render_name s (.ok (some name))
  · obtain ⟨other, chosen, hname, hget, hvalid, heq⟩ := hok
    rw [heq] at hstart ⊢
    cases hstart
    cases hname
    have hown : (objs.contents pack).name = name := by
      rcases hadded.own_name name pack hget with hold | hnew
      · exact h.own_name name pack hold
      · exact hnew
    exact ⟨hown, hget, rfl, ⟨hvalid, rfl, rfl⟩, rfl⟩
  · rw [heq] at hstart
    cases hstart

omit [DecidableEq Obj] in
/-- A process that serves with a pack can be started for it again. -/
theorem Serves.again {name : String} {pack : Obj} (h : Serves objs render_name name pack s)
    (hne : name ≠ "") :
    (startup objs render_name s (.ok (some name))).1 = .ok pack := by
  have hget := (register_builtin_packs_added objs s).kept name pack h.registered
  unfold startup activate_configured_pack
  simp only [hne, if_false]
  unfold select_pack
  simp only [hget, h.works.valid]
  rfl

/-- **A started process stays with its pack.** After any history, a startup that succeeds for a
    name serves with the pack registered under it, in intake, routing and redaction; this stays so
    whatever is registered, loaded, applied or selected again later, until a reset or a request for
    another name, and the startup can be repeated. -/
theorem startup_settled (objs : PackObjects Obj) (render_name : RenderName)
    (earlier later : List (Command Obj)) (name : String) (pack : Obj)
    (hstart : (startup objs render_name
      (run objs render_name (PackState.imported render_name) earlier) (.ok (some name))).1 = .ok pack)
    (hlater : ∀ c ∈ later, Settled name c) :
    let s := run objs render_name (startup objs render_name
      (run objs render_name (PackState.imported render_name) earlier) (.ok (some name))).2 later
    Serves objs render_name name pack s ∧
      (startup objs render_name s (.ok (some name))).1 = .ok pack := by
  have hne : name ≠ "" := by
    rintro rfl
    cases hstart
  have hserves := (startup_serves (inv_imported.run earlier) hstart).run hlater
  exact ⟨hserves, hserves.again hne⟩

end histories

/-! ## A plugin under the name of a built-in pack -/

/-- The built-in packs, and one of a plugin that calls itself as the consulting pack does. -/
inductive InstalledPack where
  | immigration
  | consulting
  | rival
  deriving DecidableEq

def installed_packs : PackObjects InstalledPack where
  contents pack := match pack with
    | .immigration => IMMIGRATION_PACK
    | .consulting => CONSULTING_PACK
    | .rival => { CONSULTING_PACK with version := "9.9.9", pii_patterns := ["\\bEN-\\d+\\b"] }
  immigration := .immigration
  consulting := .consulting
  immigration_contents := rfl
  consulting_contents := rfl

/-- The plugin came first, so the name is its own: the built-in pack is not registered, and the
    process stays with the plugin's pack. -/
theorem rival_stays :
    Serves installed_packs (fun _ _ _ _ => .ok "") "consulting" .rival
      (run installed_packs (fun _ _ _ _ => .ok "")
        (startup installed_packs (fun _ _ _ _ => .ok "")
          (run installed_packs (fun _ _ _ _ => .ok "") (PackState.imported fun _ _ _ _ => .ok "")
            [.plugins [.broken .recursion_error, .pack .rival]]) (.ok (some "consulting"))).2
        [.register .consulting, .builtins, .apply, .select "consulting", .startup (.ok none)]) :=
  (startup_settled installed_packs (fun _ _ _ _ => .ok "")
    [.plugins [.broken .recursion_error, .pack .rival]]
    [.register .consulting, .builtins, .apply, .select "consulting", .startup (.ok none)]
    "consulting" .rival (by decide +kernel) (by
      intro c hc
      simp only [List.mem_cons, List.not_mem_nil, or_false] at hc
      rcases hc with rfl | rfl | rfl | rfl | rfl <;> simp [Settled, Command.asked])).1

end CaseAutomation.Packs
