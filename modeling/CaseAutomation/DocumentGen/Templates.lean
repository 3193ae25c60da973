import CaseAutomation.DocumentGen.Placeholders
import Mathlib.Data.List.Dedup
import Mathlib.Data.List.Induction

/-! # Templates

    `TemplateStore.register` of `document_gen/template_store.py` with the validation of a template, and
    `tool_form_prefill` of `document_gen/tools.py`, which tells beforehand what a document will show.

    The validation looks for placeholders with the pattern of the renderer. So for a template that was
    validated the answer of the prefill accounts for every placeholder of the document
    (`prefill_shows_document`), and after any history of registrations every template in the store is one
    (`registered_templates`).
-/

namespace CaseAutomation.DocumentGen

open Framework

/-! ## Validation -/

/-- `\w`. -/
def word_char (platform : Platform) (c : Char) : Bool := platform.isalnum c || c == '_'

/-- What `re.IGNORECASE` takes for a letter of the pattern: the dotted and the dotless i are
    letters i. -/
def ignore_case (c : Char) : Char :=
  if c = Char.ofNat 0x130 ∨ c = Char.ofNat 0x131 then 'i' else c.toLower

/-- The word and an opening bracket, with space between them. -/
def calls (word text : List Char) : Bool :=
  (text.take word.length).map ignore_case == word &&
    ((text.drop word.length).dropWhile is_space).head? == some '('

/-- `_NONDETERMINISTIC.search`; `now` has to begin a word. -/
def nondeterministic (platform : Platform) : Bool → List Char → Bool
  | _, [] => false
  | in_word, c :: rest =>
    (!in_word && calls "now".toList (c :: rest)) || calls "random".toList (c :: rest) ||
      calls "uuid".toList (c :: rest) || nondeterministic platform (word_char platform c) rest

/-- `TemplateValidationError`. -/
inductive TemplateValidationError where
  | nondeterministic (name : String)
  | undeclared (name : String) (vars : List String)
  deriving DecidableEq

/-- `_validate`. -/
def validate (platform : Platform) (spec : TemplateSpec) (content : List UInt8) :
    Except TemplateValidationError Unit :=
  let text := (platform.decode content).toList
  if nondeterministic platform false text then .error (.nondeterministic spec.name)
  else
    let declared := spec.vars.map TemplateVariable.name
    let undeclared := (placeholder_names platform text).dedup.filter (· ∉ declared)
    if undeclared ≠ [] then .error (.undeclared spec.name undeclared) else .ok ()

/-! ## The store -/

/-- The arguments of `register`. -/
structure Registration where
  spec : TemplateSpec
  content : List UInt8
  validate : Bool

/-- `TemplateStore.register`. -/
def TemplateStore.register (platform : Platform) (store : TemplateStore) (r : Registration) :
    Except TemplateValidationError TemplateStore := do
  if r.validate then validate platform r.spec r.content
  .ok (store.set r.spec.name
    (((store.get? r.spec.name).getD ∅).set r.spec.version (r.spec, r.content)))

/-- `TemplateStore.get(name, version)`. -/
def TemplateStore.get_version (store : TemplateStore) (name : String) (version : Int) :
    Option (TemplateSpec × List UInt8) :=
  (store.get? name).bind fun versions => versions.get? version

/-- The store after a history of registrations; those that raise change nothing. -/
def registered (platform : Platform) (history : List Registration) : TemplateStore :=
  history.foldl (fun store r => (store.register platform r).toOption.getD store) ∅

/-- The registration does not raise. -/
def Registration.accepted (platform : Platform) (r : Registration) : Bool :=
  !r.validate || (DocumentGen.validate platform r.spec r.content).toBool

/-- It is for this version of the template. -/
def Registration.is_for (name : String) (version : Int) (r : Registration) : Bool :=
  decide (r.spec.name = name ∧ r.spec.version = version)

/-- The last registration of a version that was accepted. -/
def last_registration (platform : Platform) (history : List Registration) (name : String)
    (version : Int) : Option Registration :=
  (history.filter (·.accepted platform)).reverse.find? (·.is_for name version)

section store
variable {platform : Platform}

theorem register_eq (store : TemplateStore) (r : Registration) :
    (store.register platform r).toOption.getD store =
      if r.accepted platform then store.set r.spec.name
        (((store.get? r.spec.name).getD ∅).set r.spec.version (r.spec, r.content))
      else store := by
  unfold TemplateStore.register Registration.accepted
  by_cases hvalidate : r.validate = true
  · cases hresult : DocumentGen.validate platform r.spec r.content with
    | error e => simp [hvalidate, bind, Except.bind, Except.toOption, Except.toBool]
    | ok u => simp [hvalidate, bind, Except.bind, Except.toOption, Except.toBool]
  · simp [hvalidate, Except.toOption]

theorem get_version_set (store : TemplateStore) (r : Registration) (name : String) (version : Int) :
    (TemplateStore.get_version (store.set r.spec.name
      (((store.get? r.spec.name).getD ∅).set r.spec.version (r.spec, r.content))) name version) =
      if r.is_for name version then some (r.spec, r.content) else store.get_version name version := by
  unfold TemplateStore.get_version Registration.is_for
  rw [Dict.get?_set]
  by_cases hname : r.spec.name = name
  · subst hname
    rw [if_pos rfl, Option.bind_some, Dict.get?_set]
    by_cases hversion : r.spec.version = version
    · simp [hversion]
    · have hne : version ≠ r.spec.version := Ne.symm hversion
      rw [if_neg hne]
      cases store.get? r.spec.name with
      | none => simp [hversion]
      | some versions => simp [hversion]
  · have hne : name ≠ r.spec.name := Ne.symm hname
    rw [if_neg hne]
    simp [hname]

/-- **What a version holds**: what was registered last for it. -/
theorem get_version_registered (history : List Registration) (name : String) (version : Int) :
    (registered platform history).get_version name version =
      (last_registration platform history name version).map fun r => (r.spec, r.content) := by
  induction history using List.reverseRecOn with
  | nil => rfl
  | append_singleton earlier r ih =>
    unfold registered last_registration at ih ⊢
    rw [List.foldl_append, List.foldl_cons, List.foldl_nil, register_eq, List.filter_append,
      List.reverse_append, List.find?_append]
    by_cases haccepted : r.accepted platform = true
    · rw [if_pos haccepted, get_version_set, ih]
      by_cases hfor : r.is_for name version = true
      · simp [haccepted, hfor]
      · simp [haccepted, hfor]
    · rw [if_neg haccepted, ih]
      simp [haccepted]

/-- `get` finds the greatest of the versions. -/
theorem get_some_iff {store : TemplateStore} {name : String} {entry : TemplateSpec × List UInt8} :
    store.get name = some entry ↔ ∃ version, store.get_version name version = some entry ∧
      ∀ v, (store.get_version name v).isSome = true → v ≤ version := by
  unfold TemplateStore.get TemplateStore.get_version
  cases hversions : store.get? name with
  | none => simp
  | some versions =>
    simp only [Option.bind_eq_bind, Option.bind_some]
    have hkeys : ∀ v, (versions.get? v).isSome = true ↔ v ∈ versions.keys := by
      intro v
      rw [Dict.mem_keys_iff, Option.isSome_iff_exists]
    simp only [hkeys]
    constructor
    · intro hget
      obtain ⟨latest, hlatest, hentry⟩ := Option.bind_eq_some_iff.mp hget
      exact ⟨latest, hentry, (List.max?_eq_some_iff.mp hlatest).2⟩
    · intro hfound
      obtain ⟨version, hentry, hgreatest⟩ := hfound
      have hmem : version ∈ versions.keys := Dict.mem_keys_iff.mpr ⟨entry, hentry⟩
      have hlatest : versions.keys.max? = some version := List.max?_eq_some_iff.mpr ⟨hmem, hgreatest⟩
      rw [hlatest]
      exact hentry

theorem last_registration_mem {history : List Registration} {name : String} {version : Int}
    {r : Registration} (h : last_registration platform history name version = some r) :
    r ∈ history ∧ r.accepted platform = true ∧ r.spec.name = name ∧ r.spec.version = version := by
  have hmem := List.mem_filter.mp (List.mem_reverse.mp (List.mem_of_find?_eq_some h))
  have hfor := List.find?_some h
  simp only [Registration.is_for, decide_eq_true_eq] at hfor
  exact ⟨hmem.1, hmem.2, hfor⟩

theorem last_registration_isSome {history : List Registration} {r : Registration} (hr : r ∈ history)
    (haccepted : r.accepted platform = true) :
    (last_registration platform history r.spec.name r.spec.version).isSome = true := by
  unfold last_registration
  rw [List.find?_isSome]
  exact ⟨r, List.mem_reverse.mpr (List.mem_filter.mpr ⟨hr, haccepted⟩), by simp [Registration.is_for]⟩

/-- What the validation guarantees. -/
theorem validate_ok {spec : TemplateSpec} {content : List UInt8}
    (h : (DocumentGen.validate platform spec content).toBool = true) :
    nondeterministic platform false (platform.decode content).toList = false ∧
      ∀ name ∈ placeholder_names platform (platform.decode content).toList,
        name ∈ spec.vars.map TemplateVariable.name := by
  unfold DocumentGen.validate at h
  simp only at h
  split at h
  · cases h
  · next hdeterministic =>
    split at h
    · cases h
    · next hdeclared =>
      refine ⟨by simpa using hdeterministic, ?_⟩
      intro name hname
      by_contra hnot
      refine hdeclared ?_
      intro hnil
      have hmem : name ∈ (placeholder_names platform (platform.decode content).toList).dedup.filter
          (· ∉ spec.vars.map TemplateVariable.name) :=
        List.mem_filter.mpr ⟨List.mem_dedup.mpr hname, by simpa using hnot⟩
      rw [hnil] at hmem
      cases hmem

end store

/-- **What the store holds.** After any history of registrations, a version holds what was registered
    last for it, and `get` finds the greatest version. If each registration was validated, then every
    template that is found is deterministic, and all its placeholders are declared. -/
theorem registered_templates (platform : Platform) (history : List Registration) (name : String) :
    (∀ version, (registered platform history).get_version name version =
      (last_registration platform history name version).map fun r => (r.spec, r.content)) ∧
    ((registered platform history).get name = none ↔
      ∀ r ∈ history, r.accepted platform = true → r.spec.name ≠ name) ∧
    ∀ spec content, (registered platform history).get name = some (spec, content) →
      spec.name = name ∧
      (∀ r ∈ history, r.accepted platform = true → r.spec.name = name → r.spec.version ≤ spec.version) ∧
      (registered platform history).get_version name spec.version = some (spec, content) ∧
      ((∀ r ∈ history, r.validate = true) →
        nondeterministic platform false (platform.decode content).toList = false ∧
        ∀ var ∈ placeholder_names platform (platform.decode content).toList,
          var ∈ spec.vars.map TemplateVariable.name) := by
  have hversions : ∀ version, (registered platform history).get_version name version =
      (last_registration platform history name version).map fun r => (r.spec, r.content) :=
    get_version_registered history name
  have hisSome : ∀ r ∈ history, r.accepted platform = true → r.spec.name = name →
      ((registered platform history).get_version name r.spec.version).isSome = true := by
    intro r hr haccepted hname
    subst hname
    rw [get_version_registered, Option.isSome_map]
    exact last_registration_isSome hr haccepted
  refine ⟨hversions, ?_, ?_⟩
  · constructor
    · intro hnone r hr haccepted hname
      -- some version is there, so that there is a greatest one
      obtain ⟨entry, hentry⟩ := Option.isSome_iff_exists.mp (hisSome r hr haccepted hname)
      unfold TemplateStore.get TemplateStore.get_version at *
      cases hstored : (registered platform history).get? name with
      | none => simp [hstored] at hentry
      | some versions =>
        rw [hstored, Option.bind_some] at hentry
        have hmem : r.spec.version ∈ versions.keys := Dict.mem_keys_iff.mpr ⟨entry, hentry⟩
        cases hmax : versions.keys.max? with
        | none =>
          rw [List.max?_eq_none_iff.mp hmax] at hmem
          cases hmem
        | some latest =>
          obtain ⟨found, hfound⟩ := Dict.mem_keys_iff.mp (List.max?_eq_some_iff.mp hmax).1
          simp [hstored, hmax, hfound] at hnone
    · intro hnever
      cases hget : (registered platform history).get name with
      | none => rfl
      | some entry =>
        obtain ⟨version, hentry, -⟩ := get_some_iff.mp hget
        rw [hversions] at hentry
        obtain ⟨r, hr, -⟩ := Option.map_eq_some_iff.mp hentry
        obtain ⟨hmem, haccepted, hname, -⟩ := last_registration_mem hr
        exact absurd hname (hnever r hmem haccepted)
  · intro spec content hget
    obtain ⟨version, hentry, hgreatest⟩ := get_some_iff.mp hget
    have hlast := hentry
    rw [hversions] at hlast
    obtain ⟨r, hr, heq⟩ := Option.map_eq_some_iff.mp hlast
    obtain ⟨rfl, rfl⟩ := Prod.mk.inj heq
    obtain ⟨hmem, haccepted, hname, hversion⟩ := last_registration_mem hr
    refine ⟨hname, ?_, ?_, ?_⟩
    · intro r' hr' haccepted' hname'
      rw [hversion]
      exact hgreatest _ (hisSome r' hr' haccepted' hname')
    · rw [hversion]
      exact hentry
    · intro hvalidated
      have hvalid := haccepted
      rw [Registration.accepted, hvalidated r hmem, Bool.not_true, Bool.false_or] at hvalid
      exact validate_ok hvalid

/-! ## Prefill -/

inductive Emit where
  | fields_only
  | document
  deriving DecidableEq

/-- The arguments of `tool_form_prefill`. -/
structure PrefillRequest where
  matter : Domain.Matter
  form_id : String
  template_store : TemplateStore
  data_context : PyDict
  run_id : Option String

/-- The call of `tool_document_generate` for the template of the form. -/
def PrefillRequest.generate (request : PrefillRequest) (template_name : String) : GenerateRequest where
  matter := request.matter
  template_name := template_name
  template_store := request.template_store
  data_context := request.data_context
  doc_key := none
  idem_key_override := none
  render_pdf := false
  run_id := request.run_id

/-- The answer for `fields_only`. -/
structure PrefillAnswer where
  resolved_fields : List (String × String)
  gaps : List Gap
  form_id : String
  template_version : Int

inductive PrefillResult where
  | fields (answer : PrefillAnswer)
  | generated (result : GenerationResult)

/-- `TemplateNotFoundError`; the text of a `KeyError` is in quotes. -/
def template_not_found (name : String) : Exn :=
  .other "TemplateNotFoundError" (repr_str ("Template " ++ repr_str name ++ " not found."))

/-- `{k: v for k, v in context.items() if v is not None}`. -/
def resolved_fields (context : Ctx) : List (String × String) :=
  context.filterMap fun entry => entry.2.map fun value => (entry.1, value)

def prefill_answer (platform : Platform) (request : PrefillRequest) (spec : TemplateSpec) :
    PrefillAnswer :=
  let context := build_context platform spec request.matter request.data_context
  { resolved_fields := resolved_fields context
    gaps := detect_gaps platform spec context
    form_id := request.form_id
    template_version := spec.version }

/-- `tool_form_prefill`, with the forms of the active pack. -/
def tool_form_prefill (platform : Platform) (prefill_forms : Dict String String)
    (request : PrefillRequest) (emit : Emit) : M PrefillResult :=
  match prefill_forms.get? request.form_id with
  | none => .raise (template_not_found request.form_id)
  | some template_name =>
    match request.template_store.get template_name with
    | none => .raise (template_not_found request.form_id)
    | some (spec, _) =>
      match emit with
      | .fields_only => .ret (.fields (prefill_answer platform request spec))
      | .document =>
        (tool_document_generate platform (request.generate template_name)).bind
          fun result => .ret (.generated result)

/-- What the answer says about a variable: its gap, or its value, or nothing. -/
def told (answer : PrefillAnswer) (name : String) : String :=
  match answer.gaps.reverse.find? fun gap => decide (gap.var_name = name) with
  | some gap => gap_token gap.label
  | none => (answer.resolved_fields.lookup name).getD ""

section prefill
variable {platform : Platform}

/-- A value is found among the resolved fields if it is not `None`. -/
theorem lookup_resolved_fields {context : Ctx} (hkeys : (context.map Prod.fst).Nodup) (name : String) :
    (resolved_fields context).lookup name = (context.lookup name).getD none := by
  unfold resolved_fields
  induction context with
  | nil => rfl
  | cons entry rest ih =>
    obtain ⟨key, value⟩ := entry
    rw [List.map_cons, List.nodup_cons] at hkeys
    have hrest := ih hkeys.2
    by_cases hname : name = key
    · subst hname
      rw [List.lookup_cons_self, Option.getD_some]
      cases value with
      | some value => simp
      | none =>
        -- the name does not occur again
        have habsent : rest.lookup name = none := by
          rw [List.lookup_eq_none_iff]
          intro e he
          by_contra hfound
          have heq : name = e.1 := by simpa using hfound
          exact hkeys.1 (List.mem_map.mpr ⟨e, he, heq.symm⟩)
        rw [habsent] at hrest
        simpa using hrest
    · have hne : (name == key) = false := by simpa using hname
      rw [List.lookup_cons, hne]
      cases value with
      | some value => simpa [List.lookup_cons, hne] using hrest
      | none => simpa using hrest

theorem context_keys_nodup (platform : Platform) (spec : TemplateSpec) (matter : Domain.Matter)
    (data_context : PyDict) :
    ((build_context platform spec matter data_context).map Prod.fst).Nodup := by
  unfold build_context
  rw [List.map_map]
  exact (resolve spec matter data_context).nodup_keys

/-- What is rendered for a name is what the answer says. -/
theorem shown_told {context : Ctx} (hkeys : (context.map Prod.fst).Nodup) (answer : PrefillAnswer)
    (hfields : answer.resolved_fields = resolved_fields context) (name : String) :
    shown (render_ctx context answer.gaps) name = told answer name := by
  have hlookup := Dict.lookup_foldl_setEntries Gap.var_name (fun gap => some (gap_token gap.label))
    answer.gaps context name
  unfold shown told render_ctx
  rw [hlookup, hfields, lookup_resolved_fields hkeys]
  cases answer.gaps.reverse.find? fun gap => decide (gap.var_name = name) with
  | none => rfl
  | some gap => rfl

/-- The two ways in which a form is asked for. -/
theorem prefill_cases {env : Env} {prefill_forms : Dict String String} {request : PrefillRequest}
    {emit : Emit} {result : PrefillResult} {w w' : World}
    (h : (tool_form_prefill env.platform prefill_forms request emit).run (exec env) w =
      (.ok result, w')) :
    ∃ template_name spec content, prefill_forms.get? request.form_id = some template_name ∧
      request.template_store.get template_name = some (spec, content) ∧
      ((emit = .fields_only ∧ w' = w ∧ result = .fields (prefill_answer env.platform request spec)) ∨
        (emit = .document ∧ ∃ generated, result = .generated generated ∧
          Outcome env (request.generate template_name) w generated w')) := by
  unfold tool_form_prefill at h
  cases hform : prefill_forms.get? request.form_id with
  | none =>
    rw [hform] at h
    cases h
  | some template_name =>
  rw [hform] at h
  simp only at h
  cases hstore : request.template_store.get template_name with
  | none =>
    rw [hstore] at h
    cases h
  | some entry =>
  obtain ⟨spec, content⟩ := entry
  rw [hstore] at h
  refine ⟨template_name, spec, content, rfl, hstore, ?_⟩
  cases emit with
  | fields_only =>
    obtain ⟨hanswer, rfl⟩ := Prod.mk.inj h
    exact .inl ⟨rfl, rfl, (Except.ok.inj hanswer).symm⟩
  | document =>
    obtain ⟨generated, w₁, hrun, hret⟩ := Program.run_bind_returns h
    obtain ⟨hresult, rfl⟩ := Prod.mk.inj hret
    exact .inr ⟨rfl, generated, (Except.ok.inj hresult).symm, outcome_of_run hrun⟩

/-- What the content of a document is made of, where it is no archive. -/
theorem rendered_told (request : PrefillRequest) (spec : TemplateSpec) {content : List UInt8}
    {pieces : List (Piece Char String)} (hmagic : content.take 4 ≠ [0x50, 0x4b, 0x03, 0x04])
    (hpieces : Divides platform (platform.decode content).toList pieces) :
    render_docx platform content
        (build_context platform spec request.matter request.data_context)
        (prefill_answer platform request spec).gaps =
      .ok (encode_utf8 (String.ofList (pieces.flatMap
        (Piece.fill fun name => (told (prefill_answer platform request spec) name).toList)))) := by
  have hkeys := context_keys_nodup platform spec request.matter request.data_context
  unfold render_docx
  rw [if_neg hmagic]
  refine congrArg (fun cs => Except.ok (encode_utf8 (String.ofList cs))) ?_
  rw [substitute_eq _ hpieces (Nat.le_refl _)]
  refine congrArg (fun value => List.flatMap (Piece.fill value) _) (funext fun name => ?_)
  exact congrArg String.toList (shown_told hkeys (prefill_answer platform request spec) rfl name)

/-- **The prefill tells the document.** Where `fields_only` answers, it has changed nothing. A
    document that is generated at any later time for the same form, matter and data has the same
    gaps; if it is a new one, it shows in the place of each placeholder what the answer says. If all
    templates were validated, the answer accounts for each of them: it is a declared
    variable of the template. -/
theorem prefill_shows_document {env : Env} {prefill_forms : Dict String String}
    {request : PrefillRequest} {answer : PrefillAnswer} {w w' : World}
    (h : (tool_form_prefill env.platform prefill_forms request .fields_only).run (exec env) w =
      (.ok (.fields answer), w')) :
    w' = w ∧ ∃ template_name spec content, prefill_forms.get? request.form_id = some template_name ∧
      request.template_store.get template_name = some (spec, content) ∧
      ∀ v result v', (tool_form_prefill env.platform prefill_forms request .document).run (exec env) v =
          (.ok (.generated result), v') →
        (result.document ≠ none → result.gaps = answer.gaps) ∧
        ∀ put, v'.puts = put :: v.puts → content.take 4 ≠ [0x50, 0x4b, 0x03, 0x04] →
          ∃ pieces, Divides env.platform (env.platform.decode content).toList pieces ∧
            put.request.rendered_bytes = encode_utf8 (String.ofList
              (pieces.flatMap (Piece.fill fun name => (told answer name).toList))) ∧
            ∀ history, request.template_store = registered env.platform history →
              (∀ r ∈ history, r.validate = true) → ∀ name ∈ pieces.filterMap Piece.match?,
                name ∈ spec.vars.map TemplateVariable.name := by
  obtain ⟨template_name, spec, content, hform, hstore, hcase⟩ := prefill_cases h
  rcases hcase with ⟨-, hw, hanswer⟩ | ⟨hemit, -⟩
  · obtain rfl := PrefillResult.fields.inj hanswer
    refine ⟨hw, template_name, spec, content, hform, hstore, ?_⟩
    intro v result v' hdocument
    obtain ⟨template_name', spec', content', hform', hstore', hcase⟩ := prefill_cases hdocument
    obtain rfl := Option.some.inj (hform.symm.trans hform')
    obtain ⟨rfl, rfl⟩ := Prod.mk.inj (Option.some.inj (hstore.symm.trans hstore'))
    rcases hcase with ⟨hemit, -⟩ | ⟨-, generated, hgenerated, houtcome⟩
    · cases hemit
    · obtain rfl := PrefillResult.generated.inj hgenerated
      -- both have resolved the same template with the same values
      have hresolve : ∀ resolved,
          resolve_request env.platform (request.generate template_name) = some resolved →
          resolved.template_bytes = content ∧
          resolved.context = build_context env.platform spec request.matter request.data_context ∧
          resolved.gaps = (prefill_answer env.platform request spec).gaps := by
        intro resolved hresolved
        have hgot : (request.generate template_name).template_store.get
            (request.generate template_name).template_name = some (spec, content) := hstore
        unfold resolve_request at hresolved
        rw [hgot] at hresolved
        obtain rfl := Option.some.inj hresolved
        exact ⟨rfl, rfl, rfl⟩
      constructor
      · intro hsome
        cases houtcome with
        | not_found _ hnone => exact absurd hnone hsome
        | hit resolved _ hresolved _ _ _ hgaps => exact hgaps.trans (hresolve resolved hresolved).2.2
        | failed _ _ _ hnone => exact absurd hnone hsome
        | stored resolved _ _ _ hresolved _ _ _ _ _ _ _ hgaps =>
          exact hgaps.trans (hresolve resolved hresolved).2.2
      · intro put hputs hmagic
        have hpieces := divides_template_pieces env.platform
          (env.platform.decode content).toList
        refine ⟨_, hpieces, ?_, ?_⟩
        · -- only a call that stores adds a put
          have hgrown : v'.puts ≠ v.puts := by
            intro heq
            have hlength := congrArg List.length (hputs.symm.trans heq)
            simp at hlength
          cases houtcome with
          | not_found _ _ _ huntouched => exact absurd huntouched.puts hgrown
          | hit _ _ _ _ _ _ _ huntouched => exact absurd huntouched.puts hgrown
          | failed _ _ _ _ _ huntouched => exact absurd huntouched.puts hgrown
          | stored resolved rendered put' _ hresolved _ hrendered hrequest _ _ _ _ _ hputs' =>
            obtain ⟨rfl, -⟩ := List.cons.inj (hputs.symm.trans hputs')
            obtain ⟨hbytes, hcontext, hgaps⟩ := hresolve resolved hresolved
            unfold Resolved.render at hrendered
            rw [hbytes, hcontext, hgaps, rendered_told request spec hmagic hpieces] at hrendered
            rw [hrequest]
            exact (Except.ok.inj hrendered).symm
        · intro history hhistory hvalidated name hname
          rw [hhistory] at hstore
          obtain ⟨-, -, -, hvalid⟩ :=
            (registered_templates env.platform history template_name).2.2 spec content hstore
          exact (hvalid hvalidated).2 name hname
  · cases hemit

end prefill

/-- The call letter with its text, checked. -/
def call_letter_registration : Registration :=
  ⟨call_letter, encode_utf8 "Dear {{ client.full_name }}, at {{ client.phone }}", true⟩

/-- The form of the call letter, for a client without a phone. -/
def sample_prefill : PrefillRequest :=
  ⟨cem, "call", registered plain_platform [call_letter_registration], [], some "run-1"⟩

def sample_forms : Dict String String := Dict.set ∅ "call" "call_letter"

/-- The document of the form, in a new world. -/
def sample_generated : Except Exn PrefillResult × World :=
  (tool_form_prefill plain_platform sample_forms sample_prefill .document).run (exec calm_env) new_world

/-- What a result says: the variables of its gaps, where there is a document. -/
def gap_names : Except Exn PrefillResult → Option (List String)
  | .ok (.generated result) => result.document.map fun _ => result.gaps.map Gap.var_name
  | _ => none

/-- The answer for the form tells the gap of the document. -/
theorem call_letter_told : ∃ answer result after,
    (tool_form_prefill calm_env.platform sample_forms sample_prefill .fields_only).run (exec calm_env)
      new_world = (.ok (.fields answer), new_world) ∧
    (tool_form_prefill calm_env.platform sample_forms sample_prefill .document).run (exec calm_env)
      new_world = (.ok (.generated result), after) ∧
    told answer "client.full_name" = "Cem" ∧ told answer "client.phone" = "[[MISSING: Phone]]" ∧
    result.gaps = answer.gaps := by
  have hrun : (tool_form_prefill calm_env.platform sample_forms sample_prefill .fields_only).run
      (exec calm_env) new_world =
      (.ok (.fields (prefill_answer plain_platform sample_prefill call_letter)), new_world) := by
    rfl
  have hnames : gap_names sample_generated.1 = some ["client.phone"] := by decide +kernel
  obtain ⟨-, _, _, _, -, -, hlater⟩ := prefill_shows_document hrun
  obtain ⟨outcome, after, hgenerated⟩ : ∃ outcome after, sample_generated = (outcome, after) := ⟨_, _, rfl⟩
  rw [hgenerated] at hnames
  rcases outcome with e | ⟨answer | result⟩
  · cases hnames
  · cases hnames
  · refine ⟨_, result, after, hrun, hgenerated, by decide +kernel, by decide +kernel, ?_⟩
    refine (hlater new_world result after hgenerated).1 ?_
    intro hnone
    rw [gap_names, hnone] at hnames
    cases hnames

end CaseAutomation.DocumentGen
