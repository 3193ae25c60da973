import CaseAutomation.Audit.Record
import CaseAutomation.Base.PyValues
import CaseAutomation.Domain.Models

/-! # Templates, Contexts and Gaps

    `document_gen/types.py`, `template_store.py` (the registry), `context.py`, and the text path
    of `renderer.py`: what is filled into a template, what is missing, and what is rendered.
-/

namespace CaseAutomation.DocumentGen

open Framework Domain Security

/-! ## Templates -/

inductive VariableType where
  | string
  | date
  | number
  | bool
  | address
  | enum
  deriving DecidableEq, Repr

/-- One declared variable of a template. -/
structure TemplateVariable where
  name : String
  label : String
  required : Bool
  type : VariableType
  enum_values : Option (List String)

/-- Declared metadata of a template. -/
structure TemplateSpec where
  name : String
  version : Int
  target_form_id : Option String
  privileged_default : Bool
  /-- `variables`. -/
  vars : List TemplateVariable

inductive GapReason where
  | missing
  | empty
  | type_mismatch
  | enum_violation
  deriving DecidableEq, Repr

/-- An unresolved required variable. -/
structure Gap where
  /-- `variable`. -/
  var_name : String
  label : String
  reason : GapReason
  deriving DecidableEq

/-- `TemplateStore`: the versions of each template. -/
abbrev TemplateStore : Type := Dict String (Dict Int (TemplateSpec × List UInt8))

/-- `TemplateStore.get(name)`: the latest version. -/
def TemplateStore.get (store : TemplateStore) (name : String) :
    Option (TemplateSpec × List UInt8) := do
  let versions ← store.get? name
  let latest_version ← versions.keys.max?
  versions.get? latest_version

/-- The parts of the language that the renderer builds on. -/
structure Platform where
  /-- `value.strftime("%B %d, %Y")`. -/
  strftime : Time → String
  /-- `str(value)`. -/
  str : PyValue → String
  /-- `float(s)` does not raise. -/
  is_float : String → Bool
  /-- `content.decode("utf-8", errors="replace")`. -/
  decode : List UInt8 → String
  /-- `c.isalnum()`. -/
  isalnum : Char → Bool
  /-- The rendering of a `.docx` template; an exception is given by its text. -/
  docxtpl : List UInt8 → List (String × Option String) → Except String (List UInt8)
  /-- `to_pdf(rendered)`; none where no engine converts it. -/
  to_pdf : List UInt8 → Option (List UInt8)

/-- A platform for ASCII text, whole numbers and plain templates. -/
def plain_platform : Platform where
  strftime _ := ""
  str
    | .int n => toString n
    | _ => ""
  is_float s := s.toInt?.isSome
  decode bytes := String.ofList (bytes.map fun b => Char.ofNat b.toNat)
  isalnum := Char.isAlphanum
  docxtpl _ _ := .error "docxtpl is not installed; cannot render .docx templates."
  to_pdf _ := none

/-! ## Context -/

/-- The resolved variables. -/
abbrev Ctx : Type := List (String × Option String)

/-- `format_value`, for a value that is not `None`. -/
def format_value (platform : Platform) (value : PyValue) (var_type : VariableType) : String :=
  match var_type, value with
  | .date, .datetime t => platform.strftime t
  | .bool, value => if value.truthy then "Yes" else "No"
  | _, .str s => s
  | _, value => platform.str value

/-- The domain-derived defaults. -/
def domain_map (matter : Matter) : PyDict :=
  [("client.full_name", .str matter.client.name),
    ("client.email", .optional (matter.client.email.filter (· ≠ ""))),
    ("client.phone", .optional matter.client.phone),
    ("matter.reference", .str matter.reference), ("matter.title", .str matter.title),
    ("matter.status", .str matter.status), ("matter.practice_area", .optional matter.practice_area),
    ("matter.opened_at", .datetime matter.opened_at)]

/-- The values before formatting. -/
def resolve (spec : TemplateSpec) (matter : Matter) (data_context : PyDict) : Dict String PyValue :=
  let resolved := spec.vars.foldl (fun resolved var =>
    resolved.set var.name (((domain_map matter).lookup var.name).getD .null)) ∅
  data_context.foldl (fun resolved entry =>
    if entry.1 ∈ spec.vars.map TemplateVariable.name then resolved.set entry.1 entry.2
    else resolved) resolved

/-- The type under which a variable was declared last. -/
def var_type (spec : TemplateSpec) (name : String) : VariableType :=
  match spec.vars.reverse.find? fun var => decide (var.name = name) with
  | some var => var.type
  | none => .string

/-- `build_context`. -/
def build_context (platform : Platform) (spec : TemplateSpec) (matter : Matter)
    (data_context : PyDict) : Ctx :=
  (resolve spec matter data_context).entries.map fun entry =>
    (entry.1, match entry.2 with
      | .null => none
      | value => some (format_value platform value (var_type spec entry.1)))

/-- Why a required variable is not resolved, if it is not. -/
def gap_reason (platform : Platform) (var : TemplateVariable) : Option String → Option GapReason
  | none => some .missing
  | some value =>
    if strip value = "" then some .empty
    else if var.type = .number then if platform.is_float value then none else some .type_mismatch
    else if var.type = .enum then
      match var.enum_values with
      | some (v :: vs) => if value ∈ v :: vs then none else some .enum_violation
      | _ => none
    else none

/-- `detect_gaps`. -/
def detect_gaps (platform : Platform) (spec : TemplateSpec) (context : Ctx) : List Gap :=
  spec.vars.filterMap fun var =>
    if var.required then
      (gap_reason platform var ((context.lookup var.name).getD none)).map fun reason =>
        ⟨var.name, var.label, reason⟩
    else none

/-! ## Idempotency key -/

/-- The context as JSON. -/
def context_json (context : Ctx) : Json :=
  .obj (context.map fun entry => (entry.1, match entry.2 with
    | none => .null
    | some value => .str value))

/-- `derive_idem_key`. -/
def derive_idem_key (template_name : String) (template_version : Int) (context : Ctx) : String :=
  let canonical := Audit.canonical [("template", .str template_name),
    ("version", .int template_version), ("context", context_json context)]
  slice_to (hexdigest (sha256 (encode_utf8 canonical))) 24

/-! ## Rendering -/

/-- The placeholder of a gap. -/
def gap_token (label : String) : String := "[[MISSING: " ++ label ++ "]]"

/-- `{**context, **gap_vars}`. -/
def render_ctx (context : Ctx) (gaps : List Gap) : Ctx :=
  gaps.foldl (fun ctx gap => Dict.setEntries ctx gap.var_name (some (gap_token gap.label))) context

/-- What follows a placeholder whose braces have just been opened, and the name in it. -/
def read_placeholder (platform : Platform) (cs : List Char) : Option (String × List Char) :=
  let cs := cs.dropWhile is_space
  let in_name := fun c => platform.isalnum c || c == '_' || c == '.'
  let name := cs.takeWhile in_name
  match name, (cs.dropWhile in_name).dropWhile is_space with
  | _ :: _, '\x7d' :: '\x7d' :: rest => some (String.ofList name, rest)
  | _, _ => none

/-- `_JINJA_VAR_RE.sub`. -/
def substitute (platform : Platform) (ctx : Ctx) : Nat → List Char → List Char
  | fuel + 1, '\x7b' :: '\x7b' :: cs =>
    match read_placeholder platform cs with
    | some (name, rest) =>
      (((ctx.lookup name).getD none).getD "").toList ++ substitute platform ctx fuel rest
    | none => '\x7b' :: substitute platform ctx fuel ('\x7b' :: cs)
  | fuel + 1, c :: cs => c :: substitute platform ctx fuel cs
  | _, cs => cs

/-- `render_docx`; an exception is given by its text. -/
def render_docx (platform : Platform) (template_bytes : List UInt8) (context : Ctx)
    (gaps : List Gap) : Except String (List UInt8) :=
  let ctx := render_ctx context gaps
  if template_bytes.take 4 = [0x50, 0x4b, 0x03, 0x04] then platform.docxtpl template_bytes ctx
  else
    let text := (platform.decode template_bytes).toList
    .ok (encode_utf8 (String.ofList (substitute platform ctx text.length text)))

/-- `checksum`. -/
def checksum (data : List UInt8) : String := hexdigest (sha256 data)

end CaseAutomation.DocumentGen
