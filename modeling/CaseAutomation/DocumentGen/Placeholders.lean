import CaseAutomation.DocumentGen.Histories
import CaseAutomation.Framework.Substitution
import Mathlib.Data.List.TakeWhile

/-! # Placeholders

    The plain-text path of `render_docx`, from the text of a template to what stands in the place of
    each placeholder.

    * `template_matcher`  : the regular expression `_JINJA_VAR_RE`. `substitute` fills the pieces into which
      it divides a text (`substitute_eq`).
    * `Unresolved`        : why a variable has no value that can be shown.
    * `no_silent_blank`   : a required variable is shown by its formatted value, which is not
      blank, or by its gap token.
-/

namespace CaseAutomation.DocumentGen

open Framework Domain

/-! ## The regular expression -/

/-- A character of a name: `[\w.]`. -/
def name_char (platform : Platform) (c : Char) : Bool := platform.isalnum c || c == '_' || c == '.'

/-- A placeholder at the front of a text: its name, and the rest of the text. -/
def placeholder (platform : Platform) : List Char → Option (String × List Char)
  | '\x7b' :: '\x7b' :: cs => read_placeholder platform cs
  | _ => none

/-- The text of a placeholder. -/
def placeholder_text (left : List Char) (name : String) (right : List Char) : List Char :=
  '\x7b' :: '\x7b' :: left ++ name.toList ++ right ++ ['\x7d', '\x7d']

/-- What may stand between the braces: a name, with spaces around it. -/
structure PlaceholderParts (platform : Platform) (left : List Char) (name : String)
    (right : List Char) : Prop where
  before : ∀ c ∈ left, is_space c = true
  word : ∀ c ∈ name.toList, name_char platform c = true
  nonempty : name.toList ≠ []
  after : ∀ c ∈ right, is_space c = true

/-- Spaces and braces belong to no name. -/
structure NameChars (platform : Platform) : Prop where
  space : ∀ c, is_space c = true → platform.isalnum c = false
  opening : platform.isalnum '\x7b' = false
  closing : platform.isalnum '\x7d' = false

section placeholders
variable {platform : Platform} {cs rest left right : List Char} {name : String}

theorem not_name_char_space (h : NameChars platform) {c : Char} (hc : is_space c = true) :
    name_char platform c = false := by
  have hunderscore : c ≠ '_' := by
    rintro rfl
    exact absurd hc (by decide)
  have hdot : c ≠ '.' := by
    rintro rfl
    exact absurd hc (by decide)
  simp [name_char, h.space c hc, hunderscore, hdot]

theorem not_name_char_closing (h : NameChars platform) : name_char platform '\x7d' = false := by
  simp [name_char, h.closing]

theorem not_name_char_opening (h : NameChars platform) : name_char platform '\x7b' = false := by
  simp [name_char, h.opening]

/-- The steps of the reading: spaces, the name, spaces again, two braces. -/
theorem read_placeholder_eq (platform : Platform) (cs : List Char) :
    read_placeholder platform cs =
      match (cs.dropWhile is_space).takeWhile (name_char platform),
        ((cs.dropWhile is_space).dropWhile (name_char platform)).dropWhile is_space with
      | c :: word, '\x7d' :: '\x7d' :: rest => some (String.ofList (c :: word), rest)
      | _, _ => none := by
  unfold read_placeholder
  simp only
  split
  · next c word rest hword hrest =>
    rw [show (cs.dropWhile is_space).takeWhile (name_char platform) = c :: word from hword,
      show ((cs.dropWhile is_space).dropWhile (name_char platform)).dropWhile is_space = _ from hrest]
    exact congrArg (fun word => some (String.ofList word, rest)) hword
  · next hnot =>
    split
    · next c word rest hword hrest => exact absurd hrest (hnot c word rest hword)
    · rfl

/-- What has been read was there. -/
theorem read_placeholder_parts (h : read_placeholder platform cs = some (name, rest)) :
    ∃ left right, PlaceholderParts platform left name right ∧
      cs = left ++ name.toList ++ right ++ '\x7d' :: '\x7d' :: rest := by
  rw [read_placeholder_eq] at h
  -- the text is cut three times: before the name, behind it, and before the braces
  let inner := cs.dropWhile is_space
  have hspaces : cs.takeWhile is_space ++ inner = cs := List.takeWhile_append_dropWhile
  have hnames : inner.takeWhile (name_char platform) ++ inner.dropWhile (name_char platform) = inner :=
    List.takeWhile_append_dropWhile
  have hafter : (inner.dropWhile (name_char platform)).takeWhile is_space ++
      (inner.dropWhile (name_char platform)).dropWhile is_space =
        inner.dropWhile (name_char platform) := List.takeWhile_append_dropWhile
  split at h
  · next c word rest' hword hrest =>
    cases h
    have hname : (String.ofList (c :: word)).toList = inner.takeWhile (name_char platform) :=
      String.toList_ofList.trans hword.symm
    refine ⟨cs.takeWhile is_space, (inner.dropWhile (name_char platform)).takeWhile is_space,
      ⟨fun c => List.mem_takeWhile_imp, ?_, ?_, fun c => List.mem_takeWhile_imp⟩, ?_⟩
    · intro d hd
      rw [hname] at hd
      exact List.mem_takeWhile_imp hd
    · rw [String.toList_ofList]
      exact List.cons_ne_nil _ _
    · rw [hname, List.append_assoc, List.append_assoc, ← hrest, hafter, hnames, hspaces]
  · cases h

/-- What stands there is read. -/
theorem read_placeholder_of_parts (hchars : NameChars platform)
    (h : PlaceholderParts platform left name right) (rest : List Char) :
    read_placeholder platform (left ++ name.toList ++ right ++ '\x7d' :: '\x7d' :: rest) =
      some (name, rest) := by
  obtain ⟨c, word, hname⟩ := List.exists_cons_of_ne_nil h.nonempty
  have hc : name_char platform c = true := h.word c (by rw [hname]; exact List.mem_cons_self)
  have hspace : is_space c = false := by
    cases hs : is_space c with
    | false => rfl
    | true =>
      rw [not_name_char_space hchars hs] at hc
      cases hc
  -- each part ends where the next one begins
  have hname_stop : ∀ d ∈ (name.toList ++ (right ++ '\x7d' :: '\x7d' :: rest)).head?, is_space d = false := by
    intro d hd
    rw [hname] at hd
    cases hd
    exact hspace
  have hright_stop : ∀ d ∈ (right ++ '\x7d' :: '\x7d' :: rest).head?, name_char platform d = false := by
    intro d hd
    have hafter := h.after
    cases right with
    | nil =>
      cases hd
      exact not_name_char_closing hchars
    | cons e right =>
      cases hd
      exact not_name_char_space hchars (hafter _ List.mem_cons_self)
  have hbraces_stop : ∀ d ∈ ('\x7d' :: '\x7d' :: rest).head?, is_space d = false := by
    intro d hd
    cases hd
    decide
  have hleft := takeWhile_stop h.before hname_stop
  have hword := takeWhile_stop h.word hright_stop
  have hright := takeWhile_stop h.after hbraces_stop
  rw [read_placeholder_eq, List.append_assoc, List.append_assoc, hleft.2, hword.1, hword.2, hright.2, hname]
  show some (String.ofList (c :: word), rest) = _
  rw [← hname, String.ofList_toList]

/-! ## The pieces of a template -/

theorem placeholder_consumes {text : List Char} (h : placeholder platform text = some (name, rest)) :
    ∃ left right, PlaceholderParts platform left name right ∧
      text = placeholder_text left name right ++ rest := by
  unfold placeholder at h
  split at h
  · next cs =>
    obtain ⟨left, right, hparts, rfl⟩ := read_placeholder_parts h
    exact ⟨left, right, hparts, by simp [placeholder_text]⟩
  · cases h

/-- `_JINJA_VAR_RE`. -/
def template_matcher (platform : Platform) : Matcher Char String where
  read := placeholder platform
  consumes := by
    intro text name rest h
    obtain ⟨left, right, -, htext⟩ := placeholder_consumes h
    exact ⟨_, List.cons_ne_nil _ _, htext⟩

/-- The pieces of a template. -/
abbrev Divides (platform : Platform) : List Char → List (Piece Char String) → Prop :=
  Scans (template_matcher platform)

/-- The pieces of a text. -/
def template_pieces (platform : Platform) (text : List Char) : List (Piece Char String) :=
  (template_matcher platform).pieces text.length text

theorem divides_template_pieces (platform : Platform) (text : List Char) :
    Divides platform text (template_pieces platform text) :=
  Scans.pieces_of (template_matcher platform) (Nat.le_refl _)

/-- `_JINJA_VAR.finditer`, with the pattern of `_JINJA_VAR_RE`: the names in the placeholders. -/
def placeholder_names (platform : Platform) (text : List Char) : List String :=
  (template_pieces platform text).filterMap Piece.match?

/-- What the context has for a name: `str(val) if val is not None else ""`. -/
def shown (ctx : Ctx) (name : String) : String := ((ctx.lookup name).getD none).getD ""

/-- One step of the substitution, at a placeholder. -/
theorem substitute_found {text : List Char} (ctx : Ctx) (fuel : Nat)
    (h : placeholder platform text = some (name, rest)) :
    substitute platform ctx (fuel + 1) text =
      (shown ctx name).toList ++ substitute platform ctx fuel rest := by
  unfold placeholder at h
  split at h
  · next cs =>
    rw [substitute, h]
    rfl
  · cases h

/-- One step of the substitution, elsewhere. -/
theorem substitute_char {c : Char} (ctx : Ctx) (fuel : Nat)
    (h : placeholder platform (c :: rest) = none) :
    substitute platform ctx (fuel + 1) (c :: rest) = c :: substitute platform ctx fuel rest := by
  unfold placeholder at h
  split at h
  · next cs hcs =>
    obtain ⟨rfl, rfl⟩ := List.cons.inj hcs
    rw [substitute, h]
  · next hnot =>
    rw [substitute]
    exact fun cs hc hrest => hnot cs (by rw [hc, hrest])

/-- **Substitution**: the pieces of the text, filled. -/
theorem substitute_eq {text : List Char} {pieces : List (Piece Char String)} (ctx : Ctx)
    (h : Divides platform text pieces) {fuel : Nat} (hfuel : text.length ≤ fuel) :
    substitute platform ctx fuel text =
      pieces.flatMap (Piece.fill fun name => (shown ctx name).toList) := by
  -- on the pieces; each of them uses up at least one character, so the fuel lasts
  induction h generalizing fuel with
  | nil => cases fuel <;> rfl
  | @found source rest name pieces hread _ ih =>
    obtain ⟨match_text, hne, hsource⟩ := (template_matcher platform).consumes hread
    have hpos := List.length_pos_iff.mpr hne
    rw [hsource, List.length_append] at hfuel
    cases fuel with
    | zero => omega
    | succ fuel =>
      rw [substitute_found ctx fuel hread, List.flatMap_cons, ih (by omega)]
      rfl
  | @char c rest pieces hread _ ih =>
    rw [List.length_cons] at hfuel
    cases fuel with
    | zero => omega
    | succ fuel =>
      rw [substitute_char ctx fuel hread, List.flatMap_cons, ih (by omega)]
      rfl

/-! ## The placeholders of a template -/

/-- A placeholder ends before the next braces are opened: only its first two characters are opening
    braces, and no two placeholders share one of them. -/
theorem placeholder_clear (hchars : NameChars platform) {start cs after : List Char} (hstart : start ≠ [])
    (h : placeholder platform (start ++ '\x7b' :: '\x7b' :: cs) = some (name, after)) :
    '\x7b' :: '\x7b' :: cs <:+ after := by
  obtain ⟨left, right, hparts, htext⟩ := placeholder_consumes h
  -- spaces, names and closing braces have no opening brace among them
  have hinside : '\x7b' ∉ left ++ name.toList ++ right ++ ['\x7d', '\x7d'] := by
    intro hmem
    simp only [List.mem_append, List.mem_cons, List.not_mem_nil, or_false] at hmem
    rcases hmem with ((hleft | hname) | hright) | hclosing
    · exact absurd (hparts.before _ hleft) (by decide)
    · have hword := hparts.word _ hname
      rw [not_name_char_opening hchars] at hword
      cases hword
    · exact absurd (hparts.after _ hright) (by decide)
    · exact absurd hclosing (by decide)
  have hmatch_text : placeholder_text left name right =
      '\x7b' :: '\x7b' :: (left ++ name.toList ++ right ++ ['\x7d', '\x7d']) := rfl
  rw [hmatch_text] at htext
  rcases List.append_eq_append_iff.mp htext with ⟨overlap, hmatch, hcs⟩ | ⟨between, -, hafter⟩
  · cases overlap with
    | nil =>
      -- it ends where the next braces begin
      rw [List.nil_append] at hcs
      rw [hcs]
    | cons c overlap =>
      -- the placeholder would have a third opening brace, or a brace for its first character of a name
      exfalso
      obtain ⟨rfl, hoverlap⟩ := List.cons.inj hcs
      obtain ⟨d, start, rfl⟩ := List.exists_cons_of_ne_nil hstart
      obtain ⟨-, htail⟩ := List.cons.inj hmatch
      cases start with
      | nil =>
        obtain ⟨-, hrest⟩ := List.cons.inj htail
        cases overlap with
        | nil => simp at hrest
        | cons e overlap =>
          obtain ⟨rfl, -⟩ := List.cons.inj hoverlap
          exact hinside (by rw [hrest]; exact List.mem_cons_self)
      | cons e start =>
        obtain ⟨-, hrest⟩ := List.cons.inj htail
        exact hinside (by rw [hrest]; simp)
  · exact ⟨between, hafter.symm⟩

/-- **Each placeholder is replaced**: wherever one stands in the text, it is one of the pieces. -/
theorem placeholder_found (hchars : NameChars platform) {before : List Char}
    {pieces : List (Piece Char String)} (hparts : PlaceholderParts platform left name right)
    (h : Divides platform (before ++ (placeholder_text left name right ++ rest)) pieces) :
    ∃ earlier later, pieces = earlier ++ .found name (placeholder_text left name right) :: later ∧
      earlier.flatMap Piece.source = before := by
  have hread : placeholder platform (placeholder_text left name right ++ rest) = some (name, rest) := by
    have hinner := read_placeholder_of_parts hchars hparts rest
    simpa [placeholder_text, placeholder] using hinner
  obtain ⟨earlier, match_text, later, hpieces, hsource, hmatch, -⟩ := h.hit hread (by
    intro start _ hstart name' after hstarts
    exact placeholder_clear hchars hstart hstarts)
  rw [List.append_cancel_right hmatch] at hpieces
  exact ⟨earlier, later, hpieces, hsource⟩

end placeholders

/-! ## Values -/

/-- What a variable is given: by the last override of its name, else by the matter. -/
def given (matter : Matter) (data_context : PyDict) (name : String) : PyValue :=
  (data_context.reverse.lookup name).getD (((domain_map matter).lookup name).getD .null)

/-- The formatted value of a variable, if it has a value. -/
def formatted (platform : Platform) (type : VariableType) : PyValue → Option String
  | .null => none
  | value => some (format_value platform value type)

/-- Why a required variable has nothing to show. -/
inductive Unresolved (platform : Platform) (var : TemplateVariable) : Option String → Prop where
  | missing : Unresolved platform var none
  | blank {s : String} : strip s = "" → Unresolved platform var (some s)
  | not_a_number {s : String} : var.type = .number → platform.is_float s = false →
      Unresolved platform var (some s)
  | not_listed {s : String} {listed : List String} : var.type = .enum →
      var.enum_values = some listed → listed ≠ [] → s ∉ listed → Unresolved platform var (some s)

section values
variable {platform : Platform} {spec : TemplateSpec} {matter : Matter} {data_context : PyDict}
  {var : TemplateVariable} {value : Option String} {context : Ctx}

theorem gap_reason_of_unresolved (h : Unresolved platform var value) :
    ∃ reason, gap_reason platform var value = some reason := by
  cases h with
  | missing => exact ⟨_, rfl⟩
  | blank hblank =>
    refine ⟨.empty, ?_⟩
    simp only [gap_reason, if_pos hblank]
  | @not_a_number s htype hfloat =>
    by_cases hblank : strip s = ""
    · exact ⟨.empty, by simp only [gap_reason, if_pos hblank]⟩
    · exact ⟨.type_mismatch, by simp [gap_reason, hblank, htype, hfloat]⟩
  | @not_listed s listed htype hvalues hlisted hs =>
    by_cases hblank : strip s = ""
    · exact ⟨.empty, by simp only [gap_reason, if_pos hblank]⟩
    · obtain ⟨v, vs, rfl⟩ := List.exists_cons_of_ne_nil hlisted
      exact ⟨.enum_violation, by simp [gap_reason, hblank, htype, hvalues, hs]⟩

theorem unresolved_of_gap_reason {reason : GapReason} (h : gap_reason platform var value = some reason) :
    Unresolved platform var value := by
  cases value with
  | none => exact .missing
  | some s =>
    by_cases hblank : strip s = ""
    · exact .blank hblank
    · simp only [gap_reason, if_neg hblank] at h
      split at h
      · next htype =>
        split at h
        · cases h
        · next hfloat => exact .not_a_number htype (by simpa using hfloat)
      · split at h
        · next htype =>
          split at h
          · next v vs hvalues =>
            split at h
            · cases h
            · next hs => exact .not_listed htype hvalues (List.cons_ne_nil v vs) hs
          · cases h
        · cases h

/-- A variable that is resolved has a value, and it is not blank. -/
theorem resolved_value (h : ¬ Unresolved platform var value) : ∃ s, value = some s ∧ strip s ≠ "" := by
  cases value with
  | none => exact absurd .missing h
  | some s => exact ⟨s, rfl, fun hblank => h (.blank hblank)⟩

/-- Pairwise distinct names: a variable is found by its name. -/
theorem find?_name (hnames : (spec.vars.map TemplateVariable.name).Nodup) (hvar : var ∈ spec.vars) :
    (spec.vars.reverse.find? fun other => decide (other.name = var.name)) = some var := by
  cases hfound : spec.vars.reverse.find? fun other => decide (other.name = var.name) with
  | none =>
    have hnot := List.find?_eq_none.mp hfound var (List.mem_reverse.mpr hvar)
    simp at hnot
  | some other =>
    have hname : other.name = var.name := by simpa using List.find?_some hfound
    have hother := List.mem_reverse.mp (List.mem_of_find?_eq_some hfound)
    rw [List.inj_on_of_nodup_map hnames hother hvar hname]

theorem var_type_eq (hnames : (spec.vars.map TemplateVariable.name).Nodup) (hvar : var ∈ spec.vars) :
    var_type spec var.name = var.type := by
  unfold var_type
  rw [find?_name hnames hvar]

/-- An override of a declared name takes the place of the default, and the last one counts. -/
theorem overridden_get? {names : List String} {name : String} (hname : name ∈ names)
    (resolved : Dict String PyValue) :
    (data_context.foldl (fun resolved entry =>
      if entry.1 ∈ names then resolved.set entry.1 entry.2 else resolved) resolved).get? name =
        (data_context.reverse.lookup name).or (resolved.get? name) := by
  induction data_context generalizing resolved with
  | nil => rfl
  | cons entry rest ih =>
    rw [List.foldl_cons, ih, List.reverse_cons, List.lookup_append, List.lookup_cons]
    cases rest.reverse.lookup name with
    | some value => rfl
    | none =>
      -- no later override of the name
      by_cases hkey : name = entry.1
      · rw [← hkey, if_pos hname]
        simp
      · have hother : (name == entry.1) = false := by simp [hkey]
        have hkept : ∀ value, (resolved.set entry.1 value).get? name = resolved.get? name :=
          fun value => Dict.get?_set_ne resolved value hkey
        by_cases hdeclared : entry.1 ∈ names
        · simp [hdeclared, hother, hkept]
        · simp [hdeclared, hother]

theorem resolve_get? (hnames : (spec.vars.map TemplateVariable.name).Nodup) (hvar : var ∈ spec.vars) :
    (resolve spec matter data_context).get? var.name = some (given matter data_context var.name) := by
  unfold resolve
  rw [overridden_get? (List.mem_map_of_mem hvar), Dict.get?_foldl_set, find?_name hnames hvar]
  unfold given
  cases data_context.reverse.lookup var.name <;> rfl

/-- What the context has for a variable. -/
theorem context_lookup (hnames : (spec.vars.map TemplateVariable.name).Nodup) (hvar : var ∈ spec.vars) :
    (build_context platform spec matter data_context).lookup var.name =
      some (formatted platform var.type (given matter data_context var.name)) := by
  have hget : (resolve spec matter data_context).get? var.name =
      some (given matter data_context var.name) := resolve_get? hnames hvar
  rw [Dict.get?_eq_lookup] at hget
  unfold build_context
  -- formatting goes entry by entry and leaves the keys alone
  generalize (resolve spec matter data_context).entries = entries at hget
  induction entries with
  | nil => cases hget
  | cons entry entries ih =>
    rw [List.lookup_cons] at hget
    rw [List.map_cons, List.lookup_cons]
    by_cases hkey : var.name = entry.1
    · simp only [hkey, beq_self_eq_true] at hget ⊢
      rw [← hkey, var_type_eq hnames hvar, Option.some.inj hget, hkey]
      cases given matter data_context entry.1 <;> rfl
    · have hother : (var.name == entry.1) = false := by simp [hkey]
      rw [hother] at hget ⊢
      exact ih hget

/-- What is rendered for a name: the token of a gap of that name, or what the context has. -/
theorem render_ctx_cases (context : Ctx) (gaps : List Gap) (name : String) :
    (∃ gap ∈ gaps, gap.var_name = name ∧
      (render_ctx context gaps).lookup name = some (some (gap_token gap.label))) ∨
    ((∀ gap ∈ gaps, gap.var_name ≠ name) ∧ (render_ctx context gaps).lookup name = context.lookup name) := by
  have hlookup := Dict.lookup_foldl_setEntries Gap.var_name (fun gap => some (gap_token gap.label)) gaps
    context name
  unfold render_ctx
  rw [hlookup]
  cases hgap : gaps.reverse.find? fun gap => decide (gap.var_name = name) with
  | none =>
    refine .inr ⟨?_, rfl⟩
    intro gap hmem
    simpa using List.find?_eq_none.mp hgap gap (List.mem_reverse.mpr hmem)
  | some gap =>
    have hname : gap.var_name = name := by simpa using List.find?_some hgap
    exact .inl ⟨gap, List.mem_reverse.mp (List.mem_of_find?_eq_some hgap), hname, rfl⟩

/-- A gap is reported for each required variable that is not resolved. -/
theorem gap_reported (hvar : var ∈ spec.vars) (hrequired : var.required = true)
    (hunresolved : Unresolved platform var ((context.lookup var.name).getD none)) :
    ∃ gap ∈ detect_gaps platform spec context, gap.var_name = var.name := by
  obtain ⟨reason, hreason⟩ := gap_reason_of_unresolved hunresolved
  refine ⟨⟨var.name, var.label, reason⟩, List.mem_filterMap.mpr ⟨var, hvar, ?_⟩, rfl⟩
  rw [if_pos hrequired, hreason]
  rfl

/-- And for no other one. -/
theorem mem_detect_gaps {gap : Gap} (h : gap ∈ detect_gaps platform spec context) :
    ∃ var ∈ spec.vars, gap.var_name = var.name ∧ gap.label = var.label ∧
      Unresolved platform var ((context.lookup var.name).getD none) := by
  obtain ⟨var, hvar, hgap⟩ := List.mem_filterMap.mp h
  split at hgap
  · obtain ⟨reason, hreason, rfl⟩ := Option.map_eq_some_iff.mp hgap
    exact ⟨var, hvar, rfl, rfl, unresolved_of_gap_reason hreason⟩
  · cases hgap

/-- **What is shown** for a required variable: its gap token, or its formatted value. -/
theorem shown_required (hnames : (spec.vars.map TemplateVariable.name).Nodup) (hvar : var ∈ spec.vars)
    (hrequired : var.required = true) (hvalue : (context.lookup var.name).getD none = value) :
    (Unresolved platform var value →
      shown (render_ctx context (detect_gaps platform spec context)) var.name = gap_token var.label) ∧
    (¬ Unresolved platform var value →
      shown (render_ctx context (detect_gaps platform spec context)) var.name = value.getD "") := by
  unfold shown
  obtain ⟨gap, hgap, hname, hlookup⟩ | ⟨hnone, hlookup⟩ :=
    render_ctx_cases context (detect_gaps platform spec context) var.name
  · -- the names are distinct, so the gap is the variable's own
    obtain ⟨other, hother, hother_name, hlabel, hunresolved⟩ := mem_detect_gaps hgap
    have hsame : other = var :=
      List.inj_on_of_nodup_map hnames hother hvar (hother_name.symm.trans hname)
    rw [hsame, hvalue] at hunresolved
    constructor
    · intro _
      rw [hlookup, hlabel, hsame]
      rfl
    · intro hresolved
      exact absurd hunresolved hresolved
  · constructor
    · intro hunresolved
      rw [← hvalue] at hunresolved
      obtain ⟨gap, hgap, hname⟩ := gap_reported hvar hrequired hunresolved
      exact absurd hname (hnone gap hgap)
    · intro _
      rw [hlookup, ← hvalue]

end values

/-! ## No silent blank -/

/-- A template's text in pieces: what is outside of placeholders, and each placeholder. -/
structure Laid (platform : Platform) (text : String) (pieces : List (Piece Char String)) : Prop where
  whole : pieces.flatMap Piece.source = text.toList
  only : ∀ {name match_text}, Piece.found name match_text ∈ pieces →
    ∃ left right, PlaceholderParts platform left name right ∧ match_text = placeholder_text left name right
  every : ∀ {before left name right rest}, PlaceholderParts platform left name right →
    text.toList = before ++ (placeholder_text left name right ++ rest) →
      ∃ earlier later, pieces = earlier ++ .found name (placeholder_text left name right) :: later ∧
        earlier.flatMap Piece.source = before

/-- What stands in the place of a required variable: the gap token if it is not resolved, else its
    value, which is not blank. -/
structure Honest (platform : Platform) (var : TemplateVariable) (value : Option String)
    (stands : String) : Prop where
  gap : Unresolved platform var value → stands = gap_token var.label
  resolved : ¬ Unresolved platform var value → ∃ s, value = some s ∧ strip s ≠ "" ∧ stands = s

section no_silent_blank
variable {platform : Platform} {spec : TemplateSpec}

theorem laid_out (hchars : NameChars platform) {text : String} {pieces : List (Piece Char String)}
    (h : Divides platform text.toList pieces) : Laid platform text pieces where
  whole := h.source
  only := by
    intro name match_text hmem
    obtain ⟨rest, hread⟩ := h.found_read hmem
    obtain ⟨left, right, hparts, htext⟩ := placeholder_consumes hread
    exact ⟨left, right, hparts, List.append_cancel_right htext⟩
  every := by
    intro before left name right rest hparts htext
    rw [htext] at h
    exact placeholder_found hchars hparts h

end no_silent_blank

/-! ## Enumerated values -/

section enumerated

/-- The value is none of those that are listed for the variable. -/
def Outside (var : TemplateVariable) (value : String) : Prop :=
  ∃ listed, var.enum_values = some listed ∧ value ∉ listed

def listed_variable (type : VariableType) (listed : List String) : TemplateVariable :=
  ⟨"status", "Status", true, type, some listed⟩

/-- A template with one variable. -/
def status_letter (type : VariableType) (listed : List String) : TemplateSpec :=
  ⟨"status_letter", 1, none, true, [listed_variable type listed]⟩

/-- The letter with this status. -/
def status_rendered (type : VariableType) (listed : List String) (status : String) :
    Except String (List UInt8) :=
  let context := build_context plain_platform (status_letter type listed) ana [("status", .str status)]
  render_docx plain_platform (encode_utf8 "\x7b\x7b status \x7d\x7d") context
    (detect_gaps plain_platform (status_letter type listed) context)

theorem plain_name_chars : NameChars plain_platform where
  space := by
    intro c hc
    show c.isAlphanum = false
    simp only [is_space, Bool.or_eq_true, decide_eq_true_eq] at hc
    delta Char.isAlphanum Char.isAlpha Char.isUpper Char.isLower Char.isDigit
    simp only [Bool.or_eq_false_iff, Bool.and_eq_false_iff, decide_eq_false_iff_not, ge_iff_le, UInt32.le_iff_toNat_le]
    have hnat : c.toNat = c.val.toNat := rfl
    rw [hnat] at hc
    have hconsts : ('A'.val.toNat = 65 ∧ 'Z'.val.toNat = 90) ∧ ('a'.val.toNat = 97 ∧ 'z'.val.toNat = 122) ∧
        '0'.val.toNat = 48 ∧ '9'.val.toNat = 57 := by decide
    omega
  opening := by decide
  closing := by decide

end enumerated

end CaseAutomation.DocumentGen
