import CaseAutomation.DocumentGen.Placeholders

/-! # Word Documents

    `_render_docxtpl`, the other path of `render_docx`: the same context, but read by Jinja, to which
    a dot in a name asks for an attribute.

    * `Jinja`              : how names are looked up and what is printed for them.
    * `Agreeing`           : the names for which Jinja prints what the plain path shows.
    * `docx_as_plain_iff`  : which templates are rendered alike.
    * `dotted_required_lost`: the name of the client never shows.
-/

namespace CaseAutomation.DocumentGen

open Framework Domain

/-- The template language, over the objects that names may stand for. -/
structure Jinja (Obj : Type) where
  /-- The value of a context entry. -/
  of_value : Option String → Obj
  /-- `str(o)`. -/
  str : Obj → String
  /-- Attribute or item of an object; none if it is undefined. -/
  attr : Obj → String → Option Obj
  /-- What the language itself gives a name to. -/
  globals : String → Option Obj
  /-- What is printed for what is no name to the language: a number, a constant, a keyword. -/
  special : String → Option (Except String String)
  /-- An undefined value is printed as the empty text; otherwise it raises. -/
  prints_undefined : Bool
  /-- An attribute of an undefined value is undefined; otherwise it raises. -/
  chains : Bool
  /-- The text of the exception that a name raises. -/
  undefined_error : String → String
  str_text : ∀ s, str (of_value (some s)) = s
  str_none : str (of_value none) = "None"

section jinja
variable {Obj : Type} (jinja : Jinja Obj)

namespace Jinja

/-- The object that a name without dots stands for. -/
def look_up (ctx : Ctx) (name : String) : Option Obj :=
  match ctx.lookup name with
  | some value => some (jinja.of_value value)
  | none => jinja.globals name

/-- The attribute at the end of a path, or the parts of the path behind the first one that is
    undefined. -/
def follow : Obj → List String → Except (List String) Obj
  | o, [] => .ok o
  | o, part :: path =>
    match jinja.attr o part with
    | some o' => follow o' path
    | none => .error path

/-- The object that a name with these parts stands for. -/
def resolve (ctx : Ctx) : List String → Except (List String) Obj
  | [] => .error []
  | first :: path =>
    match jinja.look_up ctx first with
    | some o => jinja.follow o path
    | none => .error path

/-- What is printed for an undefined value, of which these attributes are asked for. -/
def print_undefined (name : String) (path : List String) : Except String String :=
  if jinja.prints_undefined && (path.isEmpty || jinja.chains) then .ok ""
  else .error (jinja.undefined_error name)

/-- What is printed for a name. Nothing is escaped. -/
def rendered (ctx : Ctx) (name : String) : Except String String :=
  match jinja.special name with
  | some printed => printed
  | none =>
    match jinja.resolve ctx (split_on '.' name) with
    | .ok o => .ok (jinja.str o)
    | .error path => jinja.print_undefined name path

end Jinja

/-- The file format: `docxtpl` takes the text out of a template, and puts what is rendered in its place. -/
structure Docx where
  /-- The package can be imported. -/
  installed : Bool
  /-- The text of a template; an exception is given by its text. -/
  text : List UInt8 → Except String (List Char)
  save : List UInt8 → List Char → List UInt8

/-- What Jinja makes of a text that has no other template syntax than placeholders. -/
def render_text (platform : Platform) (ctx : Ctx) (text : List Char) : Except String (List Char) :=
  Piece.fill_all (fun name => (jinja.rendered ctx name).map String.toList) (template_pieces platform text)

/-- `_render_docxtpl`; an exception is given by its text. -/
def render_docxtpl (docx : Docx) (platform : Platform) (template_bytes : List UInt8) (ctx : Ctx) :
    Except String (List UInt8) :=
  if docx.installed then
    match (docx.text template_bytes).bind (render_text jinja platform ctx) with
    | .ok rendered => .ok (docx.save template_bytes rendered)
    | .error exc => .error ("DOCX render failed: " ++ exc)
  else .error "docxtpl is not installed; cannot render .docx templates."

/-- The platform with this rendering. -/
def docx_platform (docx : Docx) (platform : Platform) : Platform :=
  { platform with docxtpl := render_docxtpl jinja docx platform }

end jinja

/-! ## The same text -/

section same_text
variable {Obj : Type} (jinja : Jinja Obj) (ctx : Ctx)

/-- Each placeholder of the text is printed as the plain path shows it. -/
def SameText (platform : Platform) (text : List Char) : Prop :=
  ∀ name ∈ placeholder_names platform text, jinja.rendered ctx name = .ok (shown ctx name)

/-- The names that are printed as the plain path shows them. -/
inductive Agreeing (name : String) : Prop where
  /-- Jinja takes the name for something else, of the same text. -/
  | special {text : String} : jinja.special name = some (.ok text) → text = shown ctx name →
      Agreeing name
  /-- A name without dots, and the context has a text for it. -/
  | value {s : String} : jinja.special name = none → split_on '.' name = [name] →
      ctx.lookup name = some (some s) → Agreeing name
  /-- A name without dots that means nothing, where undefined values are printed as blanks. -/
  | unknown : jinja.special name = none → split_on '.' name = [name] →
      jinja.look_up ctx name = none → jinja.prints_undefined = true → Agreeing name
  /-- A name without dots of a blank object of the language. -/
  | blank {o : Obj} : jinja.special name = none → split_on '.' name = [name] →
      ctx.lookup name = none → jinja.globals name = some o → jinja.str o = "" → Agreeing name
  /-- The part before the first dot means nothing. Then the plain path must show nothing either. -/
  | lost {first part : String} {path : List String} : jinja.special name = none →
      split_on '.' name = first :: part :: path → jinja.look_up ctx first = none →
      jinja.prints_undefined = true → jinja.chains = true → shown ctx name = "" → Agreeing name
  /-- The part before the first dot has an attribute that happens to be of the same text. -/
  | has_attribute {first part : String} {path : List String} {o o' : Obj} : jinja.special name = none →
      split_on '.' name = first :: part :: path → jinja.look_up ctx first = some o →
      jinja.follow o (part :: path) = .ok o' → jinja.str o' = shown ctx name → Agreeing name
  /-- It has no such attribute. -/
  | no_attribute {first part : String} {path left : List String} {o : Obj} : jinja.special name = none →
      split_on '.' name = first :: part :: path → jinja.look_up ctx first = some o →
      jinja.follow o (part :: path) = .error left → jinja.prints_undefined = true →
      (left = [] ∨ jinja.chains = true) → shown ctx name = "" → Agreeing name

end same_text

section agreeing
variable {Obj : Type} {jinja : Jinja Obj} {ctx : Ctx} {name : String} {path : List String} {s : String}

theorem print_undefined_ok : jinja.print_undefined name path = .ok s ↔
    jinja.prints_undefined = true ∧ (path = [] ∨ jinja.chains = true) ∧ s = "" := by
  unfold Jinja.print_undefined
  split
  · next h =>
    rw [Bool.and_eq_true, Bool.or_eq_true, List.isEmpty_iff] at h
    constructor
    · intro heq
      exact ⟨h.1, h.2, (Except.ok.inj heq).symm⟩
    · rintro ⟨-, -, rfl⟩
      rfl
  · next h =>
    constructor
    · intro heq
      cases heq
    · rintro ⟨hprints, hpath, -⟩
      refine absurd ?_ h
      rw [hprints, Bool.true_and, Bool.or_eq_true, List.isEmpty_iff]
      exact hpath

/-- A name of one part has no dot, and is that part. -/
theorem split_on_single {first : String} (h : split_on '.' name = [first]) : first = name := by
  unfold split_on at h
  obtain ⟨part, hpart, rfl⟩ := List.map_eq_singleton_iff.mp h
  have hjoined : ['.'].intercalate (name.toList.splitOn '.') = name.toList :=
    List.intercalate_splitOn '.'
  rw [hpart] at hjoined
  rw [show part = name.toList by simpa using hjoined, String.ofList_toList]

theorem split_on_ne_nil : split_on '.' name ≠ [] := by
  intro h
  unfold split_on at h
  exact List.splitOn_ne_nil '.' name.toList (List.map_eq_nil_iff.mp h)

/-- An agreeing name is printed as the plain path shows it. -/
theorem rendered_of_agreeing (h : Agreeing jinja ctx name) :
    jinja.rendered ctx name = .ok (shown ctx name) := by
  cases h with
  | special hspecial htext =>
    unfold Jinja.rendered
    rw [hspecial, htext]
  | @value s hspecial hsplit hvalue =>
    have hresolved : jinja.resolve ctx [name] = .ok (jinja.of_value (some s)) := by
      simp [Jinja.resolve, Jinja.look_up, hvalue, Jinja.follow]
    have hshown : shown ctx name = s := by simp [shown, hvalue]
    unfold Jinja.rendered
    rw [hspecial, hsplit, hresolved, hshown]
    exact congrArg Except.ok (jinja.str_text s)
  | unknown hspecial hsplit hnone hprints =>
    have hresolved : jinja.resolve ctx [name] = .error [] := by
      simp [Jinja.resolve, hnone]
    have hlookup : ctx.lookup name = none := by
      unfold Jinja.look_up at hnone
      split at hnone
      · cases hnone
      · next hlookup => exact hlookup
    have hshown : shown ctx name = "" := by simp [shown, hlookup]
    unfold Jinja.rendered
    rw [hspecial, hsplit, hresolved, hshown]
    exact print_undefined_ok.mpr ⟨hprints, .inl rfl, rfl⟩
  | @blank o hspecial hsplit hlookup hglobal hblank =>
    have hresolved : jinja.resolve ctx [name] = .ok o := by
      simp [Jinja.resolve, Jinja.look_up, hlookup, hglobal, Jinja.follow]
    have hshown : shown ctx name = "" := by simp [shown, hlookup]
    unfold Jinja.rendered
    rw [hspecial, hsplit, hresolved, hshown]
    exact congrArg Except.ok hblank
  | @lost first part path hspecial hsplit hnone hprints hchains hshown =>
    have hresolved : jinja.resolve ctx (first :: part :: path) = .error (part :: path) := by
      simp [Jinja.resolve, hnone]
    unfold Jinja.rendered
    rw [hspecial, hsplit, hresolved, hshown]
    exact print_undefined_ok.mpr ⟨hprints, .inr hchains, rfl⟩
  | @has_attribute first part path o o' hspecial hsplit hfound hfollow htext =>
    have hresolved : jinja.resolve ctx (first :: part :: path) = .ok o' := by
      simp [Jinja.resolve, hfound, hfollow]
    unfold Jinja.rendered
    rw [hspecial, hsplit, hresolved]
    exact congrArg Except.ok htext
  | @no_attribute first part path left o hspecial hsplit hfound hfollow hprints hleft hshown =>
    have hresolved : jinja.resolve ctx (first :: part :: path) = .error left := by
      simp [Jinja.resolve, hfound, hfollow]
    unfold Jinja.rendered
    rw [hspecial, hsplit, hresolved, hshown]
    exact print_undefined_ok.mpr ⟨hprints, hleft, rfl⟩

/-- **And no other name is.** By the parts of the name, and what the first one stands for. -/
theorem agreeing_of_rendered (h : jinja.rendered ctx name = .ok (shown ctx name)) :
    Agreeing jinja ctx name := by
  unfold Jinja.rendered at h
  cases hspecial : jinja.special name with
  | some printed =>
    rw [hspecial] at h
    exact .special (hspecial.trans (congrArg some h)) rfl
  | none =>
    simp only [hspecial] at h
    cases hsplit : split_on '.' name with
    | nil => exact absurd hsplit split_on_ne_nil
    | cons first path =>
      rw [hsplit, Jinja.resolve] at h
      cases path with
      | nil =>
        -- no dot: both paths look the same name up
        obtain rfl := split_on_single hsplit
        cases hfound : jinja.look_up ctx first with
        | none =>
          simp only [hfound] at h
          exact .unknown hspecial hsplit hfound (print_undefined_ok.mp h).1
        | some o =>
          simp only [hfound, Jinja.follow] at h
          have htext := Except.ok.inj h
          cases hlookup : ctx.lookup first with
          | some value =>
            cases value with
            | some s => exact .value hspecial hsplit hlookup
            | none =>
              -- `None` is printed as a word
              have ho : o = jinja.of_value none := by
                simpa [Jinja.look_up, hlookup] using hfound.symm
              rw [ho, jinja.str_none] at htext
              simp [shown, hlookup] at htext
          | none =>
            have hglobal : jinja.globals first = some o := by
              simpa [Jinja.look_up, hlookup] using hfound
            exact .blank hspecial hsplit hlookup hglobal (by simpa [shown, hlookup] using htext)
      | cons part path =>
        -- a dot: the plain path looks the whole name up, Jinja the part before the dot
        cases hfound : jinja.look_up ctx first with
        | none =>
          simp only [hfound] at h
          obtain ⟨hprints, hchains, hshown⟩ := print_undefined_ok.mp h
          exact .lost hspecial hsplit hfound hprints (hchains.resolve_left (List.cons_ne_nil _ _)) hshown
        | some o =>
          simp only [hfound] at h
          cases hfollow : jinja.follow o (part :: path) with
          | ok o' =>
            simp only [hfollow] at h
            exact .has_attribute hspecial hsplit hfound hfollow (Except.ok.inj h)
          | error left =>
            simp only [hfollow] at h
            obtain ⟨hprints, hleft, hshown⟩ := print_undefined_ok.mp h
            exact .no_attribute hspecial hsplit hfound hfollow hprints hleft hshown

end agreeing

/-! ## Required variables -/

section required
variable {platform : Platform} {spec : TemplateSpec} {var : TemplateVariable} {context : Ctx}

theorem gap_token_not_blank (label : String) : strip (gap_token label) ≠ "" := by
  intro hblank
  have hmem : '[' ∈ (gap_token label).toList := by
    unfold gap_token
    simp
  exact absurd (strip_eq_empty.mp hblank '[' hmem) (by decide)

/-- The context has a text that is not blank for each required variable: its gap token, or its value. -/
theorem required_text (hvar : var ∈ spec.vars) (hrequired : var.required = true) :
    ∃ s, (render_ctx context (detect_gaps platform spec context)).lookup var.name = some (some s) ∧
      strip s ≠ "" := by
  obtain ⟨gap, -, -, hlookup⟩ | ⟨hnone, hlookup⟩ :=
    render_ctx_cases context (detect_gaps platform spec context) var.name
  · exact ⟨_, hlookup, gap_token_not_blank gap.label⟩
  · -- the variable is resolved, or there would be a gap of its name
    have hresolved : ¬ Unresolved platform var ((context.lookup var.name).getD none) := by
      intro hunresolved
      obtain ⟨gap, hgap, hname⟩ := gap_reported hvar hrequired hunresolved
      exact hnone gap hgap hname
    obtain ⟨s, hs, hblank⟩ := resolved_value hresolved
    refine ⟨s, ?_, hblank⟩
    cases hvalue : context.lookup var.name with
    | none =>
      rw [hvalue] at hs
      cases hs
    | some value =>
      rw [hvalue] at hs
      rw [hlookup, hvalue, show value = some s from hs]

end required

/-! ## Which templates are rendered alike -/

section docx_as_plain
variable {Obj : Type} (jinja : Jinja Obj) (platform : Platform) (spec : TemplateSpec) (matter : Matter)
  (data_context : PyDict)

/-- The context in which a template is rendered. -/
def full_context : Ctx :=
  render_ctx (build_context platform spec matter data_context)
    (detect_gaps platform spec (build_context platform spec matter data_context))

/-- **Which templates are rendered alike.** Jinja prints for each placeholder what the plain path shows if
    and only if each of them is of an agreeing name. Then no required variable is blank. -/
theorem docx_as_plain_iff (text : List Char) :
    (SameText jinja (full_context platform spec matter data_context) platform text ↔
      ∀ name ∈ placeholder_names platform text,
        Agreeing jinja (full_context platform spec matter data_context) name) ∧
    (SameText jinja (full_context platform spec matter data_context) platform text →
      ∀ var ∈ spec.vars, var.required = true → var.name ∈ placeholder_names platform text →
        ∃ s, jinja.rendered (full_context platform spec matter data_context) var.name = .ok s ∧
          strip s ≠ "") := by
  refine ⟨⟨?_, ?_⟩, ?_⟩
  · intro h name hname
    exact agreeing_of_rendered (h name hname)
  · intro h name hname
    exact rendered_of_agreeing (h name hname)
  · intro h var hvar hrequired hname
    have htext : ∃ s, (full_context platform spec matter data_context).lookup var.name = some (some s) ∧
        strip s ≠ "" := required_text hvar hrequired
    obtain ⟨s, hs, hblank⟩ := htext
    refine ⟨s, ?_, hblank⟩
    rw [h var.name hname]
    unfold shown
    rw [hs]
    rfl

variable {jinja platform spec matter data_context}

/-- Then the two paths of `render_docx` come to the same text. -/
theorem same_rendering {docx : Docx} {template_bytes : List UInt8} {text : String} {context : Ctx}
    {gaps : List Gap} (hinstalled : docx.installed = true)
    (hmagic : template_bytes.take 4 = [0x50, 0x4b, 0x03, 0x04])
    (htext : docx.text template_bytes = .ok text.toList)
    (hplain : (encode_utf8 text).take 4 ≠ [0x50, 0x4b, 0x03, 0x04])
    (hutf8 : platform.decode (encode_utf8 text) = text)
    (h : SameText jinja (render_ctx context gaps) platform text.toList) :
    ∃ rendered,
      render_docx (docx_platform jinja docx platform) template_bytes context gaps =
        .ok (docx.save template_bytes rendered) ∧
      render_docx (docx_platform jinja docx platform) (encode_utf8 text) context gaps =
        .ok (encode_utf8 (String.ofList rendered)) := by
  -- what a placeholder is does not depend on the rendering of `.docx` templates
  have hpieces : Divides (docx_platform jinja docx platform) text.toList
      (template_pieces platform text.toList) := divides_template_pieces platform text.toList
  have hfilled : render_text jinja platform (render_ctx context gaps) text.toList =
      .ok ((template_pieces platform text.toList).flatMap
        (Piece.fill fun name => (shown (render_ctx context gaps) name).toList)) := by
    apply Piece.fill_all_ok
    intro name hname
    rw [h name hname]
    rfl
  refine ⟨(template_pieces platform text.toList).flatMap
    (Piece.fill fun name => (shown (render_ctx context gaps) name).toList), ?_, ?_⟩
  · unfold render_docx
    rw [if_pos hmagic]
    show render_docxtpl jinja docx platform template_bytes (render_ctx context gaps) = _
    unfold render_docxtpl
    rw [if_pos hinstalled, htext]
    show (match render_text jinja platform (render_ctx context gaps) text.toList with
      | .ok rendered => Except.ok (docx.save template_bytes rendered)
      | .error exc => .error ("DOCX render failed: " ++ exc)) = _
    rw [hfilled]
  · unfold render_docx
    rw [if_neg hplain]
    have hdecode : (docx_platform jinja docx platform).decode (encode_utf8 text) = text := hutf8
    simp only [hdecode, substitute_eq _ hpieces (Nat.le_refl _)]

/-- **A required variable with a dot is lost**, unless the part before the dot is a variable too: Jinja
    raises, or prints nothing. -/
theorem dotted_required_lost {var : TemplateVariable} {first part : String} {path : List String}
    (hspecial : jinja.special var.name = none) (hsplit : split_on '.' var.name = first :: part :: path)
    (hnone : jinja.look_up (full_context platform spec matter data_context) first = none) :
    jinja.rendered (full_context platform spec matter data_context) var.name = .ok "" ∨
      jinja.rendered (full_context platform spec matter data_context) var.name =
        .error (jinja.undefined_error var.name) := by
  have hrendered : jinja.rendered (full_context platform spec matter data_context) var.name =
      jinja.print_undefined var.name (part :: path) := by
    unfold Jinja.rendered
    rw [hspecial, hsplit]
    simp only [Jinja.resolve, hnone]
  rw [hrendered]
  unfold Jinja.print_undefined
  split
  · exact .inl rfl
  · exact .inr rfl

end docx_as_plain

/-! ## The letter to a client -/

section client_letter

/-- Jinja over texts and `None` that have no attributes. -/
def plain_jinja (chains : Bool) : Jinja (Option String) where
  of_value value := value
  str o := o.getD "None"
  attr _ _ := none
  globals _ := none
  special _ := none
  prints_undefined := true
  chains := chains
  undefined_error name := "'" ++ (split_on '.' name).headD name ++ "' is undefined"
  str_text _ := rfl
  str_none := rfl

/-- **The client has no name.** The plain letter names the client; the same letter as a `.docx` raises, or
    has a blank in the place of the name. -/
theorem client_name_lost :
    (text_variable "client.full_name" "Name") ∈ call_letter.vars ∧
    placeholder_names plain_platform "Dear \x7b\x7b client.full_name \x7d\x7d".toList = ["client.full_name"] ∧
    shown (full_context plain_platform call_letter ana []) "client.full_name" = "Ana" ∧
    (plain_jinja false).rendered (full_context plain_platform call_letter ana []) "client.full_name" =
      .error "'client' is undefined" ∧
    (plain_jinja true).rendered (full_context plain_platform call_letter ana []) "client.full_name" =
      .ok "" ∧
    ∀ chains, ¬ SameText (plain_jinja chains) (full_context plain_platform call_letter ana [])
      plain_platform "Dear \x7b\x7b client.full_name \x7d\x7d".toList := by
  have hnames : placeholder_names plain_platform "Dear \x7b\x7b client.full_name \x7d\x7d".toList =
      ["client.full_name"] := by decide +kernel
  have hprinted :
      shown (full_context plain_platform call_letter ana []) "client.full_name" = "Ana" ∧
      (plain_jinja false).rendered (full_context plain_platform call_letter ana []) "client.full_name" =
        .error "'client' is undefined" ∧
      (plain_jinja true).rendered (full_context plain_platform call_letter ana []) "client.full_name" =
        .ok "" := by decide +kernel
  obtain ⟨hshown, hraises, hblank⟩ := hprinted
  refine ⟨List.mem_cons_self, hnames, hshown, hraises, hblank, ?_⟩
  intro chains hsame
  have hprints := hsame "client.full_name" (by rw [hnames]; exact List.mem_cons_self)
  rw [hshown] at hprints
  cases chains with
  | false =>
    rw [hraises] at hprints
    cases hprints
  | true =>
    rw [hblank] at hprints
    exact absurd (Except.ok.inj hprints) (by decide)

end client_letter

end CaseAutomation.DocumentGen
