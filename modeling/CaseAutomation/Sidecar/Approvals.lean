import CaseAutomation.Base.Text
import CaseAutomation.Framework.Markup
import CaseAutomation.Orchestrator.Calls
import CaseAutomation.Orchestrator.Gates

/-! # The Approval Pages

    `sidecar/approvals.py`: the page that shows an approver what a token is for, and the endpoint
    that takes the decision to `resolve_gate`. Both answer with HTML woven from literal text
    and escaped values.

    Whatever the values are, a page has the markup of its template (`approval_pages_markup`).
    The style sheet and the body stand in a page as they are; every other value is escaped.
-/

namespace CaseAutomation.Sidecar

open Framework Program Orchestrator

/-! ## Pages -/

/-- `s.replace(c, by)` for one character. -/
def replace_char (c : Char) (text : String) (s : String) : String :=
  String.ofList (s.toList.flatMap fun d => if d = c then text.toList else [d])

/-- `html.escape`, quotes included: `&` first. -/
def escape (s : String) : String :=
  replace_char '\'' "&#x27;" (replace_char '"' "&quot;" (replace_char '>' "&gt;"
    (replace_char '<' "&lt;" (replace_char '&' "&amp;" s))))

/-- What an endpoint answers. -/
inductive Response where
  /-- `HTMLResponse`. -/
  | html (status_code : Nat) (text : String)
  /-- `HTTPException`. -/
  | http_error (status_code : Nat) (detail : String)
  deriving DecidableEq, Repr

/-- `_PAGE_STYLE`. -/
def PAGE_STYLE : String :=
  "body\x7bfont-family:sans-serif;max-width:600px;margin:4rem auto;padding:0 1rem\x7d\n" ++
  ".card\x7bbackground:#f8f9fa;border-radius:8px;padding:1.5rem;margin-bottom:1.5rem\x7d\n" ++
  ".approve\x7bbackground:#198754;color:#fff;border:none;padding:.75rem 2rem;\n" ++
  "  border-radius:4px;cursor:pointer;font-size:1rem;margin-right:1rem\x7d\n" ++
  ".reject\x7bbackground:#dc3545;color:#fff;border:none;padding:.75rem 2rem;\n" ++
  "  border-radius:4px;cursor:pointer;font-size:1rem\x7d\n" ++
  "textarea\x7bwidth:100%;box-sizing:border-box;margin:1rem 0;padding:.5rem;\n" ++
  "  border:1px solid #ccc;border-radius:4px;font-family:inherit\x7d\n" ++
  ".ok\x7bcolor:#198754\x7d.err\x7bcolor:#dc3545\x7d"

def page_pieces : List String :=
  ["<!DOCTYPE html>\n<html lang=\"en\">\n<head><meta charset=\"UTF-8\"><title>",
    "</title>\n<style>",
    "</style></head>\n<body>\n",
    "\n</body></html>"]

/-- The text of `_page`. -/
def page_text (title body : String) : String :=
  weave page_pieces [escape title, PAGE_STYLE, body]

/-- `_page`. -/
def page (title body : String) (status_code : Nat) : Response :=
  .html status_code (page_text title body)

def error_pieces : List String :=
  ["<h1 class=\"err\">Approval not recorded</h1>\n<div class=\"card\"><p>",
    "</p>\n<p>This link is single-use and expires 24 hours after it was issued.\n" ++
      "Ask the requester to re-trigger the approval if you still need to act on it.</p></div>"]

def error_body (reason : String) : String := weave error_pieces [escape reason]

/-- `_error_page`. -/
def error_page (reason : String) (status_code : Nat) : Response :=
  page "Approval not recorded" (error_body reason) status_code

def workflow_pieces : List String := ["<p><strong>Workflow:</strong> ", "</p>"]

/-- `workflow_line`. -/
def workflow_line (workflow_name : String) : String :=
  if workflow_name = "" then "" else weave workflow_pieces [escape workflow_name]

def approval_pieces : List String :=
  ["<h1>Workflow approval required</h1>\n<div class=\"card\">\n  ",
    "\n  <p><strong>Run:</strong> ",
    "</p>\n  <p><strong>Step:</strong> ",
    "</p>\n  <p><strong>Expires:</strong> ",
    "</p>\n</div>\n<form method=\"POST\" action=\"/approvals/",
    "\">\n  <label for=\"reason\">Reason (optional, recorded with your decision):</label>\n" ++
      "  <textarea id=\"reason\" name=\"reason\" rows=\"3\"\n" ++
      "    placeholder=\"e.g. Reviewed the draft; ready to send\"></textarea>\n" ++
      "  <button class=\"approve\" name=\"decision\" value=\"approve\" type=\"submit\">" ++
      "Approve</button>\n" ++
      "  <button class=\"reject\" name=\"decision\" value=\"reject\" type=\"submit\">" ++
      "Reject</button>\n</form>"]

def approval_body (workflow_name run_id step expires_at raw_token : String) : String :=
  weave approval_pieces [workflow_line workflow_name, escape run_id, escape step,
    escape expires_at, escape raw_token]

def reason_pieces : List String := ["<p><strong>Reason recorded:</strong> ", "</p>"]

/-- `reason_line`. -/
def reason_line (reason : Option String) : String :=
  match reason with
  | none => ""
  | some reason => if reason = "" then "" else weave reason_pieces [escape reason]

def recorded_pieces : List String :=
  ["<h1 class=\"ok\">Decision recorded</h1>\n<div class=\"card\">\n" ++
      "  <p>The workflow step was <strong>",
    "</strong>.</p>\n  <p><strong>Run:</strong> ",
    "</p>\n  <p><strong>Gate:</strong> ",
    "</p>\n  ",
    "\n</div>\n<p>You can close this window — the workflow continues automatically.</p>"]

def recorded_body (outcome run_id gate_request_id : String) (reason : Option String) : String :=
  weave recorded_pieces [escape outcome, escape run_id, escape gate_request_id, reason_line reason]

/-! ## The endpoints -/

/-- `app.state`, as far as the endpoints read it. -/
structure AppState where
  signing_key : Bytes
  /-- Whether a run store is wired. -/
  run_store : Bool

/-- `datetime.fromtimestamp(exp, tz=UTC).strftime("%Y-%m-%d %H:%M UTC")`; an instant outside of
    the calendar raises. -/
abbrev FormatUtc : Type := Time → Except Exn String

/-- The name of the workflow, for the page only: every failure leaves it empty. -/
def lookup_workflow_name (app : AppState) (run_id : String) : M String :=
  if app.run_store = true ∧ run_id ≠ "" then do
    match ← (await (.get_run run_id) : M (Option WorkflowRun)).attempt with
    | .ok (some run) => pure run.workflow
    | _ => pure ""
  else pure ""

/-- `GET /approvals/(raw_token)`. -/
def approval_page (crypto : Crypto) (format_utc : FormatUtc) (app : AppState)
    (raw_token : String) : M Response :=
  match verify_token crypto raw_token app.signing_key with
  | .error e => raise e
  | .ok (.error err) =>
    pure (error_page ("This approval link is not valid (" ++ err ++ ").") 401)
  | .ok (.ok payload) => do
    let expires_at ← ofExcept (format_utc payload.exp)
    let workflow_name ← lookup_workflow_name app payload.rid
    pure (page "Approval required"
      (approval_body workflow_name payload.rid payload.step expires_at raw_token) 200)

/-- A form field: a text, or an uploaded file. -/
inductive FormValue where
  | text (s : String)
  | upload
  deriving DecidableEq, Repr

/-- A submission, as the web server parsed it. -/
structure Submission where
  raw_token : String
  /-- `request.query_params.get("decision")`. -/
  query_decision : Option String
  /-- `form.get("decision")` and `form.get("reason")`. -/
  form_decision : Option FormValue
  form_reason : Option FormValue
  /-- `request.state.user_identity`, where something has set it. -/
  user_identity : Option String

/-- The query parameter comes first. -/
def Submission.decision_value (s : Submission) : Option FormValue :=
  match s.query_decision with
  | some decision => some (.text decision)
  | none => s.form_decision

/-- `decision in ("approve", "reject")`. -/
def Submission.decision (s : Submission) : Option Decision :=
  if s.decision_value = some (.text "approve") then some .approve
  else if s.decision_value = some (.text "reject") then some .reject
  else none

/-- `str(reason_value).strip() or None`. -/
def Submission.reason (s : Submission) : Option String :=
  match s.form_reason with
  | some (.text reason) => if strip reason = "" then none else some (strip reason)
  | _ => none

/-- `getattr(request.state, "user_identity", "web_anonymous")`. -/
def Submission.actor (s : Submission) : String := s.user_identity.getD "web_anonymous"

/-- The call of `resolve_gate`; the web channel passes no `audit_fn`. -/
def Submission.resolve_args (s : Submission) (app : AppState) (decision : Decision) :
    ResolveArgs where
  raw_token := s.raw_token
  decision := decision
  actor := s.actor
  channel := .web
  signing_key := app.signing_key
  audited := false
  reason := s.reason

/-- The page after a decision. -/
def recorded_page (result : ApprovalDecision) (reason : Option String) : Response :=
  page "Decision recorded"
    (recorded_body (if result.decision = .approve then "approved" else "rejected") result.run_id
      result.gate_request_id reason) 200

/-- What becomes of the outcome of `resolve_gate`. -/
def answer_resolution (reason : Option String) : Except Exn ApprovalDecision → M Response
  | .ok result => pure (recorded_page result reason)
  | .error (.gate_resolution text status_code) => pure (error_page text status_code)
  | .error e => raise e

/-- `POST /approvals/(raw_token)`. -/
def submit_approval (crypto : Crypto) (app : AppState) (s : Submission) : M Response :=
  if app.run_store = false then pure (.http_error 503 "Run store unavailable.")
  else
    match s.decision with
    | none => pure (.http_error 400 "decision must be 'approve' or 'reject'.")
    | some decision => do
      let outcome ← (resolve_gate crypto (s.resolve_args app decision)).attempt
      answer_resolution s.reason outcome

/-! ## Escaping -/

/-- What `escape` makes of one character. -/
def reference (c : Char) : List Char :=
  if c = '&' then "&amp;".toList
  else if c = '<' then "&lt;".toList
  else if c = '>' then "&gt;".toList
  else if c = '"' then "&quot;".toList
  else if c = '\'' then "&#x27;".toList
  else [c]

theorem replace_char_toList (c : Char) (text s : String) :
    (replace_char c text s).toList =
      s.toList.flatMap fun d => if d = c then text.toList else [d] := String.toList_ofList

/-- The five passes replace each character once: no pass touches what an earlier one wrote. -/
theorem escape_toList (s : String) : (escape s).toList = s.toList.flatMap reference := by
  unfold escape
  repeat rw [replace_char_toList]
  simp only [List.flatMap_assoc]
  congr 1
  funext c
  unfold reference
  by_cases hamp : c = '&'
  · subst hamp
    decide
  by_cases hlt : c = '<'
  · subst hlt
    decide
  by_cases hgt : c = '>'
  · subst hgt
    decide
  by_cases hquot : c = '"'
  · subst hquot
    decide
  by_cases hapos : c = '\''
  · subst hapos
    decide
  · rw [if_neg hamp, List.flatMap_singleton, if_neg hlt, List.flatMap_singleton, if_neg hgt,
      List.flatMap_singleton, if_neg hquot, List.flatMap_singleton]
    simp only [if_neg hamp, if_neg hlt, if_neg hgt, if_neg hquot]

/-- A character stands for itself, or it is one of the five. -/
theorem reference_cases (c : Char) :
    reference c = [c] ∧ c ≠ '&' ∧ c ≠ '<' ∧ c ≠ '"' ∨
      (c = '&' ∨ c = '<' ∨ c = '>' ∨ c = '"' ∨ c = '\'') := by
  by_cases h : c = '&' ∨ c = '<' ∨ c = '>' ∨ c = '"' ∨ c = '\''
  · exact Or.inr h
  · left
    simp only [not_or] at h
    obtain ⟨hamp, hlt, hgt, hquot, hapos⟩ := h
    exact ⟨by simp [reference, hamp, hlt, hgt, hquot, hapos], hamp, hlt, hquot⟩

theorem reference_markless (c : Char) : Markless (reference c) := by
  rcases reference_cases c with ⟨hself, -, hlt, hquot⟩ | hspecial
  · intro d hd
    rw [hself, List.mem_singleton] at hd
    subst hd
    exact ⟨hlt, hquot⟩
  · unfold Markless
    rcases hspecial with rfl | rfl | rfl | rfl | rfl <;> simp [reference]

/-- An escaped value has no markup characters. -/
theorem escape_markless (s : String) : Markless (escape s).toList := by
  intro d hd
  rw [escape_toList, List.mem_flatMap] at hd
  obtain ⟨c, -, hd⟩ := hd
  exact reference_markless c d hd

/-- No reference continues into another one. -/
theorem reference_code (c d : Char) (xs ys : List Char)
    (h : reference c ++ xs = reference d ++ ys) : c = d := by
  rcases reference_cases c with ⟨hc, hamp, -, -⟩ | hc
  · rcases reference_cases d with ⟨hd, -, -, -⟩ | hd
    · rw [hc, hd] at h
      simpa using (List.cons.inj h).1
    · -- a reference begins with an ampersand, and `c` is none
      rw [hc] at h
      rcases hd with rfl | rfl | rfl | rfl | rfl <;>
        exact absurd (List.cons.inj h).1 hamp
  · rcases reference_cases d with ⟨hd, hamp, -, -⟩ | hd
    · rw [hd] at h
      rcases hc with rfl | rfl | rfl | rfl | rfl <;>
        exact absurd (List.cons.inj h).1.symm hamp
    · rcases hc with rfl | rfl | rfl | rfl | rfl <;>
        rcases hd with rfl | rfl | rfl | rfl | rfl <;>
          first | rfl | simp [reference] at h

/-- Different values are never shown alike. -/
theorem escape_injective : Function.Injective escape := by
  intro s t h
  have hne : ∀ c, reference c ≠ [] := by
    intro c hnil
    rcases reference_cases c with ⟨hself, -⟩ | hspecial
    · rw [hself] at hnil
      cases hnil
    · rcases hspecial with rfl | rfl | rfl | rfl | rfl <;> simp [reference] at hnil
  have hlists := congrArg String.toList h
  rw [escape_toList, escape_toList] at hlists
  exact String.toList_inj.mp (flatMap_code_injective hne reference_code hlists)

/-! ## The markup of the pages -/

/-- The pages that the endpoints show. -/
inductive PageKind where
  | error
  /-- With the line for the name of the workflow, or without it. -/
  | approval (named : Bool)
  | recorded (reasoned : Bool)

/-- The body of the page with nothing filled in. -/
def PageKind.body : PageKind → String
  | .error => weave error_pieces [""]
  | .approval named =>
      weave approval_pieces [if named then weave workflow_pieces [""] else "", "", "", "", ""]
  | .recorded reasoned =>
      weave recorded_pieces ["", "", "", if reasoned then weave reason_pieces [""] else ""]

/-- The page with nothing filled in. -/
def PageKind.template (kind : PageKind) : String :=
  weave page_pieces ["", PAGE_STYLE, kind.body]

/-- The response is an HTML page with the elements and attributes of the template. -/
def Response.Shows (response : Response) (kind : PageKind) : Prop :=
  ∃ status_code text, response = .html status_code text ∧
    markup .text text.toList = markup .text kind.template.toList

/-- An escaped value can stand wherever an empty one can. -/
theorem escape_matches {mode : Mode} (hmode : mode ≠ .tag) (s : String) :
    Matches mode (escape s) "" :=
  .markless hmode (escape_markless s) (by simpa using Markless.nil)

theorem same_matches {mode : Mode} {value : String} (h : Fits mode value.toList) :
    Matches mode value value := ⟨h, h, rfl⟩

theorem style_fits : Fits .text PAGE_STYLE.toList := by
  unfold Fits PAGE_STYLE
  repeat rw [scan_concat]
  repeat rw [scan_ofList]
  decide +kernel

theorem page_places : places .text page_pieces = [.text, .text, .text, .text] := by
  refine places_cons ?_ <| places_cons ?_ <| places_cons ?_ <| places_cons ?_ rfl
  all_goals
    rw [scan_ofList]
    decide +kernel

theorem error_places : places .text error_pieces = [.text, .text] := by
  refine places_cons ?_ <| places_cons ?_ rfl
  all_goals
    repeat rw [scan_concat]
    repeat rw [scan_ofList]
    decide +kernel

theorem workflow_places : places .text workflow_pieces = [.text, .text] := by
  refine places_cons ?_ <| places_cons ?_ rfl
  all_goals
    rw [scan_ofList]
    decide +kernel

/-- The token stands in a quoted attribute, everything else in the text. -/
theorem approval_places :
    places .text approval_pieces = [.text, .text, .text, .text, .quoted, .text] := by
  refine places_cons ?_ <| places_cons ?_ <| places_cons ?_ <| places_cons ?_ <|
    places_cons ?_ <| places_cons ?_ rfl
  all_goals
    repeat rw [scan_concat]
    repeat rw [scan_ofList]
    decide +kernel

theorem reason_places : places .text reason_pieces = [.text, .text] := by
  refine places_cons ?_ <| places_cons ?_ rfl
  all_goals
    rw [scan_ofList]
    decide +kernel

theorem recorded_places :
    places .text recorded_pieces = [.text, .text, .text, .text, .text] := by
  refine places_cons ?_ <| places_cons ?_ <| places_cons ?_ <| places_cons ?_ <|
    places_cons ?_ rfl
  all_goals
    repeat rw [scan_concat]
    repeat rw [scan_ofList]
    decide +kernel

/-- A page around a body that keeps the markup of its own template. -/
theorem page_markup {title body : String} {kind : PageKind} (h : Matches .text body kind.body) :
    markup .text (page_text title body).toList = markup .text kind.template.toList := by
  apply markup_weave
  rw [page_places]
  exact .cons (escape_matches (by simp) title) (.cons (same_matches style_fits)
    (.cons h (.nil _)))

/-- A piece of a page, woven from escaped values. -/
theorem line_matches {pieces : List String} (value : String)
    (hplaces : places .text pieces = [.text, .text]) :
    Matches .text (weave pieces [escape value]) (weave pieces [""]) := by
  apply Matches.weave (by rw [hplaces]; rfl)
  rw [hplaces]
  exact .cons (escape_matches (by simp) value) (.nil _)

theorem empty_matches {mode : Mode} : Matches mode "" "" := same_matches rfl

theorem error_body_matches (reason : String) :
    Matches .text (error_body reason) PageKind.error.body :=
  line_matches reason error_places

theorem workflow_line_matches (workflow_name : String) :
    ∃ named : Bool, Matches .text (workflow_line workflow_name)
      (if named then weave workflow_pieces [""] else "") := by
  unfold workflow_line
  by_cases hname : workflow_name = ""
  · rw [if_pos hname]
    exact ⟨false, empty_matches⟩
  · rw [if_neg hname]
    exact ⟨true, line_matches workflow_name workflow_places⟩

theorem approval_body_matches (workflow_name run_id step expires_at raw_token : String) :
    ∃ named, Matches .text (approval_body workflow_name run_id step expires_at raw_token)
      (PageKind.approval named).body := by
  obtain ⟨named, hname⟩ := workflow_line_matches workflow_name
  refine ⟨named, Matches.weave (by rw [approval_places]; rfl) ?_⟩
  rw [approval_places]
  exact .cons hname (.cons (escape_matches (by simp) run_id)
    (.cons (escape_matches (by simp) step) (.cons (escape_matches (by simp) expires_at)
      (.cons (escape_matches (by simp) raw_token) (.nil _)))))

theorem reason_line_matches (reason : Option String) :
    ∃ reasoned : Bool, Matches .text (reason_line reason)
      (if reasoned then weave reason_pieces [""] else "") := by
  cases reason with
  | none => exact ⟨false, empty_matches⟩
  | some reason =>
    by_cases hempty : reason = ""
    · refine ⟨false, ?_⟩
      show Matches .text (if reason = "" then "" else weave reason_pieces [escape reason]) ""
      rw [if_pos hempty]
      exact empty_matches
    · refine ⟨true, ?_⟩
      show Matches .text (if reason = "" then "" else weave reason_pieces [escape reason])
        (weave reason_pieces [""])
      rw [if_neg hempty]
      exact line_matches reason reason_places

theorem recorded_body_matches (outcome run_id gate_request_id : String) (reason : Option String) :
    ∃ reasoned, Matches .text (recorded_body outcome run_id gate_request_id reason)
      (PageKind.recorded reasoned).body := by
  obtain ⟨reasoned, hreason⟩ := reason_line_matches reason
  refine ⟨reasoned, Matches.weave (by rw [recorded_places]; rfl) ?_⟩
  rw [recorded_places]
  exact .cons (escape_matches (by simp) outcome) (.cons (escape_matches (by simp) run_id)
    (.cons (escape_matches (by simp) gate_request_id) (.cons hreason (.nil _))))

theorem error_page_shows (reason : String) (status_code : Nat) :
    (error_page reason status_code).Shows .error :=
  ⟨status_code, _, rfl, page_markup (error_body_matches reason)⟩

theorem recorded_page_shows (result : ApprovalDecision) (reason : Option String) :
    ∃ reasoned, (recorded_page result reason).Shows (.recorded reasoned) := by
  obtain ⟨reasoned, hbody⟩ := recorded_body_matches
    (if result.decision = .approve then "approved" else "rejected") result.run_id
    result.gate_request_id reason
  exact ⟨reasoned, 200, _, rfl, page_markup hbody⟩

theorem approval_page_shows (crypto : Crypto) (format_utc : FormatUtc) (app : AppState)
    (raw_token : String) :
    Returns (fun response => response.Shows .error ∨ ∃ named, response.Shows (.approval named))
      (approval_page crypto format_utc app raw_token) := by
  unfold approval_page
  split
  · exact True.intro
  · exact Or.inl (error_page_shows _ _)
  · next payload _ =>
    refine Returns.bind_ofExcept fun expires_at _ => Returns.bind fun workflow_name => Or.inr ?_
    obtain ⟨named, hbody⟩ :=
      approval_body_matches workflow_name payload.rid payload.step expires_at raw_token
    exact ⟨named, 200, _, rfl, page_markup hbody⟩

theorem submit_approval_shows (crypto : Crypto) (app : AppState) (s : Submission) :
    Returns (fun response => (∃ status_code detail, response = .http_error status_code detail) ∨
        response.Shows .error ∨ ∃ reasoned, response.Shows (.recorded reasoned))
      (submit_approval crypto app s) := by
  unfold submit_approval
  split
  · exact Or.inl ⟨_, _, rfl⟩
  · split
    · exact Or.inl ⟨_, _, rfl⟩
    · refine Returns.bind fun outcome => ?_
      unfold answer_resolution
      split
      · exact Or.inr (Or.inr (recorded_page_shows _ _))
      · exact Or.inr (Or.inl (error_page_shows _ _))
      · exact True.intro

/-- **No value adds markup.** Whatever the token, its payload, the workflow, the decision and the
    reason contain, and whatever the store answers: an approval page has the elements and
    attributes of its template and no others, and different values are never shown alike. -/
theorem approval_pages_markup (crypto : Crypto) (format_utc : FormatUtc) (app : AppState)
    (raw_token : String) (s : Submission) :
    Returns (fun response => response.Shows .error ∨ ∃ named, response.Shows (.approval named))
      (approval_page crypto format_utc app raw_token) ∧
    Returns (fun response => (∃ status_code detail, response = .http_error status_code detail) ∨
        response.Shows .error ∨ ∃ reasoned, response.Shows (.recorded reasoned))
      (submit_approval crypto app s) ∧
    Function.Injective escape :=
  ⟨approval_page_shows crypto format_utc app raw_token, submit_approval_shows crypto app s,
    escape_injective⟩

end CaseAutomation.Sidecar
