import CaseAutomation.Extraction.Verification
import CaseAutomation.Framework.Substitution

/-! # The Residency Guard

    `ResidencyGuard` (`llm.py`): the provider is called only where its endpoint is on the allow-list.

    The guard compares texts, and the list is meant for hosts. `within_iff_boundary` says when a URL whose
    text begins like an entry lies within that entry, and `residency_iff` when the guard admits only
    what lies within an entry.
-/

namespace CaseAutomation.Extraction

open Framework

/-! ## URLs -/

/-- What ends the authority of a URL. -/
def ends_authority (c : Char) : Bool := c == '/' || c == '?' || c == '#'

/-- What ends its path. -/
def ends_path (c : Char) : Bool := c == '?' || c == '#'

/-- The authority without the user: what follows the last `@`. -/
def host_port (authority : List Char) : List Char :=
  (authority.reverse.takeWhile (· != '@')).reverse

/-- The text of the host; an address may stand in brackets. -/
def host_text (authority : List Char) : List Char :=
  let hostinfo := host_port authority
  if '[' ∈ hostinfo then ((hostinfo.dropWhile (· != '[')).drop 1).takeWhile (· != ']')
  else hostinfo.takeWhile (· != ':')

/-- The text of the port. -/
def port_text (authority : List Char) : List Char :=
  let hostinfo := host_port authority
  let after := if '[' ∈ hostinfo then hostinfo.dropWhile (· != ']') else hostinfo
  (after.dropWhile (· != ':')).drop 1

/-- A URL in its parts. -/
structure Url where
  scheme : List Char
  /-- User, host and port. -/
  authority : List Char
  path : List Char
  /-- Query and fragment, with the marks that begin them. -/
  rest : List Char
  scheme_chars : ∀ c ∈ scheme, c.isAlphanum = true ∨ c = '+' ∨ c = '-' ∨ c = '.'
  authority_chars : ∀ c ∈ authority, ends_authority c = false
  port_chars : ∀ c ∈ port_text authority, c.isDigit = true
  path_start : ∀ c ∈ path.head?, c = '/'
  path_chars : ∀ c ∈ path, ends_path c = false
  rest_start : ∀ c ∈ rest.head?, ends_path c = true

def lower_case (cs : List Char) : List Char := cs.map Char.toLower

/-- The port of a scheme. -/
def default_port (scheme : List Char) : Option Nat :=
  if lower_case scheme = "http".toList then some 80
  else if lower_case scheme = "https".toList then some 443
  else none

namespace Url

/-- What follows the authority. -/
def tail (url : Url) : List Char := url.path ++ url.rest

def chars (url : Url) : List Char := url.scheme ++ ':' :: '/' :: '/' :: (url.authority ++ url.tail)

def text (url : Url) : String := String.ofList url.chars

def host (url : Url) : List Char := lower_case (host_text url.authority)

def port (url : Url) : Option Nat :=
  if port_text url.authority = [] then default_port url.scheme
  else some (Nat.ofDigitChars 10 (port_text url.authority) 0)

end Url

/-- The path is the other one, or goes on behind it with a new segment. -/
def Extends (entry_path path : List Char) : Prop :=
  ∃ more, path = entry_path ++ more ∧
    (more = [] ∨ more.head? = some '/' ∨ entry_path.getLast? = some '/')

/-- The endpoint lies within the entry of the allow-list. -/
structure Within (entry endpoint : Url) : Prop where
  scheme : lower_case endpoint.scheme = lower_case entry.scheme
  host : endpoint.host = entry.host
  port : endpoint.port = entry.port
  path : Extends entry.path endpoint.path

/-- The endpoint goes on behind the text of the entry in a way that stays within the entry. -/
inductive AtBoundary (entry endpoint : Url) (more : List Char) : Prop where
  /-- The entry has a query or a fragment, which the endpoint can only make longer. -/
  | query : entry.rest ≠ [] → AtBoundary entry endpoint more
  /-- The entry has a path, and what follows is no part of its last segment. -/
  | segment : entry.rest = [] → entry.path ≠ [] →
      (more = [] ∨ (∃ c ∈ more.head?, ends_authority c = true) ∨ entry.path.getLast? = some '/') →
      AtBoundary entry endpoint more
  /-- The entry ends with its host or port, and what follows leaves both as they are. -/
  | origin : entry.rest = [] → entry.path = [] → endpoint.host = entry.host →
      endpoint.port = entry.port → AtBoundary entry endpoint more

section boundaries
variable {entry endpoint : Url} {more : List Char}

theorem ends_path_ends_authority {c : Char} (h : ends_path c = true) : ends_authority c = true := by
  unfold ends_path at h
  unfold ends_authority
  rw [Bool.or_assoc, h, Bool.or_true]

/-- The authority ends where the path, the query or the fragment begins. -/
theorem tail_start (url : Url) : ∀ c ∈ url.tail.head?, ends_authority c = true := by
  intro c hc
  unfold Url.tail at hc
  cases hpath : url.path with
  | nil =>
    rw [hpath, List.nil_append] at hc
    exact ends_path_ends_authority (url.rest_start c hc)
  | cons d path =>
    rw [hpath] at hc
    have hd := url.path_start d (by rw [hpath]; rfl)
    cases hc
    rw [hd]
    rfl

theorem scheme_no_colon (url : Url) : ∀ c ∈ url.scheme, (c != ':') = true := by
  intro c hc
  rcases url.scheme_chars c hc with halnum | rfl | rfl | rfl
  · by_contra hcolon
    have heq : c = ':' := by simpa using hcolon
    rw [heq] at halnum
    exact absurd halnum (by decide)
  all_goals decide

/-- Texts that begin alike have the same scheme. -/
theorem same_scheme (h : endpoint.chars = entry.chars ++ more) :
    endpoint.scheme = entry.scheme ∧
      endpoint.authority ++ endpoint.tail = entry.authority ++ (entry.tail ++ more) := by
  -- a scheme has no colon in it, so both end at the first one
  have hcolon : ∀ c ∈ (':' :: '/' :: '/' :: (endpoint.authority ++ endpoint.tail)).head?,
      (c != ':') = false := by
    intro c hc
    cases hc
    rfl
  have hcolon' : ∀ c ∈ (':' :: '/' :: '/' :: (entry.authority ++ (entry.tail ++ more))).head?,
      (c != ':') = false := by
    intro c hc
    cases hc
    rfl
  have heq : endpoint.scheme ++ ':' :: '/' :: '/' :: (endpoint.authority ++ endpoint.tail) =
      entry.scheme ++ ':' :: '/' :: '/' :: (entry.authority ++ (entry.tail ++ more)) := by
    have hchars := h
    unfold Url.chars at hchars
    simpa using hchars
  obtain ⟨hscheme, hafter⟩ :=
    stop_unique heq (scheme_no_colon endpoint) hcolon (scheme_no_colon entry) hcolon'
  exact ⟨hscheme, by simpa using hafter⟩

/-- Where something follows the authority of the entry, the authorities are the same. -/
theorem same_authority (h : endpoint.chars = entry.chars ++ more) (htail : entry.tail ≠ []) :
    endpoint.authority = entry.authority ∧ endpoint.tail = entry.tail ++ more := by
  obtain ⟨-, heq⟩ := same_scheme h
  have hstop : ∀ c ∈ endpoint.tail.head?, (!ends_authority c) = false := by
    intro c hc
    rw [tail_start endpoint c hc]
    rfl
  have hstop' : ∀ c ∈ (entry.tail ++ more).head?, (!ends_authority c) = false := by
    intro c hc
    obtain ⟨d, tail, hcons⟩ := List.exists_cons_of_ne_nil htail
    have hd := tail_start entry d (by rw [hcons]; rfl)
    rw [hcons] at hc
    cases hc
    rw [hd]
    rfl
  exact stop_unique heq (fun c hc => by rw [endpoint.authority_chars c hc]; rfl) hstop
    (fun c hc => by rw [entry.authority_chars c hc]; rfl) hstop'

theorem same_host_port (hscheme : endpoint.scheme = entry.scheme)
    (hauthority : endpoint.authority = entry.authority) :
    endpoint.host = entry.host ∧ endpoint.port = entry.port := by
  unfold Url.host Url.port
  rw [hscheme, hauthority]
  exact ⟨rfl, rfl⟩

/-- Every path goes on from the empty one. -/
theorem extends_nil (url : Url) : Extends [] url.path := by
  refine ⟨url.path, rfl, ?_⟩
  cases hpath : url.path with
  | nil => exact .inl rfl
  | cons c path =>
    have hc := url.path_start c (by rw [hpath]; rfl)
    rw [hc]
    exact .inr (.inl rfl)

/-- The path of the endpoint goes on with what follows up to the next query or fragment. -/
theorem longer_path (htail : endpoint.path ++ endpoint.rest = entry.path ++ more) :
    endpoint.path = entry.path ++ more.takeWhile fun c => !ends_path c := by
  have hmore : more.takeWhile (fun c => !ends_path c) ++ more.dropWhile (fun c => !ends_path c) = more :=
    List.takeWhile_append_dropWhile
  have heq : endpoint.path ++ endpoint.rest =
      (entry.path ++ more.takeWhile fun c => !ends_path c) ++ more.dropWhile fun c => !ends_path c := by
    rw [List.append_assoc, hmore, htail]
  refine (stop_unique (p := fun c => !ends_path c) heq ?_ ?_ ?_ ?_).1
  · intro c hc
    rw [endpoint.path_chars c hc]
    rfl
  · intro c hc
    rw [endpoint.rest_start c hc]
    rfl
  · intro c hc
    rcases List.mem_append.mp hc with hentry | hmore
    · rw [entry.path_chars c hentry]
      rfl
    · exact List.mem_takeWhile_imp (p := fun c => !ends_path c) hmore
  · intro c hc
    have hhead := List.head?_dropWhile_not (fun c => !ends_path c) more
    rw [show (more.dropWhile fun c => !ends_path c).head? = some c from hc] at hhead
    simpa using hhead

/-- It stays in the segments of the entry if it goes on at the end of one. -/
theorem extends_iff {path : List Char} : Extends path (path ++ more.takeWhile fun c => !ends_path c) ↔
    more = [] ∨ (∃ c ∈ more.head?, ends_authority c = true) ∨ path.getLast? = some '/' := by
  have hsame : Extends path (path ++ more.takeWhile fun c => !ends_path c) ↔
      ((more.takeWhile fun c => !ends_path c) = [] ∨
        (more.takeWhile fun c => !ends_path c).head? = some '/' ∨ path.getLast? = some '/') := by
    constructor
    · rintro ⟨more', heq, h⟩
      rw [List.append_cancel_left heq]
      exact h
    · intro h
      exact ⟨_, rfl, h⟩
  rw [hsame]
  cases more with
  | nil => simp
  | cons c rest =>
    -- a query or a fragment ends the path; of the other characters a slash begins a segment
    by_cases hend : ends_path c = true
    · simp [hend, ends_path_ends_authority hend]
    · have hslash : ends_authority c = true ↔ c = '/' := by
        have hnot : (c == '?' || c == '#') = false := by simpa [ends_path] using hend
        unfold ends_authority
        rw [Bool.or_assoc, hnot]
        simp
      simp [hend, hslash]

/-- **Where an entry ends.** A URL whose text begins like that of an entry lies within the entry if and only if
    it goes on at a boundary. -/
theorem within_iff_boundary (h : endpoint.chars = entry.chars ++ more) :
    Within entry endpoint ↔ AtBoundary entry endpoint more := by
  obtain ⟨hscheme, hafter⟩ := same_scheme h
  by_cases hrest : entry.rest = []
  · by_cases hpath : entry.path = []
    · -- the entry ends with its authority
      constructor
      · intro hwithin
        exact .origin hrest hpath hwithin.host hwithin.port
      · intro hboundary
        cases hboundary with
        | query hquery => exact absurd hrest hquery
        | segment _ hsegment => exact absurd hpath hsegment
        | origin _ _ hhost hport =>
          refine ⟨by rw [hscheme], hhost, hport, ?_⟩
          rw [hpath]
          exact extends_nil endpoint
    · -- it ends with its path
      have htail : entry.tail = entry.path := by
        unfold Url.tail
        rw [hrest, List.append_nil]
      obtain ⟨hauthority, hmore⟩ := same_authority h (by rw [htail]; exact hpath)
      obtain ⟨hhost, hport⟩ := same_host_port hscheme hauthority
      rw [htail] at hmore
      have hlonger := longer_path hmore
      constructor
      · intro hwithin
        have hextends := hwithin.path
        rw [hlonger, extends_iff] at hextends
        exact .segment hrest hpath hextends
      · intro hboundary
        refine ⟨by rw [hscheme], hhost, hport, ?_⟩
        rw [hlonger, extends_iff]
        cases hboundary with
        | query hquery => exact absurd hrest hquery
        | segment _ _ hsegment => exact hsegment
        | origin _ horigin => exact absurd horigin hpath
  · -- it ends with its query or its fragment, so that the paths are the same
    have htail : entry.tail ≠ [] := by
      unfold Url.tail
      exact fun hnil => hrest (List.append_eq_nil_iff.mp hnil).2
    obtain ⟨hauthority, hmore⟩ := same_authority h htail
    obtain ⟨hhost, hport⟩ := same_host_port hscheme hauthority
    have heq : endpoint.path ++ endpoint.rest = entry.path ++ (entry.rest ++ more) := by
      rw [← List.append_assoc]
      exact hmore
    have hnone : (entry.rest ++ more).takeWhile (fun c => !ends_path c) = [] := by
      obtain ⟨c, rest, hcons⟩ := List.exists_cons_of_ne_nil hrest
      have hc := entry.rest_start c (by rw [hcons]; rfl)
      rw [hcons, List.cons_append, List.takeWhile_cons_of_neg (by simp [hc])]
    have hpath : endpoint.path = entry.path := by
      rw [longer_path heq, hnone, List.append_nil]
    constructor
    · intro _
      exact .query hrest
    · intro _
      exact ⟨by rw [hscheme], hhost, hport, [], by rw [hpath, List.append_nil], .inl rfl⟩

end boundaries

/-! ## The guard -/

structure ResidencyGuard where
  client : LLMStructuringClient
  allowlist : List String
  allow_external : Bool

namespace ResidencyGuard

/-- `_is_allowed`. -/
def is_allowed (guard : ResidencyGuard) (endpoint : String) : Bool :=
  guard.allow_external || guard.allowlist.any fun allowed => allowed.toList.isPrefixOf endpoint.toList

/-- `structure`, with the number of calls of the client. -/
def structure_text (guard : ResidencyGuard) (text : String) (profile : MappingProfile) :
    Except StructuringError (List ProviderField) × Nat :=
  let endpoint := guard.client.endpoint
  if guard.is_allowed endpoint then
    match guard.client.structure_text text profile with
    | .ok fields => (.ok fields, 1)
    | .error (.residency endpoint) => (.error (.residency endpoint), 1)
    | .error _ => (.error (.provider_unavailable guard.client.provider_id), 1)
  else (.error (.residency endpoint), 0)

/-- The guard in the place of its client. -/
def as_client (guard : ResidencyGuard) : LLMStructuringClient where
  provider_id := guard.client.provider_id
  endpoint := guard.client.endpoint
  structure_text text profile := (guard.structure_text text profile).1

end ResidencyGuard

/-- The guard of a client at this endpoint, with these URLs on the list. -/
def guard_of (client : LLMStructuringClient) (entries : List Url) (endpoint : Url) : ResidencyGuard where
  client := { client with endpoint := endpoint.text }
  allowlist := entries.map Url.text
  allow_external := false

/-- The client is called only if its endpoint lies within an entry; otherwise the guard raises. -/
def Resident (client : LLMStructuringClient) (entries : List Url) (endpoint : Url) : Prop :=
  ∀ text profile, (∃ entry ∈ entries, Within entry endpoint) ∨
    (guard_of client entries endpoint).structure_text text profile =
      (.error (.residency endpoint.text), 0)

/-- No entry lets the endpoint in that should not: its text does not begin like an entry, or it goes on
    behind one at a boundary, or another entry has it anyway. -/
inductive Harmless (entries : List Url) (endpoint : Url) : Prop where
  | outside : (∀ entry ∈ entries, ¬ entry.chars <+: endpoint.chars) → Harmless entries endpoint
  | boundary {entry : Url} {more : List Char} : entry ∈ entries →
      endpoint.chars = entry.chars ++ more → AtBoundary entry endpoint more → Harmless entries endpoint
  | covered {entry : Url} : entry ∈ entries → ¬ entry.chars <+: endpoint.chars →
      Within entry endpoint → Harmless entries endpoint

section residency
variable {client : LLMStructuringClient} {entries : List Url} {endpoint : Url} {text : String}
  {profile : MappingProfile}

/-- The guard compares texts. -/
theorem is_allowed_iff : (guard_of client entries endpoint).is_allowed endpoint.text = true ↔
    ∃ entry ∈ entries, entry.chars <+: endpoint.chars := by
  unfold ResidencyGuard.is_allowed guard_of
  simp [Url.text, String.toList_ofList]

theorem not_allowed (h : ∀ entry ∈ entries, ¬ entry.chars <+: endpoint.chars) :
    (guard_of client entries endpoint).is_allowed endpoint.text = false := by
  rw [Bool.eq_false_iff]
  intro hallowed
  obtain ⟨entry, hentry, hbegins⟩ := is_allowed_iff.mp hallowed
  exact h entry hentry hbegins

theorem called (h : (guard_of client entries endpoint).is_allowed endpoint.text = true) :
    ((guard_of client entries endpoint).structure_text text profile).2 = 1 := by
  unfold ResidencyGuard.structure_text
  simp only [show (guard_of client entries endpoint).client.endpoint = endpoint.text from rfl, if_pos h]
  split <;> rfl

theorem denied (h : (guard_of client entries endpoint).is_allowed endpoint.text = false) :
    (guard_of client entries endpoint).structure_text text profile =
      (.error (.residency endpoint.text), 0) := by
  have hnot : ¬ (guard_of client entries endpoint).is_allowed endpoint.text = true := by simp [h]
  unfold ResidencyGuard.structure_text
  exact if_neg hnot

/-- **When the guard keeps to the list.** The client is called only for endpoints within an entry if and only
    if no entry lets this endpoint in by its text alone. -/
theorem residency_iff (client : LLMStructuringClient) (entries : List Url) (endpoint : Url) :
    Resident client entries endpoint ↔ Harmless entries endpoint := by
  constructor
  · intro h
    by_cases hprefix : ∃ entry ∈ entries, entry.chars <+: endpoint.chars
    · -- the client is called, so the endpoint lies within an entry
      have hcalled : ((guard_of client entries endpoint).structure_text "" DEFAULT_PROFILE).2 = 1 :=
        called (is_allowed_iff.mpr hprefix)
      rcases h "" DEFAULT_PROFILE with ⟨entry, hentry, hwithin⟩ | hraised
      · by_cases hbegins : entry.chars <+: endpoint.chars
        · obtain ⟨more, hmore⟩ := hbegins
          exact .boundary hentry hmore.symm ((within_iff_boundary hmore.symm).mp hwithin)
        · exact .covered hentry hbegins hwithin
      · rw [hraised] at hcalled
        cases hcalled
    · refine .outside ?_
      intro entry hentry hbegins
      exact hprefix ⟨entry, hentry, hbegins⟩
  · intro h text profile
    cases h with
    | outside hnone => exact .inr (denied (not_allowed hnone))
    | boundary hentry hmore hboundary =>
      exact .inl ⟨_, hentry, (within_iff_boundary hmore).mpr hboundary⟩
    | covered hentry _ hwithin => exact .inl ⟨_, hentry, hwithin⟩

/-- An extraction whose provider is denied has no fields: it raises, or the provider is not asked. -/
theorem denied_extraction {service : Extractor} {request : ExtractRequest} {content : List UInt8}
    {proposal : ExtractionProposal}
    (hclient : service.client = (guard_of client entries endpoint).as_client)
    (hnone : ∀ entry ∈ entries, ¬ entry.chars <+: endpoint.chars)
    (h : service.extract request content = .ok proposal) :
    proposal.fields = [] ∧ proposal.structuring_status = .skipped := by
  have hraises : ∀ text profile, service.client.structure_text text profile =
      .error (.residency endpoint.text) := by
    intro text profile
    rw [hclient]
    exact congrArg Prod.fst (denied (not_allowed hnone))
  unfold Extractor.extract at h
  cases hrecovered : service.recover request.toExtractInput content with
  | error e =>
    rw [hrecovered] at h
    cases h
  | ok recovered =>
    simp only [hrecovered] at h
    unfold Extractor.structured at h
    cases hgiven : service.text_given request.toExtractInput recovered with
    | none =>
      simp only [hgiven, Option.map_none] at h
      obtain rfl := Except.ok.inj h
      exact ⟨rfl, rfl⟩
    | some text =>
      simp only [hgiven, Option.map_some, hraises] at h
      cases h

end residency

/-! ## Hosts that look like the listed one -/

section look_alikes

def https_url (authority path : String)
    (hauthority : authority.toList.all fun c => !ends_authority c)
    (hport : (port_text authority.toList).all Char.isDigit)
    (hstart : path.toList.head?.all (· == '/')) (hpath : path.toList.all fun c => !ends_path c) : Url where
  scheme := "https".toList
  authority := authority.toList
  path := path.toList
  rest := []
  scheme_chars := by
    have hletters : "https".toList.all Char.isAlphanum := by decide
    exact fun c hc => .inl (List.all_eq_true.mp hletters c hc)
  authority_chars c hc := by simpa using List.all_eq_true.mp hauthority c hc
  port_chars := List.all_eq_true.mp hport
  path_start c hc := by simpa using (Option.all_eq_true _ _).mp hstart c hc
  path_chars c hc := by simpa using List.all_eq_true.mp hpath c hc
  rest_start c hc := by cases hc

/-- The provider that is on the list. -/
def listed : Url := https_url "llm.firm" "" (by decide) (by decide) (by decide) (by decide)

/-- Its name is only how the name of the host begins. -/
def longer_host : Url :=
  https_url "llm.firm.evil.com" "/v1" (by decide) (by decide) (by decide) (by decide)

/-- Its name is the user's. -/
def user_name : Url :=
  https_url "llm.firm@evil.com" "/v1" (by decide) (by decide) (by decide) (by decide)

def silent_client : LLMStructuringClient := ⟨"mock", "", fun _ _ => .ok []⟩

/-- A host that is not listed is called if its URL begins like that of the listed one. -/
theorem not_resident {endpoint : Url} (hbegins : listed.chars <+: endpoint.chars)
    (hhost : endpoint.host ≠ listed.host) :
    (∀ text profile, ((guard_of silent_client [listed] endpoint).structure_text text profile).2 = 1) ∧
      ¬ Resident silent_client [listed] endpoint := by
  have hcalled : ∀ text profile,
      ((guard_of silent_client [listed] endpoint).structure_text text profile).2 = 1 :=
    fun _ _ => called (is_allowed_iff.mpr ⟨listed, List.mem_cons_self, hbegins⟩)
  refine ⟨hcalled, ?_⟩
  intro hresident
  rcases hresident "" DEFAULT_PROFILE with ⟨entry, hentry, hwithin⟩ | hraised
  · obtain rfl := List.mem_singleton.mp hentry
    exact hhost hwithin.host
  · have hone := hcalled "" DEFAULT_PROFILE
    rw [hraised] at hone
    cases hone

/-- **Another host is called.** With `https://llm.firm` on the list, the text of a document goes to
    `llm.firm.evil.com`, and to `evil.com`. -/
theorem other_host_called :
    longer_host.host = "llm.firm.evil.com".toList ∧ user_name.host = "evil.com".toList ∧
    (∀ text profile,
      ((guard_of silent_client [listed] longer_host).structure_text text profile).2 = 1) ∧
    (∀ text profile,
      ((guard_of silent_client [listed] user_name).structure_text text profile).2 = 1) ∧
    ¬ Resident silent_client [listed] longer_host ∧ ¬ Resident silent_client [listed] user_name := by
  have hlonger : longer_host.host = "llm.firm.evil.com".toList := by decide
  have huser : user_name.host = "evil.com".toList := by decide
  have hbegins : listed.chars <+: longer_host.chars ∧ listed.chars <+: user_name.chars := by decide
  obtain ⟨hcalled, hlonger_out⟩ := not_resident hbegins.1 (by rw [hlonger]; decide)
  obtain ⟨hcalled', huser_out⟩ := not_resident hbegins.2 (by rw [huser]; decide)
  exact ⟨hlonger, huser, hcalled, hcalled', hlonger_out, huser_out⟩

end look_alikes

end CaseAutomation.Extraction
