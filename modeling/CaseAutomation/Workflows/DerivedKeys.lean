import CaseAutomation.Framework.Joined
import CaseAutomation.Intake.Run
import CaseAutomation.Routing.Service
import CaseAutomation.StatusUpdate.Triggers

/-! # Derived Keys

    Routing, status updates and intake each derive a key from what a request says: the fields are
    joined with colons and hashed. Two requests with one key count as one request, and the
    second is dropped.

    * `DerivedKey`         : the key of the code, the text it is the hash of, and the fields in it.
    * `DerivedKey.pieces`  : the fields, cut at every colon.
    * `separates_iff`      : which requests the key tells apart, if the hash does not collide.
    * `fields_apart`       : fields with equally many colons are told apart.
-/

namespace CaseAutomation.Workflows

open Framework Security

/-! ## Texts with colons -/

/-- The pieces of all fields: `field.split(":")`, one field after the other. -/
def colon_pieces (fields : List String) : List String := fields.flatMap (split_on ':')

theorem toList_colon_pieces (fields : List String) :
    (colon_pieces fields).map String.toList = cuts ':' (fields.map String.toList) := by
  induction fields with
  | nil => rfl
  | cons field rest ih =>
    have hfield : (split_on ':' field).map String.toList = field.toList.splitOn ':' := by
      simp [split_on, Function.comp_def]
    show (split_on ':' field ++ colon_pieces rest).map String.toList = _
    rw [List.map_append, hfield, ih, List.map_cons, cuts_cons]

theorem toList_colon_joined (fields : List String) :
    (":".intercalate fields).toList = [':'].intercalate (fields.map String.toList) := by
  rw [String.toList_intercalate]
  rfl

/-- A text with colons shows the pieces and nothing else. -/
theorem colon_joined_eq_iff {xs ys : List String} (hxs : xs ≠ []) (hys : ys ≠ []) :
    ":".intercalate xs = ":".intercalate ys ↔ colon_pieces xs = colon_pieces ys := by
  have hmap : Function.Injective (List.map String.toList) :=
    List.map_injective_iff.mpr fun _ _ => String.toList_inj.mp
  rw [← String.toList_inj, toList_colon_joined, toList_colon_joined,
    intercalate_eq_iff ':' (mt List.map_eq_nil_iff.mp hxs) (mt List.map_eq_nil_iff.mp hys),
    ← toList_colon_pieces, ← toList_colon_pieces, hmap.eq_iff]

/-! ## Keys -/

/-- `hashlib.sha256(raw.encode()).hexdigest()[:16]`. -/
def short_digest (raw : String) : String := slice_to (hexdigest (sha256 (encode_utf8 raw))) 16

/-- A key that is derived from a request. -/
structure DerivedKey (Request Identity : Type) where
  /-- What tells requests apart. -/
  identity : Request → Identity
  /-- The key that the code derives. -/
  key : Request → String
  /-- The text that is hashed. -/
  raw : Request → String
  /-- What stands between the colons of the text. -/
  fields : Request → List String
  key_eq : ∀ request, key request = short_digest (raw request)
  raw_eq : ∀ request, raw request = ":".intercalate (fields request)
  fields_ne : ∀ request, fields request ≠ []

namespace DerivedKey

variable {Request Identity : Type} (k : DerivedKey Request Identity)

/-- The pieces of the fields of a request. -/
def pieces (request : Request) : List String := colon_pieces (k.fields request)

/-- Requests that are not the same get different keys, with `digest` in the place of the hash. -/
def Separates (digest : String → String) (a b : Request) : Prop :=
  k.identity a ≠ k.identity b → digest (k.raw a) ≠ digest (k.raw b)

/-- Two requests that are not the same have one key. -/
def Collides (a b : Request) : Prop := k.identity a ≠ k.identity b ∧ k.key a = k.key b

theorem raw_eq_iff (a b : Request) : k.raw a = k.raw b ↔ k.pieces a = k.pieces b := by
  rw [k.raw_eq, k.raw_eq]
  exact colon_joined_eq_iff (k.fields_ne a) (k.fields_ne b)

/-- **Which requests a key tells apart**: those with different pieces. -/
theorem separates_iff {digest : String → String} (hdigest : Function.Injective digest)
    (a b : Request) :
    k.Separates digest a b ↔ k.identity a = k.identity b ∨ k.pieces a ≠ k.pieces b := by
  unfold Separates
  rw [ne_eq, ne_eq, hdigest.eq_iff, k.raw_eq_iff]
  by_cases hsame : k.identity a = k.identity b
  · simp [hsame]
  · simp [hsame]

/-- **Fields with equally many colons** are told apart. -/
theorem fields_apart {a b : Request} (hraw : k.raw a = k.raw b)
    (hcolons : (k.fields a).map (fun field => field.toList.count ':') =
      (k.fields b).map fun field => field.toList.count ':') : k.fields a = k.fields b := by
  have hmap : Function.Injective (List.map String.toList) :=
    List.map_injective_iff.mpr fun _ _ => String.toList_inj.mp
  have hpieces := congrArg (List.map String.toList) ((k.raw_eq_iff a b).mp hraw)
  unfold pieces at hpieces
  rw [toList_colon_pieces, toList_colon_pieces] at hpieces
  refine hmap (cuts_inj ':' ?_ hpieces)
  rw [List.map_map, List.map_map]
  exact hcolons

end DerivedKey

/-! ## The three keys -/

/-- The arguments of routing's `_derive_idem_key`. -/
structure RoutingIntent where
  document_id : String
  checksum : String
  recipient_id : Option String
  routing_intent_version : String

/-- The key of a routing request. -/
def routing_key : DerivedKey RoutingIntent RoutingIntent where
  identity intent := intent
  key intent := Routing.derive_idem_key intent.document_id intent.checksum intent.recipient_id
    intent.routing_intent_version
  raw intent := intent.document_id ++ ":" ++ intent.checksum ++ ":" ++
    intent.recipient_id.getD "" ++ ":" ++ intent.routing_intent_version
  fields intent := [intent.document_id, intent.checksum, intent.recipient_id.getD "",
    intent.routing_intent_version]
  key_eq _ := rfl
  raw_eq _ := rfl
  fields_ne _ := List.cons_ne_nil _ _

/-- The arguments of `derive_change_id`. -/
structure StatusTransition where
  matter_id : String
  from_status : String
  to_status : String
  discriminator : String

/-- The id of a status change. -/
def change_key : DerivedKey StatusTransition StatusTransition where
  identity change := change
  key change := StatusUpdate.derive_change_id change.matter_id change.from_status change.to_status
    change.discriminator
  raw change := change.matter_id ++ ":" ++ change.from_status ++ ":" ++ change.to_status ++ ":" ++
    change.discriminator
  fields change := [change.matter_id, change.from_status, change.to_status, change.discriminator]
  key_eq _ := rfl
  raw_eq _ := rfl
  fields_ne _ := List.cons_ne_nil _ _

/-- What tells leads apart: the channel, the event id and, without one, the e-mail and the name. -/
structure LeadIdentity where
  source_channel : String
  provider_event_id : Option String
  person : Option (Option PyValue × Option PyValue)

def lead_identity (lead : Intake.LeadPayload) : LeadIdentity where
  source_channel := lead.source_channel
  provider_event_id := lead.provider_event_id
  person := if lead.has_no_event then
      some (lead.raw.lookup "email", (lead.raw.lookup "full_name").or (lead.raw.lookup "name"))
    else none

/-- The key of a lead that comes without a key. -/
def lead_key (texts : Intake.LeadTexts) : DerivedKey Intake.LeadPayload LeadIdentity where
  identity := lead_identity
  key := Intake.LeadPayload.derive_idem_key texts
  raw := Intake.LeadPayload.base texts
  fields lead := if lead.has_no_event then
      [lead.source_channel, texts.format lead.raw_email, texts.format lead.raw_name]
    else [lead.source_channel, Intake.text_or lead.provider_event_id ""]
  key_eq _ := rfl
  raw_eq lead := by
    unfold Intake.LeadPayload.base
    split <;> rfl
  fields_ne lead := by
    split <;> exact List.cons_ne_nil _ _

/-- Status changes whose fields hold equally many colons get ids of their own. -/
theorem changes_apart {a b : StatusTransition} (hraw : change_key.raw a = change_key.raw b)
    (hcolons : (change_key.fields a).map (fun field => field.toList.count ':') =
      (change_key.fields b).map fun field => field.toList.count ':') : a = b := by
  obtain ⟨matter_id, from_status, to_status, discriminator⟩ := a
  have hfields := change_key.fields_apart hraw hcolons
  obtain ⟨rfl, rfl, rfl, rfl⟩ : matter_id = b.matter_id ∧ from_status = b.from_status ∧
      to_status = b.to_status ∧ discriminator = b.discriminator := by
    simpa [change_key] using hfields
  rfl

/-! ## Main result -/

/-- **When different requests get different keys**: if the hash does not collide, exactly when the fields,
    cut at every colon, are not the same pieces. -/
theorem keys_separate_iff {digest : String → String} (hdigest : Function.Injective digest)
    (texts : Intake.LeadTexts) :
    (∀ a b, routing_key.Separates digest a b ↔
      a = b ∨ routing_key.pieces a ≠ routing_key.pieces b) ∧
    (∀ a b, change_key.Separates digest a b ↔
      a = b ∨ change_key.pieces a ≠ change_key.pieces b) ∧
    (∀ a b, (lead_key texts).Separates digest a b ↔
      lead_identity a = lead_identity b ∨ (lead_key texts).pieces a ≠ (lead_key texts).pieces b) :=
  ⟨routing_key.separates_iff hdigest, change_key.separates_iff hdigest,
    (lead_key texts).separates_iff hdigest⟩

/-! ### Requests that share a key -/

/-- Texts for leads without instants. -/
def plain_texts : Intake.LeadTexts := ⟨fun _ => "", fun _ => ""⟩

/-- A lead of the web form. -/
def form_lead (raw : PyDict) (provider_event_id : Option String) : Intake.LeadPayload :=
  ⟨"form", 0, raw, [], provider_event_id⟩

/-- With the identity in the place of the hash, the three keys of these requests differ. -/
theorem plain_requests_apart :
    routing_key.Separates id ⟨"doc", "sum", none, "v1"⟩ ⟨"doc", "sum", some "ann@example.com", "v1"⟩ ∧
    change_key.Separates id ⟨"m1", "RFE", "Issued", "e1"⟩ ⟨"m1", "RFE", "Issued", "e2"⟩ ∧
    (lead_key plain_texts).Separates id (form_lead [("email", .str "ann@example.com")] none)
      (form_lead [("email", .str "bob@example.com")] none) := by
  obtain ⟨hrouting, hchange, hlead⟩ := keys_separate_iff Function.injective_id plain_texts
  refine ⟨(hrouting _ _).mpr (Or.inr ?_), (hchange _ _).mpr (Or.inr ?_), (hlead _ _).mpr (Or.inr ?_)⟩
  · decide
  · decide
  · decide

/-- **Different requests with one key**: an empty recipient counts as none, and a colon moves from
    one field to the next. -/
theorem different_requests_share_key :
    routing_key.Collides ⟨"doc", "sum", none, "v1"⟩ ⟨"doc", "sum", some "", "v1"⟩ ∧
    change_key.Collides ⟨"m1", "RFE", "Issued:Pending", "e1"⟩ ⟨"m1", "RFE:Issued", "Pending", "e1"⟩ ∧
    (lead_key plain_texts).Collides
      (form_lead [("email", .str "ann@example.com"), ("name", .str "Ann")] none)
      (form_lead [("email", .str "bob@example.com")] (some "ann@example.com:Ann")) := by
  refine ⟨⟨?_, rfl⟩, ⟨?_, ?_⟩, ⟨?_, ?_⟩⟩
  · intro h
    cases congrArg RoutingIntent.recipient_id h
  · intro h
    exact absurd (congrArg StatusTransition.to_status h) (by decide)
  · exact congrArg short_digest (show change_key.raw ⟨"m1", "RFE", "Issued:Pending", "e1"⟩ =
      change_key.raw ⟨"m1", "RFE:Issued", "Pending", "e1"⟩ by decide)
  · intro h
    cases congrArg LeadIdentity.provider_event_id h
  · have hbase : (form_lead [("email", .str "ann@example.com"), ("name", .str "Ann")] none).base
        plain_texts =
      (form_lead [("email", .str "bob@example.com")] (some "ann@example.com:Ann")).base
        plain_texts := by decide
    exact congrArg short_digest hbase

end CaseAutomation.Workflows
