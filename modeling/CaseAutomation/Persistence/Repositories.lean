import CaseAutomation.Base.Errors
import CaseAutomation.Domain.Models
import CaseAutomation.Framework.Relations

/-! # Repositories

    The repositories of `persistence/_repositories_legacy.py` over the tables of
    `persistence/models.py`, one unit of work at a time.

    A matter is one entity in the domain and several rows in the database: its client is a reference
    to a contact, and its key dates are the deadlines that refer to it. So what is saved is not always
    what is read:

    * `repositories_sound`   : after any history no reference dangles, so that every entity can be read;
    * `saved_reads_back_iff` : exactly when a save is read back as it was given;
    * `unrelated_read`       : a statement changes no read but those of the rows it is about.
-/

namespace CaseAutomation.Persistence

open Framework Domain

/-! ## Tables -/

inductive Kind where
  | contact
  | matter
  | deadline
  | document
  | communication
  | task
  deriving DecidableEq

/-- `MatterORM`; the deadlines refer to it. -/
structure MatterORM where
  id : String
  source : String
  reference : String
  title : String
  status : String
  practice_area : Option String
  client_id : String
  responsible : Option String
  opened_at : Time
  external_ids : Dict String String

abbrev Kind.Entity : Kind → Type
  | .contact => Contact
  | .matter => Matter
  | .deadline => Deadline
  | .document => Document
  | .communication => Communication
  | .task => Task

/-- The other tables have the columns of their entities. -/
abbrev Kind.Row : Kind → Type
  | .contact => Contact
  | .matter => MatterORM
  | .deadline => Deadline
  | .document => Document
  | .communication => Communication
  | .task => Task

def Kind.name : Kind → String
  | .contact => "Contact"
  | .matter => "Matter"
  | .deadline => "Deadline"
  | .document => "Document"
  | .communication => "Communication"
  | .task => "Task"

def key : (k : Kind) → k.Row → String
  | .contact, orm => orm.id
  | .matter, orm => orm.id
  | .deadline, orm => orm.id
  | .document, orm => orm.id
  | .communication, orm => orm.id
  | .task, orm => orm.id

/-- The foreign keys. -/
def ref : (k : Kind) → k.Row → Option (Kind × String)
  | .contact, _ => none
  | .matter, orm => some (.contact, orm.client_id)
  | .deadline, orm => some (.matter, orm.matter_id)
  | .document, orm => some (.matter, orm.matter_id)
  | .communication, orm => orm.matter_id.map fun id => (.matter, id)
  | .task, orm => some (.matter, orm.matter_id)

/-- Only a communication may be without a matter. -/
def detach : (k : Kind) → k.Row → Option k.Row
  | .communication, orm => some { orm with matter_id := none }
  | .contact, _ => none
  | .matter, _ => none
  | .deadline, _ => none
  | .document, _ => none
  | .task, _ => none

def schema : Schema Kind String Kind.Row where
  kinds := [.contact, .matter, .deadline, .document, .communication, .task]
  mem_kinds k := by cases k <;> decide
  key := key
  ref := ref
  detach := detach
  detach_key k r r' h := by
    cases k with
    | communication =>
      obtain rfl := Option.some.inj h
      rfl
    | _ => cases h
  detach_ref k r r' h := by
    cases k with
    | communication =>
      obtain rfl := Option.some.inj h
      rfl
    | _ => cases h

/-- The database. -/
abbrev Database : Type := Tables Kind.Row

/-! ## Mapping -/

/-- `str(domain.email) if domain.email else None`. -/
def email_column : Option String → Option String
  | some email => if email = "" then none else some email
  | none => none

/-- `_contact_from_domain`. -/
def contact_from_domain (domain : Contact) : Contact :=
  { domain with email := email_column domain.email }

/-- `orm.deadlines`. -/
def deadlines_of (db : Database) (matter_id : String) : List Deadline :=
  (db .deadline).filter fun d => decide (d.matter_id = matter_id)

/-- `_matter_to_domain`; `orm.client_rel` is `None` if there is no such contact. -/
def matter_to_domain (db : Database) (orm : MatterORM) : Except Exn Matter :=
  match schema.find db .contact orm.client_id with
  | none => .error (.other "AttributeError" "'NoneType' object has no attribute 'id'")
  | some client => .ok {
      id := orm.id
      source := orm.source
      reference := orm.reference
      title := orm.title
      status := orm.status
      practice_area := orm.practice_area
      client := client
      responsible := orm.responsible
      opened_at := orm.opened_at
      key_dates := deadlines_of db orm.id
      external_ids := orm.external_ids }

/-! ## Repositories -/

/-- What the repositories do differently. -/
structure Repository (k : Kind) where
  to_domain : Database → k.Row → Except Exn k.Entity
  from_domain : k.Entity → k.Row
  /-- The columns that `update` assigns. -/
  assign : k.Row → k.Entity → k.Row

def ContactRepository : Repository .contact where
  to_domain _ orm := .ok orm
  from_domain := contact_from_domain
  assign existing entity :=
    { existing with
      source := entity.source
      name := entity.name
      email := email_column entity.email
      phone := entity.phone
      role := entity.role
      external_ids := entity.external_ids }

def MatterRepository : Repository .matter where
  to_domain := matter_to_domain
  from_domain entity :=
    { id := entity.id
      source := entity.source
      reference := entity.reference
      title := entity.title
      status := entity.status
      practice_area := entity.practice_area
      client_id := entity.client.id
      responsible := entity.responsible
      opened_at := entity.opened_at
      external_ids := entity.external_ids }
  assign existing entity :=
    { existing with
      status := entity.status
      practice_area := entity.practice_area
      responsible := entity.responsible
      external_ids := entity.external_ids }

def DeadlineRepository : Repository .deadline where
  to_domain _ orm := .ok orm
  from_domain entity := entity
  assign existing entity :=
    { existing with status := entity.status, escalation_level := entity.escalation_level }

def DocumentRepository : Repository .document where
  to_domain _ orm := .ok orm
  from_domain entity := entity
  assign existing entity :=
    { existing with
      classification := entity.classification
      privileged := entity.privileged
      checksum := entity.checksum
      version := entity.version }

def CommunicationRepository : Repository .communication where
  to_domain _ orm := .ok orm
  from_domain entity := entity
  assign existing entity :=
    { existing with status := entity.status, participants := entity.participants }

def TaskRepository : Repository .task where
  to_domain _ orm := .ok orm
  from_domain entity := entity
  assign existing entity :=
    { existing with
      title := entity.title
      assignee := entity.assignee
      due_at := entity.due_at
      status := entity.status }

def repository : (k : Kind) → Repository k
  | .contact => ContactRepository
  | .matter => MatterRepository
  | .deadline => DeadlineRepository
  | .document => DocumentRepository
  | .communication => CommunicationRepository
  | .task => TaskRepository

/-- What the database driver raises when a constraint is violated. -/
def integrity_error : Exn := .other "IntegrityError" ""

namespace Repository

variable {k : Kind} (self : Repository k)

/-- `get`. -/
def get (db : Database) (id : String) : Except Exn (Option k.Entity) :=
  match schema.find db k id with
  | none => .ok none
  | some orm => (self.to_domain db orm).map some

/-- `list`. -/
def list (db : Database) : Except Exn (List k.Entity) := (db k).mapM (self.to_domain db)

/-- The id of an entity. -/
def id (entity : k.Entity) : String := schema.key k (self.from_domain entity)

/-- `add`. -/
def add (db : Database) (entity : k.Entity) : Except Exn (k.Entity × Database) :=
  match schema.insert db k (self.from_domain entity) with
  | none => .error integrity_error
  | some db' => .ok (entity, db')

/-- `update`. -/
def update (db : Database) (entity : k.Entity) : Except Exn (k.Entity × Database) :=
  match schema.find db k (self.id entity) with
  | none => .error (.value_error (k.name ++ " " ++ repr_str (self.id entity) ++ " not found."))
  | some _ => .ok (entity, schema.update db k (self.id entity) fun orm => self.assign orm entity)

/-- `delete`. The session sets the references of the children to null first. -/
def delete (k : Kind) (db : Database) (id : String) : Except Exn Database :=
  match schema.find db k id with
  | none => .ok db
  | some _ =>
    match schema.delete db k id with
    | none => .error integrity_error
    | some db' => .ok db'

end Repository

/-! ## Histories -/

inductive Statement where
  | add (k : Kind) (entity : k.Entity)
  | update (k : Kind) (entity : k.Entity)
  | delete (k : Kind) (id : String)

def Statement.execute (db : Database) : Statement → Except Exn Database
  | .add k entity => ((repository k).add db entity).map Prod.snd
  | .update k entity => ((repository k).update db entity).map Prod.snd
  | .delete k id => Repository.delete k db id

/-- `unit_of_work`: an exception rolls back. -/
def committed (db : Database) (s : Statement) : Database :=
  match s.execute db with
  | .ok db' => db'
  | .error _ => db

/-- The database after a history. -/
def history (ss : List Statement) : Database := ss.foldl committed fun _ => []

/-! ## Soundness -/

/-- An update leaves the key and the references alone. -/
theorem assign_inner (k : Kind) (entity : k.Entity) :
    Schema.Inner schema k fun orm => (repository k).assign orm entity := by
  cases k <;> exact ⟨fun _ => rfl, fun _ => rfl⟩

theorem add_eq {k : Kind} {db db' : Database} {entity : k.Entity}
    (h : (Statement.add k entity).execute db = .ok db') :
    schema.insert db k ((repository k).from_domain entity) = some db' := by
  simp only [Statement.execute, Repository.add] at h
  cases hinsert : schema.insert db k ((repository k).from_domain entity) with
  | none =>
    rw [hinsert] at h
    cases h
  | some db₁ =>
    rw [hinsert] at h
    obtain rfl := Except.ok.inj h
    rfl

theorem update_eq {k : Kind} {db db' : Database} {entity : k.Entity}
    (h : (Statement.update k entity).execute db = .ok db') :
    ∃ existing, schema.find db k ((repository k).id entity) = some existing ∧
      db' = schema.update db k ((repository k).id entity) fun orm => (repository k).assign orm entity := by
  simp only [Statement.execute, Repository.update] at h
  cases hfind : schema.find db k ((repository k).id entity) with
  | none =>
    rw [hfind] at h
    cases h
  | some existing =>
    rw [hfind] at h
    exact ⟨existing, rfl, (Except.ok.inj h).symm⟩

theorem delete_eq {k : Kind} {db db' : Database} {id : String}
    (h : (Statement.delete k id).execute db = .ok db') :
    schema.find db k id = none ∧ db' = db ∨ schema.delete db k id = some db' := by
  simp only [Statement.execute, Repository.delete] at h
  cases hfind : schema.find db k id with
  | none =>
    rw [hfind] at h
    exact .inl ⟨rfl, (Except.ok.inj h).symm⟩
  | some existing =>
    rw [hfind] at h
    simp only at h
    cases hdelete : schema.delete db k id with
    | none =>
      rw [hdelete] at h
      cases h
    | some db₁ =>
      rw [hdelete] at h
      obtain rfl := Except.ok.inj h
      exact .inr rfl

/-- One statement. -/
theorem execute_sound {db db' : Database} {s : Statement} (hsound : schema.Sound db)
    (h : s.execute db = .ok db') : schema.Sound db' := by
  cases s with
  | add k entity => exact Schema.insert_sound hsound (add_eq h)
  | update k entity =>
    obtain ⟨existing, -, rfl⟩ := update_eq h
    exact Schema.update_sound (assign_inner k entity) hsound
  | delete k id =>
    rcases delete_eq h with hnone | hdelete
    · rw [hnone.2]
      exact hsound
    · exact Schema.delete_sound hsound hdelete

theorem history_sound (ss : List Statement) : schema.Sound (history ss) := by
  have hrun : ∀ db : Database, schema.Sound db → schema.Sound (ss.foldl committed db) := by
    induction ss with
    | nil => exact fun db h => h
    | cons s rest ih =>
      intro db h
      refine ih (committed db s) ?_
      unfold committed
      split
      · next db' hok => exact execute_sound h hok
      · exact h
  exact hrun _ schema.sound_empty

/-- In a sound database each row is an entity. -/
theorem to_domain_ok {db : Database} (hsound : schema.Sound db) (k : Kind) {orm : k.Row}
    (horm : orm ∈ db k) : ∃ entity, (repository k).to_domain db orm = .ok entity := by
  cases k with
  | matter =>
    obtain ⟨client, hclient, hid⟩ := hsound.refs .matter orm horm .contact orm.client_id rfl
    have hfind : schema.find db .contact orm.client_id = some client := by
      rw [← hid]
      exact hsound.find_of_mem hclient
    show ∃ entity, matter_to_domain db orm = .ok entity
    unfold matter_to_domain
    rw [hfind]
    exact ⟨_, rfl⟩
  | _ => exact ⟨_, rfl⟩

theorem get_ok {db : Database} (hsound : schema.Sound db) (k : Kind) (id : String) :
    ∃ found, (repository k).get db id = .ok found ∧
      (found.isSome = true ↔ ∃ orm ∈ db k, key k orm = id) := by
  have hiff : (schema.find db k id).isSome = true ↔ ∃ orm ∈ db k, key k orm = id :=
    Schema.find_isSome_iff
  unfold Repository.get
  cases hfind : schema.find db k id with
  | none =>
    rw [hfind] at hiff
    exact ⟨none, rfl, hiff⟩
  | some orm =>
    obtain ⟨entity, hentity⟩ := to_domain_ok hsound k (Schema.mem_of_find hfind).1
    rw [hfind] at hiff
    simp only [hentity]
    exact ⟨some entity, rfl, hiff⟩

theorem list_ok {db : Database} (hsound : schema.Sound db) (k : Kind) :
    ∃ entities, (repository k).list db = .ok entities ∧ entities.length = (db k).length := by
  have hrows : ∀ orms : List k.Row, (∀ orm ∈ orms, orm ∈ db k) →
      ∃ entities, orms.mapM ((repository k).to_domain db) = .ok entities ∧
        entities.length = orms.length := by
    intro orms
    induction orms with
    | nil => exact fun _ => ⟨[], rfl, rfl⟩
    | cons orm rest ih =>
      intro hmem
      obtain ⟨entity, hentity⟩ := to_domain_ok hsound k (hmem orm List.mem_cons_self)
      obtain ⟨entities, hentities, hlength⟩ := ih fun o ho => hmem o (List.mem_cons_of_mem _ ho)
      refine ⟨entity :: entities, ?_, by rw [List.length_cons, List.length_cons, hlength]⟩
      rw [List.mapM_cons, hentity, hentities]
      rfl
  exact hrows (db k) fun _ h => h

/-- The children that keep a row from being deleted. -/
def HasChildren (db : Database) : Kind → String → Prop
  | .contact, id => ∃ m ∈ db .matter, m.client_id = id
  | .matter, id => (∃ d ∈ db .deadline, d.matter_id = id) ∨ (∃ d ∈ db .document, d.matter_id = id) ∨
      ∃ t ∈ db .task, t.matter_id = id
  | _, _ => False

theorem delete_iff (db : Database) (k : Kind) (id : String) :
    (schema.delete db k id).isSome = true ↔ ¬HasChildren db k id := by
  rw [Schema.delete_isSome_iff]
  constructor
  · intro hfree hchildren
    cases k with
    | contact =>
      obtain ⟨m, hm, rfl⟩ := hchildren
      cases hfree .matter m hm rfl
    | matter =>
      obtain ⟨d, hd, rfl⟩ | ⟨d, hd, rfl⟩ | ⟨d, hd, rfl⟩ := hchildren
      · cases hfree .deadline d hd rfl
      · cases hfree .document d hd rfl
      · cases hfree .task d hd rfl
    | _ => exact hchildren
  · intro hnone j orm horm href
    cases j with
    | contact => cases href
    | communication => rfl
    | matter =>
      obtain ⟨rfl, rfl⟩ := Prod.mk.inj (Option.some.inj href)
      exact absurd ⟨orm, horm, rfl⟩ hnone
    | deadline =>
      obtain ⟨rfl, rfl⟩ := Prod.mk.inj (Option.some.inj href)
      exact absurd (.inl ⟨orm, horm, rfl⟩) hnone
    | document =>
      obtain ⟨rfl, rfl⟩ := Prod.mk.inj (Option.some.inj href)
      exact absurd (.inr (.inl ⟨orm, horm, rfl⟩)) hnone
    | task =>
      obtain ⟨rfl, rfl⟩ := Prod.mk.inj (Option.some.inj href)
      exact absurd (.inr (.inr ⟨orm, horm, rfl⟩)) hnone

/-- **Every entity can be read.** After any history of units of work ids are unique and no reference
    dangles; so no read raises, a read finds an entity exactly if it is stored, and a stored
    entity can be deleted exactly if nothing needs it. -/
theorem repositories_sound (ss : List Statement) (k : Kind) :
    ((history ss k).map (key k)).Nodup ∧
    (∀ orm ∈ history ss k, ∀ p id, ref k orm = some (p, id) → ∃ q ∈ history ss p, key p q = id) ∧
    (∃ entities, (repository k).list (history ss) = .ok entities ∧
      entities.length = (history ss k).length) ∧
    ∀ id, (∃ found, (repository k).get (history ss) id = .ok found ∧
        (found.isSome = true ↔ ∃ orm ∈ history ss k, key k orm = id)) ∧
      ((∃ db', Repository.delete k (history ss) id = .ok db' ∧
          (repository k).get db' id = .ok none) ↔
        ¬∃ orm ∈ history ss k, key k orm = id ∧ HasChildren (history ss) k id) := by
  have hsound := history_sound ss
  refine ⟨hsound.keys k, hsound.refs k, list_ok hsound k, ?_⟩
  intro id
  refine ⟨get_ok hsound k id, ?_⟩
  generalize history ss = db at hsound
  unfold Repository.delete
  cases hfind : schema.find db k id with
  | none =>
    have hmissing : ¬∃ orm ∈ db k, key k orm = id ∧ HasChildren db k id := by
      intro hfound
      obtain ⟨orm, horm, hid, -⟩ := hfound
      have hsome : (schema.find db k id).isSome = true := Schema.find_isSome_iff.mpr ⟨orm, horm, hid⟩
      rw [hfind] at hsome
      cases hsome
    refine ⟨fun _ => hmissing, fun _ => ⟨db, rfl, ?_⟩⟩
    rw [Repository.get, hfind]
  | some existing =>
    obtain ⟨hmem, hid⟩ := Schema.mem_of_find hfind
    have hiff := delete_iff db k id
    cases hdelete : schema.delete db k id with
    | none =>
      rw [hdelete] at hiff
      have hchildren : HasChildren db k id := by
        by_contra hnone
        cases hiff.mpr hnone
      refine ⟨?_, fun hnot => absurd ⟨existing, hmem, hid, hchildren⟩ hnot⟩
      intro hok
      obtain ⟨db', hdb', -⟩ := hok
      cases hdb'
    | some db' =>
      rw [hdelete] at hiff
      refine ⟨?_, fun _ => ⟨db', rfl, ?_⟩⟩
      · intro _ hfound
        obtain ⟨orm, horm, -, hchildren⟩ := hfound
        exact hiff.mp rfl hchildren
      · rw [Repository.get, Schema.find_delete_self hdelete]

/-! ## What a save keeps -/

/-- What `add` stores of the entity is all of it: the client as it is stored already, and no key dates. -/
def AddKept (db : Database) : (k : Kind) → k.Entity → Prop
  | .contact, entity => entity.email ≠ some ""
  | .matter, entity => schema.find db .contact entity.client.id = some entity.client ∧
      entity.key_dates = []
  | .deadline, _ => True
  | .document, _ => True
  | .communication, _ => True
  | .task, _ => True

/-- Where `update` assigns nothing, the entity is as it was. -/
def Unassigned : (k : Kind) → k.Entity → k.Entity → Prop
  | .contact, _, entity => entity.email ≠ some ""
  | .matter, stored, entity => stored.source = entity.source ∧ stored.reference = entity.reference ∧
      stored.title = entity.title ∧ stored.client = entity.client ∧
      stored.opened_at = entity.opened_at ∧ stored.key_dates = entity.key_dates
  | .deadline, stored, entity => stored.matter_id = entity.matter_id ∧ stored.name = entity.name ∧
      stored.due_at = entity.due_at ∧ stored.rule_id = entity.rule_id
  | .document, stored, entity => stored.matter_id = entity.matter_id ∧ stored.name = entity.name ∧
      stored.mime_type = entity.mime_type ∧ stored.uri = entity.uri ∧
      stored.created_at = entity.created_at
  | .communication, stored, entity => stored.matter_id = entity.matter_id ∧
      stored.direction = entity.direction ∧ stored.channel = entity.channel ∧
      stored.subject = entity.subject ∧ stored.body = entity.body
  | .task, stored, entity => stored.matter_id = entity.matter_id

/-- What `update` stores of the entity is all of it. -/
def UpdateKept (db : Database) (k : Kind) (entity : k.Entity) : Prop :=
  ∃ stored, (repository k).get db ((repository k).id entity) = .ok (some stored) ∧
    Unassigned k stored entity

theorem email_column_eq_iff {email : Option String} : email_column email = email ↔ email ≠ some "" := by
  cases email with
  | none => simp [email_column]
  | some text =>
    by_cases htext : text = ""
    · simp [email_column, htext]
    · simp [email_column, htext]

/-- A new matter has no deadlines, as none refers to a matter that is not there. -/
theorem no_deadlines {db : Database} (hsound : schema.Sound db) {id : String}
    (hnew : schema.find db .matter id = none) : deadlines_of db id = [] := by
  rw [deadlines_of, List.filter_eq_nil_iff]
  intro d hd hid
  have href : ref .deadline d = some (.matter, id) := by
    rw [← of_decide_eq_true hid]
    rfl
  have hsome : (schema.find db .matter id).isSome = true :=
    Schema.find_isSome_iff.mpr (hsound.refs .deadline d hd .matter id href)
  rw [hnew] at hsome
  cases hsome

/-- A matter is read from its row, its client's and those of its deadlines. -/
theorem get_matter {db : Database} {id : String} {orm : MatterORM} {client : Contact}
    (hfind : schema.find db .matter id = some orm)
    (hclient : schema.find db .contact orm.client_id = some client) :
    (repository .matter).get db id = .ok (some ⟨orm.id, orm.source, orm.reference, orm.title,
      orm.status, orm.practice_area, client, orm.responsible, orm.opened_at, deadlines_of db orm.id,
      orm.external_ids⟩) := by
  have hdomain : (repository .matter).to_domain db orm = matter_to_domain db orm := rfl
  rw [Repository.get, hfind]
  show Except.map some ((repository .matter).to_domain db orm) = _
  rw [hdomain, matter_to_domain, hclient]
  rfl

theorem add_reads_back_iff {db db' : Database} (hsound : schema.Sound db) {k : Kind}
    {entity : k.Entity} (h : (Statement.add k entity).execute db = .ok db') :
    (repository k).get db' ((repository k).id entity) = .ok (some entity) ↔ AddKept db k entity := by
  have hinsert := add_eq h
  obtain ⟨hnew, hresolves, hdb'⟩ := Schema.insert_eq hinsert
  have hfind := Schema.find_insert_self hinsert
  cases k with
  | contact =>
    have hget : (repository .contact).get db' ((repository .contact).id entity) =
        .ok (some (contact_from_domain entity)) := by
      unfold Repository.get Repository.id
      rw [hfind]
      rfl
    rw [hget]
    show _ ↔ entity.email ≠ some ""
    rw [← email_column_eq_iff]
    cases entity
    simp [contact_from_domain]
  | matter =>
    have hexists : (schema.find db .contact entity.client.id).isSome = true := hresolves
    obtain ⟨client, hclient⟩ := Option.isSome_iff_exists.mp hexists
    have hclient' : schema.find db' .contact entity.client.id = some client := by
      rw [Schema.find_insert_other hinsert fun hkind => by cases hkind]
      exact hclient
    have hid : (repository .matter).id entity = entity.id := rfl
    have hnone : schema.find db .matter entity.id = none := hnew
    have hdeadlines : deadlines_of db' entity.id = [] := by
      have hsame : db' .deadline = db .deadline := by
        rw [hdb', Function.update_of_ne]
        decide
      rw [deadlines_of, hsame]
      exact no_deadlines hsound hnone
    have hget := get_matter hfind hclient'
    have hget' : (repository .matter).get db' entity.id = _ := hget
    rw [hid, hget']
    show Except.ok (some (Matter.mk _ _ _ _ _ _ _ _ _ (deadlines_of db' entity.id) _)) = _ ↔ _
    rw [hdeadlines]
    show _ ↔ schema.find db .contact entity.client.id = some entity.client ∧ entity.key_dates = []
    rw [hclient]
    cases entity
    simp [repository, MatterRepository, eq_comm]
  | _ =>
    refine iff_of_true ?_ trivial
    unfold Repository.get Repository.id
    rw [hfind]
    rfl

theorem get_contact {db : Database} {id : String} {orm : Contact}
    (hfind : schema.find db .contact id = some orm) :
    (repository .contact).get db id = .ok (some orm) := by
  rw [Repository.get, hfind]
  rfl

theorem get_deadline {db : Database} {id : String} {orm : Domain.Deadline}
    (hfind : schema.find db .deadline id = some orm) :
    (repository .deadline).get db id = .ok (some orm) := by
  rw [Repository.get, hfind]
  rfl

theorem get_document {db : Database} {id : String} {orm : Document}
    (hfind : schema.find db .document id = some orm) :
    (repository .document).get db id = .ok (some orm) := by
  rw [Repository.get, hfind]
  rfl

theorem get_communication {db : Database} {id : String} {orm : Communication}
    (hfind : schema.find db .communication id = some orm) :
    (repository .communication).get db id = .ok (some orm) := by
  rw [Repository.get, hfind]
  rfl

theorem get_task {db : Database} {id : String} {orm : Domain.Task}
    (hfind : schema.find db .task id = some orm) :
    (repository .task).get db id = .ok (some orm) := by
  rw [Repository.get, hfind]
  rfl

/-- What is read before and after the update decides. -/
theorem update_kept_iff {db db' : Database} {k : Kind} {entity stored saved : k.Entity}
    (hstored : (repository k).get db ((repository k).id entity) = .ok (some stored))
    (hsaved : (repository k).get db' ((repository k).id entity) = .ok (some saved))
    (hsame : saved = entity ↔ Unassigned k stored entity) :
    (repository k).get db' ((repository k).id entity) = .ok (some entity) ↔
      UpdateKept db k entity := by
  unfold UpdateKept
  rw [hstored, hsaved, Except.ok.injEq, Option.some.injEq, hsame]
  constructor
  · intro hunassigned
    exact ⟨stored, rfl, hunassigned⟩
  · intro hkept
    obtain ⟨stored', heq, hunassigned⟩ := hkept
    obtain rfl := Option.some.inj (Except.ok.inj heq)
    exact hunassigned

theorem update_reads_back_iff {db db' : Database} (hsound : schema.Sound db) {k : Kind}
    {entity : k.Entity} (h : (Statement.update k entity).execute db = .ok db') :
    (repository k).get db' ((repository k).id entity) = .ok (some entity) ↔
      UpdateKept db k entity := by
  obtain ⟨existing, hfind, hdb'⟩ := update_eq h
  have hfind' := Schema.find_update_self (assign_inner k entity) hfind
  rw [← hdb'] at hfind'
  have hkey : key k existing = (repository k).id entity := (Schema.mem_of_find hfind).2
  cases k with
  | matter =>
    have hid : existing.id = entity.id := hkey
    obtain ⟨client, hclient, hclient_id⟩ :=
      hsound.refs .matter existing (Schema.mem_of_find hfind).1 .contact existing.client_id rfl
    have hstored : schema.find db .contact existing.client_id = some client := by
      rw [← hclient_id]
      exact hsound.find_of_mem hclient
    have hcontacts : db' .contact = db .contact := by
      rw [hdb', Schema.update, Function.update_of_ne]
      decide
    have hdeadlines : db' .deadline = db .deadline := by
      rw [hdb', Schema.update, Function.update_of_ne]
      decide
    have hstored' : schema.find db' .contact existing.client_id = some client := by
      unfold Schema.find at hstored ⊢
      rw [hcontacts]
      exact hstored
    have hget := get_matter hfind hstored
    have hget' := get_matter hfind' hstored'
    have hsame : deadlines_of db' existing.id = deadlines_of db existing.id := by
      rw [deadlines_of, hdeadlines, deadlines_of]
    refine update_kept_iff hget hget' ?_
    show Matter.mk existing.id _ _ _ _ _ _ _ _ (deadlines_of db' existing.id) _ = entity ↔ _
    rw [hsame, hid]
    cases entity
    simp [repository, MatterRepository, Unassigned]
  | contact =>
    have hid : existing.id = entity.id := hkey
    refine update_kept_iff (get_contact hfind) (get_contact hfind') ?_
    show Contact.mk existing.id _ _ (email_column entity.email) _ _ _ = entity ↔ entity.email ≠ some ""
    rw [hid, ← email_column_eq_iff]
    cases entity
    simp
  | deadline =>
    have hid : existing.id = entity.id := hkey
    refine update_kept_iff (get_deadline hfind) (get_deadline hfind') ?_
    cases existing
    cases entity
    obtain rfl := hid
    simp [repository, DeadlineRepository, Unassigned]
  | document =>
    have hid : existing.id = entity.id := hkey
    refine update_kept_iff (get_document hfind) (get_document hfind') ?_
    cases existing
    cases entity
    obtain rfl := hid
    simp [repository, DocumentRepository, Unassigned]
  | communication =>
    have hid : existing.id = entity.id := hkey
    refine update_kept_iff (get_communication hfind) (get_communication hfind') ?_
    cases existing
    cases entity
    obtain rfl := hid
    simp [repository, CommunicationRepository, Unassigned]
  | task =>
    have hid : existing.id = entity.id := hkey
    refine update_kept_iff (get_task hfind) (get_task hfind') ?_
    cases existing
    cases entity
    obtain rfl := hid
    simp [repository, TaskRepository, Unassigned]

/-- **What is saved is read.** After a successful `add` the entity is read back as it was given exactly
    if its client is the contact that is stored and it has no key dates; after a successful `update`, exactly
    if it agrees with what was stored in everything that `update` does not assign. -/
theorem saved_reads_back_iff {ss : List Statement} {k : Kind} {entity : k.Entity} {db' : Database} :
    ((Statement.add k entity).execute (history ss) = .ok db' →
      ((repository k).get db' ((repository k).id entity) = .ok (some entity) ↔
        AddKept (history ss) k entity)) ∧
    ((Statement.update k entity).execute (history ss) = .ok db' →
      ((repository k).get db' ((repository k).id entity) = .ok (some entity) ↔
        UpdateKept (history ss) k entity)) :=
  ⟨add_reads_back_iff (history_sound ss), update_reads_back_iff (history_sound ss)⟩

def ana : Contact := ⟨"c1", "crm", "Ana Garcia", none, none, none, ∅⟩

def anas_matter : Matter := ⟨"m1", "case", "R", "T", "open", none, ana, none, 0, [], ∅⟩

def anas_answer : Domain.Deadline := ⟨"d1", "m1", "Answer", 0, none, .pending, 0⟩

/-- A contact, her matter, and a deadline of the matter. -/
def anas_file : List Statement :=
  [.add .contact ana, .add .matter anas_matter, .add .deadline anas_answer]

/-- The matter with another title, and with its deadline. -/
def retitled : Matter := { anas_matter with title := "New", key_dates := [anas_answer] }

/-- The new title is not saved, although `update` returns the matter with it. -/
theorem title_not_saved : ∃ db', (Statement.update .matter retitled).execute (history anas_file) = .ok db' ∧
    (repository .matter).get db' "m1" ≠ .ok (some retitled) := by
  refine ⟨_, rfl, ?_⟩
  intro hread
  have hkept : UpdateKept (history anas_file) .matter retitled :=
    (saved_reads_back_iff.2 rfl).mp hread
  obtain ⟨stored, hstored, -, -, htitle, -⟩ := hkept
  have hold : (repository .matter).get (history anas_file) "m1" =
      .ok (some { anas_matter with key_dates := [anas_answer] }) := rfl
  obtain rfl := Option.some.inj (Except.ok.inj (hold.symm.trans hstored))
  exact absurd htitle (by decide)

/-! ## What a statement leaves alone -/

/-- The row that a statement is about. -/
def Statement.target : Statement → Kind × String
  | .add k entity => (k, (repository k).id entity)
  | .update k entity => (k, (repository k).id entity)
  | .delete k id => (k, id)

/-- The rows that a read looks at, and the matter of a communication. -/
def footprint (db : Database) : Kind → String → List (Kind × String)
  | .matter, id => (.matter, id) ::
      (((schema.find db .matter id).map fun orm => (Kind.contact, orm.client_id)).toList ++
        (deadlines_of db id).map fun d => (.deadline, d.id))
  | .communication, id => (.communication, id) ::
      ((schema.find db .communication id).bind (ref .communication)).toList
  | k, id => [(k, id)]

/-- Only communications lose a reference. -/
theorem release_eq {p : Kind} {id : String} {k : Kind} {orm : k.Row}
    (h : k = .communication → ref k orm ≠ some (p, id)) : schema.release p id k orm = orm := by
  unfold Schema.release
  split
  · next href =>
    cases k with
    | communication => exact absurd href (h rfl)
    | _ => rfl
  · rfl

theorem find_unrelated {db db' : Database} {s : Statement} (hsound : schema.Sound db)
    (h : s.execute db = .ok db') {k : Kind} {id : String} (hne : s.target ≠ (k, id))
    (hfree : k = .communication → ∀ orm, schema.find db k id = some orm → ref k orm ≠ some s.target) :
    schema.find db' k id = schema.find db k id := by
  cases s with
  | add j entity =>
    refine Schema.find_insert_other (add_eq h) fun hkind hid => hne ?_
    subst hkind hid
    rfl
  | update j entity =>
    obtain ⟨existing, -, rfl⟩ := update_eq h
    refine Schema.find_update_other (assign_inner j entity) fun hkind hid => hne ?_
    subst hkind hid
    rfl
  | delete j target =>
    rcases delete_eq h with hnone | hdelete
    · rw [hnone.2]
    · rw [Schema.find_delete_other hsound hdelete fun hkind hid => hne (by subst hkind hid; rfl)]
      cases hfind : schema.find db k id with
      | none => rfl
      | some orm =>
        rw [Option.map_some, release_eq fun hkind => hfree hkind orm hfind]

theorem deadlines_unrelated {db db' : Database} {s : Statement} (h : s.execute db = .ok db')
    {id : String} (hbefore : ∀ d ∈ deadlines_of db id, s.target ≠ (.deadline, d.id))
    (hafter : ∀ d ∈ deadlines_of db' id, s.target ≠ (.deadline, d.id)) :
    deadlines_of db' id = deadlines_of db id := by
  cases s with
  | add j entity =>
    obtain ⟨-, -, rfl⟩ := Schema.insert_eq (add_eq h)
    by_cases hj : j = .deadline
    · subst hj
      unfold deadlines_of at hafter ⊢
      rw [Function.update_self] at hafter ⊢
      rw [List.filter_append]
      -- the new deadline belongs to another matter
      by_cases hid : entity.matter_id = id
      · refine absurd rfl (hafter entity ?_)
        exact List.mem_filter.mpr ⟨List.mem_append_right _ (List.mem_singleton_self _), by simpa using hid⟩
      · have hnot : [(repository .deadline).from_domain entity].filter
            (fun d => decide (d.matter_id = id)) = [] := by
          simp [repository, DeadlineRepository, hid]
        rw [hnot, List.append_nil]
    · unfold deadlines_of
      rw [Function.update_of_ne (Ne.symm hj)]
  | update j entity =>
    obtain ⟨existing, -, rfl⟩ := update_eq h
    by_cases hj : j = .deadline
    · subst hj
      unfold deadlines_of Schema.update
      rw [Function.update_self, Table.update, List.filter_map]
      have hsame : ((fun d : Domain.Deadline => decide (d.matter_id = id)) ∘ fun d =>
          if schema.key .deadline d = (repository .deadline).id entity then
            (repository .deadline).assign d entity else d) = fun d => decide (d.matter_id = id) := by
        funext d
        show decide (Domain.Deadline.matter_id (if _ then _ else d) = id) = _
        split
        · rfl
        · rfl
      rw [hsame]
      refine (List.map_congr_left fun d hd => ?_).trans (List.map_id _)
      have hother : ¬schema.key .deadline d = (repository .deadline).id entity := by
        intro hkey
        refine hbefore d hd ?_
        show (Kind.deadline, (repository .deadline).id entity) = _
        rw [← hkey]
        rfl
      rw [if_neg hother]
      rfl
    · unfold deadlines_of Schema.update
      rw [Function.update_of_ne (Ne.symm hj)]
  | delete p target =>
    rcases delete_eq h with hnone | hdelete
    · rw [hnone.2]
    · unfold deadlines_of at hbefore ⊢
      rw [(Schema.delete_eq hdelete).2 .deadline]
      have hkept : ∀ d : Domain.Deadline, schema.release p target .deadline d = d :=
        fun d => release_eq fun hkind => by cases hkind
      have hmap : ((db .deadline).filter fun d => !schema.is_target p target .deadline d).map
          (schema.release p target .deadline) =
            (db .deadline).filter fun d => !schema.is_target p target .deadline d :=
        (List.map_congr_left fun d _ => hkept d).trans (List.map_id _)
      rw [hmap, List.filter_filter]
      refine List.filter_congr fun d hd => ?_
      by_cases hid : d.matter_id = id
      · have hother : schema.is_target p target .deadline d = false := by
          rw [Schema.is_target, decide_eq_false_iff_not]
          intro htarget
          refine hbefore d (List.mem_filter.mpr ⟨hd, by simpa using hid⟩) ?_
          show (p, target) = _
          rw [← htarget.1, ← htarget.2]
          rfl
        simp [hother]
      · simp [hid]

/-- **A read changes only with the rows it looks at.** If a statement is about none of the rows that a
    read looks at, before or after, the read gives what it gave. -/
theorem unrelated_read {ss : List Statement} {s : Statement} {db' : Database}
    (h : s.execute (history ss) = .ok db') {k : Kind} {id : String}
    (hbefore : s.target ∉ footprint (history ss) k id) (hafter : s.target ∉ footprint db' k id) :
    (repository k).get db' id = (repository k).get (history ss) id := by
  have hsound := history_sound ss
  generalize history ss = db at h hbefore hsound
  cases k with
  | matter =>
    simp only [footprint, List.mem_cons, List.mem_append, List.mem_map, not_or, not_exists,
      not_and] at hbefore hafter
    have hmatter : schema.find db' .matter id = schema.find db .matter id :=
      find_unrelated hsound h hbefore.1 fun hkind => by cases hkind
    cases hfind : schema.find db .matter id with
    | none => rw [Repository.get, Repository.get, hmatter, hfind]
    | some orm =>
      have hclient : schema.find db' .contact orm.client_id = schema.find db .contact orm.client_id := by
        refine find_unrelated hsound h ?_ fun hkind => by cases hkind
        intro htarget
        refine hbefore.2.1 ?_
        rw [hfind, htarget]
        simp
      have hid : orm.id = id := (Schema.mem_of_find hfind).2
      have hdeadlines : deadlines_of db' orm.id = deadlines_of db orm.id := by
        rw [hid]
        refine deadlines_unrelated h ?_ ?_
        · exact fun d hd htarget => hbefore.2.2 d hd htarget.symm
        · exact fun d hd htarget => hafter.2.2 d hd htarget.symm
      rw [Repository.get, Repository.get, hmatter, hfind]
      show Except.map some (matter_to_domain db' orm) = Except.map some (matter_to_domain db orm)
      rw [matter_to_domain, matter_to_domain, hclient, hdeadlines]
  | communication =>
    simp only [footprint, List.mem_cons, not_or] at hbefore
    have hfind : schema.find db' .communication id = schema.find db .communication id := by
      refine find_unrelated hsound h hbefore.1 ?_
      intro _ orm horm href
      refine hbefore.2 ?_
      rw [horm, Option.bind_some, href]
      simp
    rw [Repository.get, Repository.get, hfind]
    rfl
  | _ =>
    simp only [footprint, List.mem_singleton] at hbefore
    have hfind := find_unrelated hsound h hbefore fun hkind => by cases hkind
    rw [Repository.get, Repository.get, hfind]
    rfl

def another_contact : Statement := .add .contact { ana with id := "c2" }

/-- Another contact changes nothing for the matter. -/
theorem matter_undisturbed :
    another_contact.execute (history anas_file) = .ok (committed (history anas_file) another_contact) ∧
    (repository .matter).get (committed (history anas_file) another_contact) "m1" =
      (repository .matter).get (history anas_file) "m1" := by
  have hok : another_contact.execute (history anas_file) =
      .ok (committed (history anas_file) another_contact) := rfl
  exact ⟨hok, unrelated_read hok (by decide) (by decide)⟩

end CaseAutomation.Persistence
