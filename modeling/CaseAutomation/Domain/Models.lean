import CaseAutomation.Base.Values
import CaseAutomation.Framework.Dict

/-! # Domain Entities

    The shared entities of `domain/models.py` that the modelled services exchange, and the
    draft of a matter from `connectors/ports.py`.
-/

namespace CaseAutomation.Domain

open Framework

/-- A person involved in one or more matters. -/
structure Contact where
  id : String
  source : String
  name : String
  email : Option String
  phone : Option String
  role : Option String
  external_ids : Dict String String

inductive DeadlineStatus where
  | pending
  | reminded
  | done
  | missed
  deriving DecidableEq, Repr

/-- A date obligation tracked by the deadline engine. -/
structure Deadline where
  id : String
  matter_id : String
  name : String
  due_at : Time
  rule_id : Option String
  status : DeadlineStatus
  escalation_level : Int

/-- A case, file or engagement. -/
structure Matter where
  id : String
  source : String
  reference : String
  title : String
  status : String
  practice_area : Option String
  client : Contact
  responsible : Option String
  opened_at : Time
  key_dates : List Deadline
  external_ids : Dict String String

inductive Direction where
  | incoming
  | outgoing
  deriving DecidableEq, Repr

/-- An e-mail or message. -/
structure Communication where
  id : String
  matter_id : Option String
  direction : Direction
  channel : String
  subject : Option String
  body : String
  status : String
  participants : List Contact

/-- An actionable task attached to a matter. -/
structure Task where
  id : String
  matter_id : String
  title : String
  assignee : Option String
  due_at : Option Time
  status : String

/-- Draft payload for creating a matter in a case-management system. -/
structure MatterDraft where
  reference : String
  title : String
  status : String
  practice_area : Option String
  client : Contact
  responsible : Option String
  opened_at : Time
  external_ids : Dict String String

/-- A stored document associated with a matter. -/
structure Document where
  id : String
  matter_id : String
  name : String
  mime_type : String
  uri : String
  classification : Option String
  version : Int
  /-- The confidentiality flag. -/
  privileged : Bool
  checksum : String
  created_at : Time

/-- Access-control descriptor of `DocStoreConnector.move`. -/
structure ACL where
  principals : List String
  permission : String
  external : Bool

end CaseAutomation.Domain
