-- Service agents: the points of contact at either end of a shipment. An
-- agent is made from a request and never changed.
import Relocation.Failure
import Relocation.Id
import Relocation.Time.Timestamp

namespace Relocation

/-! ## Roles -/

/-- The end of a shipment that an agent looks after. -/
inductive AgentRole where
  | origin
  | destination
deriving DecidableEq

namespace AgentRole

def all : List AgentRole := [.origin, .destination]

def name : AgentRole → String
  | .origin => "ORIGIN"
  | .destination => "DESTINATION"

def toJson (r : AgentRole) : Json := .str r.name

def ofJson? : Json → Option AgentRole := Json.literal? (all.map fun r => (r.name, r))

end AgentRole

/-! ## Requests -/

/-- What is asked for when an agent is added. -/
structure AgentRequest where
  role : Option AgentRole := none
  pointOfContact : Option String := none
  email : Option String := none
  phone : Option String := none
  fax : Option String := none
  prefersEmail : Option Bool := none
  prefersPhone : Option Bool := none
  notes : Option String := none
deriving DecidableEq

instance : Record AgentRequest where
  members := [
    .maybe "role" AgentRole.toJson (·.role),
    .maybe "point_of_contact" .str (·.pointOfContact),
    .maybe "email" .str (·.email),
    .maybe "phone_number" .str (·.phone),
    .maybe "fax_number" .str (·.fax),
    .maybe "email_is_preferred" .bool (·.prefersEmail),
    .maybe "phone_is_preferred" .bool (·.prefersPhone),
    .maybe "notes" .str (·.notes)]
  build row := do
    let role ← row.optional "role" AgentRole.ofJson?
    let pointOfContact ← row.optional "point_of_contact" Json.str?
    let email ← row.optional "email" Json.str?
    let phone ← row.optional "phone_number" Json.str?
    let fax ← row.optional "fax_number" Json.str?
    let prefersEmail ← row.optional "email_is_preferred" Json.bool?
    let prefersPhone ← row.optional "phone_is_preferred" Json.bool?
    let notes ← row.optional "notes" Json.str?
    some { role, pointOfContact, email, phone, fax, prefersEmail, prefersPhone, notes }

/-! ## Agents -/

/-- A point of contact of a shipment. -/
structure Agent where
  id : AgentId
  shipmentId : ShipmentId
  role : AgentRole
  pointOfContact : String
  email : Option String
  phone : Option String
  fax : Option String
  prefersEmail : Option Bool
  prefersPhone : Option Bool
  notes : Option String
  createdAt : Timestamp
deriving DecidableEq

namespace Agent

/-- The name of the record in failures. -/
def entity : String := "ServiceAgent"

/-- An agent needs a point of contact that is not blank. -/
def report (a : Agent) : Report := Report.empty.requirePresent "point_of_contact" a.pointOfContact

/-- The agent that a request asks for. It has to name a role and a contact,
and what is missing is reported at once. -/
def create (id : AgentId) (shipmentId : ShipmentId) (request : AgentRequest) (now : Timestamp) :
    Except Failure Agent :=
  let contact := request.pointOfContact.getD ""
  match request.role with
  | none =>
    .error (.invalid ((Report.empty.add "role" "can not be blank").requirePresent
      "point_of_contact" contact))
  | some role => do
    (Report.empty.requirePresent "point_of_contact" contact).check
    .ok {
      id, shipmentId, role
      pointOfContact := contact
      email := request.email
      phone := request.phone
      fax := request.fax
      prefersEmail := request.prefersEmail
      prefersPhone := request.prefersPhone
      notes := request.notes
      createdAt := now }

instance : Record Agent where
  members := [
    .always "id" Id.toJson (·.id),
    .always "shipment_id" Id.toJson (·.shipmentId),
    .always "role" AgentRole.toJson (·.role),
    .always "point_of_contact" .str (·.pointOfContact),
    .maybe "email" .str (·.email),
    .maybe "phone_number" .str (·.phone),
    .maybe "fax_number" .str (·.fax),
    .maybe "email_is_preferred" .bool (·.prefersEmail),
    .maybe "phone_is_preferred" .bool (·.prefersPhone),
    .maybe "notes" .str (·.notes),
    .always "created_at" Timestamp.toJson (·.createdAt)]
  build row := do
    let id ← row.required "id" Id.ofJson?
    let shipmentId ← row.required "shipment_id" Id.ofJson?
    let role ← row.required "role" AgentRole.ofJson?
    let pointOfContact ← row.required "point_of_contact" Json.str?
    let email ← row.optional "email" Json.str?
    let phone ← row.optional "phone_number" Json.str?
    let fax ← row.optional "fax_number" Json.str?
    let prefersEmail ← row.optional "email_is_preferred" Json.bool?
    let prefersPhone ← row.optional "phone_is_preferred" Json.bool?
    let notes ← row.optional "notes" Json.str?
    let createdAt ← row.required "created_at" Timestamp.ofJson?
    some {
      id, shipmentId, role, pointOfContact, email, phone, fax, prefersEmail, prefersPhone,
      notes, createdAt }

end Agent

end Relocation
