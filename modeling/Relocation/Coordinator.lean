-- The coordinator: what providers and the office may ask of shipments and
-- their offers. A request that changes a shipment and its offer changes both
-- in one unit of work, so that neither is ever seen without the other.
import Relocation.Settings
import Relocation.Work

namespace Relocation

/-! ## Requests -/

/-- What may be asked of the coordinator. -/
inductive Request where
  /-- The shipment, if one offer links it to the provider. -/
  | fetch (provider : ProviderId) (shipment : ShipmentId)
  /-- The provider takes the shipment. -/
  | accept (provider : ProviderId) (shipment : ShipmentId)
  /-- The provider turns the shipment down, and it is submitted again. -/
  | reject (provider : ProviderId) (shipment : ShipmentId) (reason : String)
  /-- The shipment is awarded, without an offer. -/
  | award (shipment : ShipmentId)
  /-- The shipment is awarded, with an offer to the provider. -/
  | awardTo (shipment : ShipmentId) (provider : ProviderId)
  /-- The shipment waits for award. -/
  | submit (shipment : ShipmentId)
  /-- The provider surveyed the shipment. -/
  | survey (provider : ProviderId) (shipment : ShipmentId) (patch : Survey)
  /-- The shipment gets a point of contact. -/
  | addAgent (shipment : ShipmentId) (request : AgentRequest)
  /-- The points of contact of the shipment. -/
  | listAgents (shipment : ShipmentId)

namespace Request

/-- What a request is answered with. -/
@[reducible] def Answer : Request → Type
  | .fetch _ _ => Shipment
  | .accept _ _ => Shipment × Offer
  | .reject _ _ _ => Shipment × Offer
  | .award _ => Shipment
  | .awardTo _ _ => Shipment × Offer
  | .submit _ => Shipment
  | .survey _ _ _ => Shipment
  | .addAgent _ _ => Agent
  | .listAgents _ => List Agent

/-- The name of a request in failures. -/
def name : Request → String
  | .fetch _ _ => "fetch_for_provider"
  | .accept _ _ => "accept_for_provider"
  | .reject _ _ _ => "reject_for_provider"
  | .award _ => "award_shipment"
  | .awardTo _ _ => "award_to_provider"
  | .submit _ => "submit_shipment"
  | .survey _ _ _ => "update_survey_for_provider"
  | .addAgent _ _ => "create_service_agent"
  | .listAgents _ => "service_agents_for_shipment"

end Request

/-- What a unit of work takes from outside: the times of its changes, and the
identity of the record that it makes. -/
structure Fresh where
  /-- The time of the change to the shipment. -/
  shipmentTime : Timestamp
  /-- The time of the change to the other record. -/
  recordTime : Timestamp
  uuid : Uuid

/-! ## Units of work -/

namespace Coordinator

open Work (ask ofExcept)

/-- The shipment with the one offer that links it to the provider. -/
def loadPair (provider : ProviderId) (shipment : ShipmentId) : Work (Shipment × Offer) := do
  let offers ← ask (.findOffers provider shipment)
  match offers with
  | [offer] =>
    let s ← ask (.findShipment shipment)
    pure (s, offer)
  | _ => .fail (.notFound Offer.entity s!"shipment {shipment} for provider {provider}")

/-- Stages a shipment, if it violates no constraint. -/
def saveShipment (s : Shipment) : Work Unit := do
  ofExcept (Report.empty.merge "shipment" s.report).check
  ask (.saveShipment s)

/-- Stages a shipment and its offer, if neither violates a constraint. -/
def savePair (s : Shipment) (o : Offer) : Work Unit := do
  ofExcept ((Report.empty.merge "shipment" s.report).merge "offer" o.report).check
  ask (.saveShipment s)
  ask (.saveOffer o)

section

variable [Build]

/-- An operation on the shipment alone. -/
def move (fresh : Fresh) (shipment : ShipmentId) (op : ShipmentOperation) : Work Shipment := do
  let s ← ask (.findShipment shipment)
  let s ← ofExcept (s.after op fresh.shipmentTime)
  saveShipment s
  pure s

def accept (fresh : Fresh) (provider : ProviderId) (shipment : ShipmentId) :
    Work (Shipment × Offer) := do
  let (s, o) ← loadPair provider shipment
  let s ← ofExcept (s.after .accept fresh.shipmentTime)
  let o ← ofExcept (afterwards (o.accept fresh.recordTime))
  savePair s o
  pure (s, o)

/-- Only an awarded shipment can be turned down, though a draft can be
submitted too. -/
def reject (fresh : Fresh) (provider : ProviderId) (shipment : ShipmentId) (reason : String) :
    Work (Shipment × Offer) := do
  let (s, o) ← loadPair provider shipment
  if s.status ≠ .awarded then
    .fail (.invalidTransition Shipment.entity s.id.text "reject" s.status.name)
  else
    let s ← ofExcept (s.after .submit fresh.shipmentTime)
    let o ← ofExcept (afterwards (o.reject reason fresh.recordTime))
    savePair s o
    pure (s, o)

/-- A provider gets one offer of a shipment, whatever came of it. -/
def awardTo (fresh : Fresh) (shipment : ShipmentId) (provider : ProviderId) :
    Work (Shipment × Offer) := do
  let s ← ask (.findShipment shipment)
  let offers ← ask (.findOffers provider shipment)
  if offers ≠ [] then
    .fail (.onField "offer.provider_id"
      s!"provider {provider} already holds an offer for this shipment")
  else
    let s ← ofExcept (s.after .award fresh.shipmentTime)
    let o := Offer.new ⟨fresh.uuid⟩ s.id provider fresh.recordTime
    savePair s o
    pure (s, o)

def survey (fresh : Fresh) (provider : ProviderId) (shipment : ShipmentId) (patch : Survey) :
    Work Shipment := do
  let (s, _) ← loadPair provider shipment
  let s ← ofExcept (s.surveyed patch fresh.shipmentTime)
  saveShipment s
  pure s

end

def addAgent (fresh : Fresh) (shipment : ShipmentId) (request : AgentRequest) : Work Agent := do
  let s ← ask (.findShipment shipment)
  let agent ← ofExcept (Agent.create ⟨fresh.uuid⟩ s.id request fresh.recordTime)
  ask (.saveAgent agent)
  pure agent

def listAgents (shipment : ShipmentId) : Work (List Agent) := do
  let _ ← ask (.findShipment shipment)
  ask (.findAgents shipment)

end Coordinator

/-- The unit of work of a request. -/
def Request.work [Build] (fresh : Fresh) : (r : Request) → Work r.Answer
  | .fetch provider shipment => (·.1) <$> Coordinator.loadPair provider shipment
  | .accept provider shipment => Coordinator.accept fresh provider shipment
  | .reject provider shipment reason => Coordinator.reject fresh provider shipment reason
  | .award shipment => Coordinator.move fresh shipment .award
  | .awardTo shipment provider => Coordinator.awardTo fresh shipment provider
  | .submit shipment => Coordinator.move fresh shipment .submit
  | .survey provider shipment patch => Coordinator.survey fresh provider shipment patch
  | .addAgent shipment request => Coordinator.addAgent fresh shipment request
  | .listAgents shipment => Coordinator.listAgents shipment

/-- The gateway of a request under the coordinator's settings. -/
def CoordinatorSettings.gateway (settings : CoordinatorSettings) (fault : Stage → Option Fault)
    (r : Request) : Gateway :=
  ⟨r.name, settings.timeout, fault⟩

end Relocation
