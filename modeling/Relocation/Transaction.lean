-- Transactions with optimistic concurrency. A transaction stages its writes
-- and remembers the version of each record that it read from the store. A
-- commit makes all staged writes visible at once, but only if no staged
-- record has moved on since.
import Relocation.Store

namespace Relocation

/-- Staged writes, and the versions first read from the store. -/
structure Transaction where
  shipmentVersions : Table (ShipmentId × Nat) Prod.fst := .empty
  offerVersions : Table (OfferId × Nat) Prod.fst := .empty
  shipments : Table Shipment Shipment.id := .empty
  offers : Table Offer Offer.id := .empty
  agents : List Agent := []

/-! ## Calls -/

/-- What a transaction can be asked. -/
inductive Call where
  | findShipment (id : ShipmentId)
  | findOffers (provider : ProviderId) (shipment : ShipmentId)
  | saveShipment (shipment : Shipment)
  | saveOffer (offer : Offer)
  | saveAgent (agent : Agent)
  | findAgents (shipment : ShipmentId)

/-- What a call gives back. -/
@[reducible] def Call.Reply : Call → Type
  | .findShipment _ => Shipment
  | .findOffers _ _ => List Offer
  | .saveShipment _ => Unit
  | .saveOffer _ => Unit
  | .saveAgent _ => Unit
  | .findAgents _ => List Agent

namespace Transaction

/-- The transaction that has read and staged nothing. -/
def begin : Transaction := {}

/-- The staged shipment, or else the stored one, whose version is remembered. -/
def findShipment (tx : Transaction) (store : Store) (id : ShipmentId) :
    Except Failure (Shipment × Transaction) :=
  match tx.shipments.find? id with
  | some s => .ok (s, tx)
  | none =>
    match store.shipment? id with
    | some s => .ok (s, { tx with shipmentVersions := tx.shipmentVersions.insertNew (id, s.version) })
    | none => .error (.notFound Shipment.entity id.text)

/-- Whether the offer links the provider to the shipment. -/
def links (provider : ProviderId) (shipment : ShipmentId) (o : Offer) : Bool :=
  o.providerId = provider && o.shipmentId = shipment

/-- The stored offers that link the two, whose versions are remembered, with
the staged ones that do in their places or after them. -/
def findOffers (tx : Transaction) (store : Store) (provider : ProviderId)
    (shipment : ShipmentId) : List Offer × Transaction :=
  let stored := store.offers.entries.filter (links provider shipment)
  let staged := tx.offers.entries.filter (links provider shipment)
  let found : Table Offer Offer.id := (Table.empty.insertAll stored).insertAll staged
  (found.entries,
    { tx with
      offerVersions := stored.foldl (fun t o => t.insertNew (o.id, o.version)) tx.offerVersions })

/-- Stages a shipment that violates no constraint. -/
def saveShipment (tx : Transaction) (shipment : Shipment) : Except Failure Transaction := do
  shipment.report.check
  .ok { tx with shipments := tx.shipments.insert shipment }

/-- Stages an offer that violates no constraint. -/
def saveOffer (tx : Transaction) (offer : Offer) : Except Failure Transaction := do
  offer.report.check
  .ok { tx with offers := tx.offers.insert offer }

/-- Stages an agent that violates no constraint. -/
def saveAgent (tx : Transaction) (agent : Agent) : Except Failure Transaction := do
  agent.report.check
  .ok { tx with agents := tx.agents ++ [agent] }

/-- The stored agents of a shipment, and the staged ones after them. -/
def findAgents (tx : Transaction) (store : Store) (shipment : ShipmentId) : List Agent :=
  (store.agents ++ tx.agents).filter fun a => a.shipmentId = shipment

/-- The reply to a call, with the transaction after it. -/
def answer (tx : Transaction) (store : Store) : (c : Call) → Except Failure (c.Reply × Transaction)
  | .findShipment id => tx.findShipment store id
  | .findOffers provider shipment => .ok (tx.findOffers store provider shipment)
  | .saveShipment shipment => (tx.saveShipment shipment).map fun tx => ((), tx)
  | .saveOffer offer => (tx.saveOffer offer).map fun tx => ((), tx)
  | .saveAgent agent => (tx.saveAgent agent).map fun tx => ((), tx)
  | .findAgents shipment => .ok (tx.findAgents store shipment, tx)

/-! ## Commits -/

/-- Why a staged record may not be written, given the version that was read
and the version that is stored. -/
def obstacle (id : String) : (read stored : Option Nat) → Option Failure
  | some expected, some actual =>
    if expected = actual then none else some (.conflict id expected actual)
  | some _, none => some (.storage s!"record {id} was removed during the transaction" true)
  | none, some _ => some (.storage s!"record {id} already exists" false)
  | none, none => none

def shipmentObstacle (tx : Transaction) (store : Store) (s : Shipment) : Option Failure :=
  obstacle s.id.text ((tx.shipmentVersions.find? s.id).map (·.2))
    ((store.shipment? s.id).map (·.version))

def offerObstacle (tx : Transaction) (store : Store) (o : Offer) : Option Failure :=
  obstacle o.id.text ((tx.offerVersions.find? o.id).map (·.2))
    ((store.offer? o.id).map (·.version))

def agentObstacle (store : Store) (a : Agent) : Option Failure :=
  obstacle a.id.text none ((store.agents.find? fun b => b.id = a.id).map fun _ => 0)

/-- The first staged record that may not be written: shipments are looked at
first, then offers, then agents. -/
def firstObstacle (tx : Transaction) (store : Store) : Option Failure :=
  ((tx.shipments.entries.findSome? (tx.shipmentObstacle store)).or
    (tx.offers.entries.findSome? (tx.offerObstacle store))).or
    (tx.agents.findSome? (agentObstacle store))

/-- The store with all staged writes. -/
def apply (tx : Transaction) (store : Store) : Store :=
  { store with
    shipments := store.shipments.insertAll tx.shipments.entries
    offers := store.offers.insertAll tx.offers.entries
    agents := store.agents ++ tx.agents }

/-- Writes everything that is staged, or nothing. A failure that was set for
this commit comes before all else and is used up. -/
def commit (tx : Transaction) (store : Store) : Except Failure Unit × Store :=
  match store.nextFailure with
  | some message => (.error (.storage message true), { store with nextFailure := none })
  | none =>
    match tx.firstObstacle store with
    | some failure => (.error failure, store)
    | none => (.ok (), tx.apply store)

end Transaction

end Relocation
