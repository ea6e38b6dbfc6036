-- The committed records: shipments, offers and agents, each in the order in
-- which they were first stored.
import Relocation.Agent
import Relocation.Offer
import Relocation.Shipment.Basic
import Relocation.Table

namespace Relocation

/-- What is committed, and the failure that the next commit meets, if any. -/
structure Store where
  shipments : Table Shipment Shipment.id := .empty
  offers : Table Offer Offer.id := .empty
  agents : List Agent := []
  nextFailure : Option String := none

namespace Store

/-! ## Writing outside a transaction -/

/-- Stores a shipment, in place of the one with its id. -/
def putShipment (s : Store) (shipment : Shipment) : Store :=
  { s with shipments := s.shipments.insert shipment }

/-- Stores an offer, in place of the one with its id. -/
def putOffer (s : Store) (offer : Offer) : Store := { s with offers := s.offers.insert offer }

/-- Makes the next commit fail with the message. -/
def failNextCommit (s : Store) (message : String) : Store := { s with nextFailure := some message }

/-! ## Reading -/

def shipment? (s : Store) (id : ShipmentId) : Option Shipment := s.shipments.find? id

def offer? (s : Store) (id : OfferId) : Option Offer := s.offers.find? id

/-- The offers of a shipment, oldest first. -/
def offersOf (s : Store) (id : ShipmentId) : List Offer :=
  s.offers.entries.filter fun o => o.shipmentId = id

/-- The agents of a shipment, oldest first. -/
def agentsOf (s : Store) (id : ShipmentId) : List Agent :=
  s.agents.filter fun a => a.shipmentId = id

end Store

end Relocation
