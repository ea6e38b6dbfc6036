-- The JSON form of a shipment. Its text is the text of that form.
import Relocation.Json.Printer
import Relocation.Shipment.Basic

namespace Relocation.Shipment

instance : Record Shipment where
  members := [
    .always "id" Id.toJson (·.id),
    .always "move_id" Id.toJson (·.moveId),
    .maybe "traffic_distribution_list_id" Id.toJson (·.distributionListId),
    .always "status" ShipmentStatus.toJson (·.status),
    .always "version" Json.ofNat (·.version),
    .always "created_at" Timestamp.toJson (·.createdAt),
    .always "updated_at" Timestamp.toJson (·.updatedAt),
    .maybe "requested_pickup_date" Date.toJson (·.requestedPickupDate),
    .maybe "pickup_date" Date.toJson (·.pickupDate),
    .maybe "delivery_date" Date.toJson (·.deliveryDate),
    .maybe "book_date" Date.toJson (·.bookDate),
    .maybe "estimated_pack_days" .int (·.packDays),
    .maybe "estimated_transit_days" .int (·.transitDays),
    .maybe "weight_estimate" Pounds.toJson (·.weightEstimate),
    .maybe "progear_weight_estimate" Pounds.toJson (·.proGearEstimate),
    .maybe "spouse_progear_weight_estimate" Pounds.toJson (·.spouseProGearEstimate),
    .maybe "actual_weight" Pounds.toJson (·.actualWeight),
    .always "pm_survey" Record.toJson (·.survey),
    .maybe "pickup_address" Record.toJson (·.pickupAddress),
    .always "has_secondary_pickup_address" .bool (·.secondaryPickup.expected),
    .maybe "secondary_pickup_address" Record.toJson (·.secondaryPickup.address),
    .always "has_delivery_address" .bool (·.delivery.expected),
    .maybe "delivery_address" Record.toJson (·.delivery.address),
    .always "has_partial_sit_delivery_address" .bool (·.partialSitDelivery.expected),
    .maybe "partial_sit_delivery_address" Record.toJson (·.partialSitDelivery.address)]
  build row := do
    let id ← row.required "id" Id.ofJson?
    let moveId ← row.required "move_id" Id.ofJson?
    let distributionListId ← row.optional "traffic_distribution_list_id" Id.ofJson?
    let status ← row.required "status" ShipmentStatus.ofJson?
    let version ← row.required "version" Json.nat64?
    let createdAt ← row.required "created_at" Timestamp.ofJson?
    let updatedAt ← row.required "updated_at" Timestamp.ofJson?
    let requestedPickupDate ← row.optional "requested_pickup_date" Date.ofJson?
    let pickupDate ← row.optional "pickup_date" Date.ofJson?
    let deliveryDate ← row.optional "delivery_date" Date.ofJson?
    let bookDate ← row.optional "book_date" Date.ofJson?
    let packDays ← row.optional "estimated_pack_days" Json.int64?
    let transitDays ← row.optional "estimated_transit_days" Json.int64?
    let weightEstimate ← row.optional "weight_estimate" Pounds.ofJson?
    let proGearEstimate ← row.optional "progear_weight_estimate" Pounds.ofJson?
    let spouseProGearEstimate ← row.optional "spouse_progear_weight_estimate" Pounds.ofJson?
    let actualWeight ← row.optional "actual_weight" Pounds.ofJson?
    let survey ← row.required "pm_survey" Record.ofJson?
    let pickupAddress ← row.optional "pickup_address" Record.ofJson?
    let secondaryExpected ← row.required "has_secondary_pickup_address" Json.bool?
    let secondaryAddress ← row.optional "secondary_pickup_address" Record.ofJson?
    let deliveryExpected ← row.required "has_delivery_address" Json.bool?
    let deliveryAddress ← row.optional "delivery_address" Record.ofJson?
    let partialExpected ← row.required "has_partial_sit_delivery_address" Json.bool?
    let partialAddress ← row.optional "partial_sit_delivery_address" Record.ofJson?
    some {
      id, moveId, distributionListId, status, version, createdAt, updatedAt,
      requestedPickupDate, pickupDate, deliveryDate, bookDate, packDays, transitDays,
      weightEstimate, proGearEstimate, spouseProGearEstimate, actualWeight, survey,
      pickupAddress
      secondaryPickup := ⟨secondaryExpected, secondaryAddress⟩
      delivery := ⟨deliveryExpected, deliveryAddress⟩
      partialSitDelivery := ⟨partialExpected, partialAddress⟩ }

/-- The text of a shipment, which is that of its JSON form. -/
def text (s : Shipment) : String := (Record.toJson s).render

instance : ToString Shipment := ⟨text⟩

end Relocation.Shipment
