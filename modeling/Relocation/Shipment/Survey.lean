-- The survey that a provider makes before a move. The same type serves as a
-- patch: applied to a survey, it replaces what it has a value for.
import Relocation.Json.Record
import Relocation.Quantity
import Relocation.Time.DateText

namespace Relocation

/-- How a survey is made. -/
inductive SurveyMethod where
  | phone
  | video
deriving DecidableEq

namespace SurveyMethod

def all : List SurveyMethod := [.phone, .video]

def name : SurveyMethod → String
  | .phone => "PHONE"
  | .video => "VIDEO"

def toJson (m : SurveyMethod) : Json := .str m.name

def ofJson? : Json → Option SurveyMethod := Json.literal? (all.map fun m => (m.name, m))

end SurveyMethod

/-- What a survey found. -/
structure Survey where
  packDate : Option Date := none
  pickupDate : Option Date := none
  deliveryDate : Option Date := none
  weight : Option Pounds := none
  proGear : Option Pounds := none
  spouseProGear : Option Pounds := none
  notes : Option String := none
  method : Option SurveyMethod := none
deriving DecidableEq

namespace Survey

/-- The survey with each value that the patch has. -/
def update (s patch : Survey) : Survey where
  packDate := patch.packDate.or s.packDate
  pickupDate := patch.pickupDate.or s.pickupDate
  deliveryDate := patch.deliveryDate.or s.deliveryDate
  weight := patch.weight.or s.weight
  proGear := patch.proGear.or s.proGear
  spouseProGear := patch.spouseProGear.or s.spouseProGear
  notes := patch.notes.or s.notes
  method := patch.method.or s.method

instance : Record Survey where
  members := [
    .maybe "planned_pack_date" Date.toJson (·.packDate),
    .maybe "planned_pickup_date" Date.toJson (·.pickupDate),
    .maybe "planned_delivery_date" Date.toJson (·.deliveryDate),
    .maybe "weight_estimate" Pounds.toJson (·.weight),
    .maybe "progear_weight_estimate" Pounds.toJson (·.proGear),
    .maybe "spouse_progear_weight_estimate" Pounds.toJson (·.spouseProGear),
    .maybe "notes" .str (·.notes),
    .maybe "method" SurveyMethod.toJson (·.method)]
  build row := do
    let packDate ← row.optional "planned_pack_date" Date.ofJson?
    let pickupDate ← row.optional "planned_pickup_date" Date.ofJson?
    let deliveryDate ← row.optional "planned_delivery_date" Date.ofJson?
    let weight ← row.optional "weight_estimate" Pounds.ofJson?
    let proGear ← row.optional "progear_weight_estimate" Pounds.ofJson?
    let spouseProGear ← row.optional "spouse_progear_weight_estimate" Pounds.ofJson?
    let notes ← row.optional "notes" Json.str?
    let method ← row.optional "method" SurveyMethod.ofJson?
    some { packDate, pickupDate, deliveryDate, weight, proGear, spouseProGear, notes, method }

end Survey

end Relocation
