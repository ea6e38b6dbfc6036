-- Postal addresses. The first street line, the city, the state and the
-- postal code must not be blank.
import Relocation.Report

namespace Relocation

/-- A postal address. -/
structure Address where
  street1 : String
  street2 : Option String
  city : String
  state : String
  postalCode : String
  country : Option String
deriving DecidableEq

namespace Address

/-- The blank ones of the lines that an address needs. -/
def report (a : Address) : Report :=
  (((Report.empty.requirePresent "street_address_1" a.street1).requirePresent "city"
    a.city).requirePresent "state" a.state).requirePresent "postal_code" a.postalCode

instance : Record Address where
  members := [
    .always "street_address_1" .str (·.street1),
    .maybe "street_address_2" .str (·.street2),
    .always "city" .str (·.city),
    .always "state" .str (·.state),
    .always "postal_code" .str (·.postalCode),
    .maybe "country" .str (·.country)]
  build row := do
    let street1 ← row.required "street_address_1" Json.str?
    let street2 ← row.optional "street_address_2" Json.str?
    let city ← row.required "city" Json.str?
    let state ← row.required "state" Json.str?
    let postalCode ← row.required "postal_code" Json.str?
    let country ← row.optional "country" Json.str?
    some { street1, street2, city, state, postalCode, country }

end Address

end Relocation
