-- The days of a move: packing before the pickup, the pickup, the transit,
-- and the delivery after it. Each window starts where the one before ends.
import Relocation.Entitlement
import Relocation.Shipment.Basic
import Relocation.Walk

namespace Relocation

/-! ## Windows and orders -/

/-- The windows of one move. -/
structure MoveDates where
  pack : List Date
  pickup : List Date
  transit : List Date
  delivery : List Date
  report : List Date
deriving DecidableEq

instance : Record MoveDates where
  members := [
    .always "pack_days" (.ofList Date.toJson) (·.pack),
    .always "pickup_days" (.ofList Date.toJson) (·.pickup),
    .always "transit_days" (.ofList Date.toJson) (·.transit),
    .always "delivery_days" (.ofList Date.toJson) (·.delivery),
    .always "report_days" (.ofList Date.toJson) (·.report)]
  build row := do
    let pack ← row.required "pack_days" (Json.list? Date.ofJson?)
    let pickup ← row.required "pickup_days" (Json.list? Date.ofJson?)
    let transit ← row.required "transit_days" (Json.list? Date.ofJson?)
    let delivery ← row.required "delivery_days" (Json.list? Date.ofJson?)
    let report ← row.required "report_days" (Json.list? Date.ofJson?)
    some { pack, pickup, transit, delivery, report }

/-- What a schedule needs to know of the orders for a move. -/
structure Orders where
  rank : Rank
  hasDependents : Bool
  spouseHasProGear : Bool
  reportBy : Date
deriving DecidableEq

instance : Record Orders where
  members := [
    .always "rank" Rank.toJson (·.rank),
    .always "has_dependents" .bool (·.hasDependents),
    .always "spouse_has_pro_gear" .bool (·.spouseHasProGear),
    .always "report_by_date" Date.toJson (·.reportBy)]
  build row := do
    let rank ← row.required "rank" Rank.ofJson?
    let hasDependents ← row.required "has_dependents" Json.bool?
    let spouseHasProGear ← row.required "spouse_has_pro_gear" Json.bool?
    let reportBy ← row.required "report_by_date" Date.ofJson?
    some { rank, hasDependents, spouseHasProGear, reportBy }

/-! ## Schedulers -/

/-- A calendar and entitlements, with the limit of each walk. -/
structure Scheduler where
  calendar : Calendar
  entitlements : Entitlements
  limit : Nat := defaultLimit

namespace Scheduler

/-- The first `count` workdays, or days of any kind, from `start` on. -/
def forward (s : Scheduler) (start : Date) (count : Nat) (anyDay : Bool) :
    Except Failure (List Date) :=
  s.calendar.walk start .forward count anyDay s.limit

/-- The last `count` workdays, or days of any kind, up to `start`. -/
def backward (s : Scheduler) (start : Date) (count : Nat) (anyDay : Bool) :
    Except Failure (List Date) :=
  s.calendar.walk start .backward count anyDay s.limit

/-- The next day in the direction, or why there is none. -/
def step (dir : Direction) (d : Date) : Except Failure Date :=
  match dir.next? d with
  | some e => .ok e
  | none => .error (.noWorkday d 0)

/-- The windows of a move around `anchor`. Without transit days, delivery
starts where the transit would have. -/
def windows (s : Scheduler) (anchor : Date) (packCount transitCount : Nat) (report : List Date) :
    Except Failure MoveDates := do
  let beforePickup ← step .backward anchor
  let pack ← s.backward beforePickup packCount false
  let pickup ← s.forward anchor 1 false
  let departure ← step .forward (pickup.getLast?.getD anchor)
  let transit ← s.forward departure transitCount true
  let arrival ← match transit.getLast? with
    | some d => step .forward d
    | none => .ok departure
  let delivery ← s.forward arrival 1 false
  .ok { pack, pickup, transit, delivery, report }

/-- The windows of a move of a weight over a distance. -/
def forWeight (s : Scheduler) (weight : Pounds) (distance : Miles) (moveDate reportBy : Date) :
    Except Failure MoveDates := do
  let transitCount ← s.entitlements.transitDays weight distance
  s.windows moveDate (s.entitlements.packDays weight) transitCount [reportBy]

/-- The windows of a move under orders. -/
def forOrders (s : Scheduler) (orders : Orders) (distance : Miles) (moveDate : Date) :
    Except Failure MoveDates :=
  s.forWeight (s.entitlements.weight orders.rank orders.hasDependents orders.spouseHasProGear)
    distance moveDate orders.reportBy

/-! ## From a shipment -/

/-- A field that the schedule needs of a shipment. -/
def need {α : Type} (shipment : Shipment) (field : String) : Option α → Except Failure α
  | some a => .ok a
  | none => .error (.missingField Shipment.entity shipment.id.text field)

/-- Reports more days than a walk may take. -/
def requireWithin (limit : Nat) (r : Report) (field : String) (days : Int) : Report :=
  if limit < days then
    r.add field (toString days ++ " is more than " ++ toString limit ++ " days")
  else r

/-- The windows that a shipment's own date and estimates give. Estimates that
are negative or above the limit are reported together. -/
def forShipment (s : Scheduler) (shipment : Shipment) : Except Failure MoveDates := do
  let anchor ← need shipment "requested_pickup_date" shipment.requestedPickupDate
  let packCount ← need shipment "estimated_pack_days" shipment.packDays
  let transitCount ← need shipment "estimated_transit_days" shipment.transitDays
  let r := Report.empty.requireNonNegative "estimated_pack_days" (some packCount)
  let r := r.requireNonNegative "estimated_transit_days" (some transitCount)
  let r := requireWithin s.limit r "estimated_pack_days" packCount
  let r := requireWithin s.limit r "estimated_transit_days" transitCount
  r.check
  s.windows anchor packCount.toNat transitCount.toNat []

end Scheduler

end Relocation
