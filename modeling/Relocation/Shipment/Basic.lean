-- Shipments and what may be done with them. The status changes only through
-- the operations of its machine. Every operation and every survey counts the
-- version up by one; an operation that is refused changes nothing. A version
-- that cannot be counted up leaves a change half made.
import Relocation.Address
import Relocation.Id
import Relocation.Shipment.Status
import Relocation.Shipment.Survey
import Relocation.Version

namespace Relocation

/-! ## The record -/

/-- A further address of a shipment, and whether one is expected. -/
structure Slot where
  expected : Bool := false
  address : Option Address := none
deriving DecidableEq

namespace Slot

/-- Keeps the address only if one is expected. -/
def set (expected : Bool) (address : Option Address) : Slot :=
  ⟨expected, if expected then address else none⟩

/-- Reports an address that is missing, unexpected or has blank lines. -/
def report (slot : Slot) (field : String) (r : Report) : Report :=
  match slot.expected, slot.address with
  | true, some address => r.merge field address.report
  | true, none => r.add field "is required when flagged as present"
  | false, some _ => r.add field "must be empty when not flagged as present"
  | false, none => r

end Slot

/-- Which of the further addresses. -/
inductive SlotName where
  | secondaryPickup
  | delivery
  | partialSitDelivery
deriving DecidableEq

namespace SlotName

def all : List SlotName := [.secondaryPickup, .delivery, .partialSitDelivery]

def field : SlotName → String
  | .secondaryPickup => "secondary_pickup_address"
  | .delivery => "delivery_address"
  | .partialSitDelivery => "partial_sit_delivery_address"

end SlotName

/-- One shipment of a move. -/
structure Shipment where
  id : ShipmentId
  moveId : MoveId
  distributionListId : Option DistributionListId := none
  status : ShipmentStatus := .draft
  version : Nat := 0
  createdAt : Timestamp
  updatedAt : Timestamp
  requestedPickupDate : Option Date := none
  pickupDate : Option Date := none
  deliveryDate : Option Date := none
  /-- The day on which it was first awarded. -/
  bookDate : Option Date := none
  packDays : Option Int := none
  transitDays : Option Int := none
  weightEstimate : Option Pounds := none
  proGearEstimate : Option Pounds := none
  spouseProGearEstimate : Option Pounds := none
  actualWeight : Option Pounds := none
  survey : Survey := {}
  pickupAddress : Option Address := none
  secondaryPickup : Slot := {}
  delivery : Slot := {}
  partialSitDelivery : Slot := {}
deriving DecidableEq

namespace Shipment

/-- The name of the record in failures. -/
def entity : String := "Shipment"

def slot (s : Shipment) : SlotName → Slot
  | .secondaryPickup => s.secondaryPickup
  | .delivery => s.delivery
  | .partialSitDelivery => s.partialSitDelivery

/-- A draft shipment of a move. -/
def new (id : ShipmentId) (moveId : MoveId) (now : Timestamp) : Shipment :=
  { id, moveId, createdAt := now, updatedAt := now }

/-! ## Changes -/

section

variable [Build]

/-- Counts the version up. -/
def bump (s : Shipment) : Except Failure Unit × Shipment :=
  match Version.next s.version with
  | .ok version => (.ok (), { s with version })
  | .error failure => (.error failure, s)

/-- The operation on the status and what goes with it, with the change it makes. -/
def transition (s : Shipment) (op : ShipmentOperation) (now : Timestamp) :
    Except Failure (Change ShipmentStatus) × Shipment :=
  match ShipmentStatus.machine.perform entity s.id.text s.status op now with
  | (.error failure, status) => (.error failure, { s with status })
  | (.ok change, status) =>
    match bump { s with status, updatedAt := change.time } with
    | (.error failure, s) => (.error failure, s)
    | (.ok _, s) => (.ok change, s)

/-- An operation in place, with the change it makes. The first award sets the day on
which the shipment was booked. -/
def perform (s : Shipment) (op : ShipmentOperation) (now : Timestamp) :
    Except Failure (Change ShipmentStatus) × Shipment :=
  match s.transition op now with
  | (.error failure, s) => (.error failure, s)
  | (.ok change, s) =>
    (.ok change,
      if op = .award then { s with bookDate := s.bookDate.or (some change.time.date) } else s)

/-- The shipment after an operation. -/
def after (s : Shipment) (op : ShipmentOperation) (now : Timestamp) : Except Failure Shipment :=
  afterwards (s.perform op now)

/-- Records what a survey found, in place. -/
def applySurvey (s : Shipment) (patch : Survey) (now : Timestamp) :
    Except Failure Unit × Shipment :=
  bump { s with survey := s.survey.update patch, updatedAt := now }

/-- The shipment after a survey. -/
def surveyed (s : Shipment) (patch : Survey) (now : Timestamp) : Except Failure Shipment :=
  afterwards (s.applySurvey patch now)

end

def setSecondaryPickup (s : Shipment) (expected : Bool) (address : Option Address) : Shipment :=
  { s with secondaryPickup := .set expected address }

def setDelivery (s : Shipment) (expected : Bool) (address : Option Address) : Shipment :=
  { s with delivery := .set expected address }

def setPartialSitDelivery (s : Shipment) (expected : Bool) (address : Option Address) :
    Shipment :=
  { s with partialSitDelivery := .set expected address }

/-! ## Outcomes of changes -/

section

variable [Build] {s s' : Shipment} {op : ShipmentOperation} {patch : Survey} {now : Timestamp}

/-- Outside the statuses of its table an operation is refused, with its name and the status.
It leaves the shipment as it is. -/
theorem perform_of_notMem (h : s.status ∉ op.starts) : s.perform op now =
    (.error (.invalidTransition entity s.id.text op.name s.status.name), s) := by
  have hrefused : ¬ ShipmentStatus.machine.permits op s.status = true :=
    fun hpermits => h (ShipmentStatus.permits_iff.mp hpermits)
  unfold perform transition
  rw [Machine.perform_of_not_permits _ hrefused]
  rfl

/-- From the statuses of its table an operation goes through, and this is all that it changes. -/
theorem perform_of_mem (h : s.status ∈ op.starts) (hnext : Version.HasNext s.version) :
    s.perform op now = (.ok ⟨s.status, op.target, op.name, now⟩, { s with
      status := op.target
      version := (s.version + 1) % Version.count
      updatedAt := now
      bookDate := if op = .award then s.bookDate.or (some now.date) else s.bookDate }) := by
  unfold perform transition bump
  rw [Machine.perform_of_permits _ (ShipmentStatus.permits_iff.mpr h)]
  simp only [Version.next_of_hasNext hnext]
  split <;> rfl

/-- If the version cannot be counted up, an operation that is not refused has moved the
status when that shows. -/
theorem perform_of_overflow (h : s.status ∈ op.starts) (hlast : ¬ Version.HasNext s.version) :
    s.perform op now = (.error .overflow, { s with status := op.target, updatedAt := now }) := by
  unfold perform transition bump
  rw [Machine.perform_of_permits _ (ShipmentStatus.permits_iff.mpr h)]
  simp only [Version.next_of_not_hasNext hlast]
  rfl

theorem after_of_notMem (h : s.status ∉ op.starts) : s.after op now =
    .error (.invalidTransition entity s.id.text op.name s.status.name) := by
  rw [after, perform_of_notMem h]
  rfl

theorem after_of_overflow (h : s.status ∈ op.starts) (hlast : ¬ Version.HasNext s.version) :
    s.after op now = .error .overflow := by
  rw [after, perform_of_overflow h hlast]
  rfl

/-- The shipment that an operation makes. -/
theorem after_eq_ok : s.after op now = .ok s' ↔
    s.status ∈ op.starts ∧ Version.HasNext s.version ∧ s' = { s with
      status := op.target
      version := (s.version + 1) % Version.count
      updatedAt := now
      bookDate := if op = .award then s.bookDate.or (some now.date) else s.bookDate } := by
  by_cases hstarts : s.status ∈ op.starts
  · by_cases hnext : Version.HasNext s.version
    · simp [after, perform_of_mem hstarts hnext, afterwards, hstarts, hnext, eq_comm]
    · simp [after_of_overflow hstarts hnext, hnext]
  · simp [after_of_notMem hstarts, hstarts]

theorem status_after (h : s.after op now = .ok s') : s'.status = op.target := by
  obtain ⟨-, -, rfl⟩ := after_eq_ok.mp h
  rfl

theorem version_after (h : s.after op now = .ok s') :
    s'.version = (s.version + 1) % Version.count := by
  obtain ⟨-, -, rfl⟩ := after_eq_ok.mp h
  rfl

theorem exists_after (h : s.status ∈ op.starts) (hnext : Version.HasNext s.version)
    (now : Timestamp) : ∃ s', s.after op now = .ok s' :=
  ⟨_, after_eq_ok.mpr ⟨h, hnext, rfl⟩⟩

theorem applySurvey_of_hasNext (h : Version.HasNext s.version) : s.applySurvey patch now =
    (.ok (), { s with
      survey := s.survey.update patch
      version := (s.version + 1) % Version.count
      updatedAt := now }) := by
  unfold applySurvey bump
  simp only [Version.next_of_hasNext h]

theorem applySurvey_of_overflow (h : ¬ Version.HasNext s.version) : s.applySurvey patch now =
    (.error .overflow, { s with survey := s.survey.update patch, updatedAt := now }) := by
  unfold applySurvey bump
  simp only [Version.next_of_not_hasNext h]

theorem surveyed_eq_ok : s.surveyed patch now = .ok s' ↔
    Version.HasNext s.version ∧ s' = { s with
      survey := s.survey.update patch
      version := (s.version + 1) % Version.count
      updatedAt := now } := by
  by_cases h : Version.HasNext s.version
  · simp [surveyed, applySurvey_of_hasNext h, afterwards, h, eq_comm]
  · simp [surveyed, applySurvey_of_overflow h, afterwards, h]

end

/-! ### With checks

A version that is counted up is one higher. -/

section

variable {s s' : Shipment} {op : ShipmentOperation} {patch : Survey} {now : Timestamp}

/-- What an operation that goes through does to a shipment. -/
structure Moved (s : Shipment) (op : ShipmentOperation) (s' : Shipment) : Prop where
  allowed : s.status ∈ op.starts
  status : s'.status = op.target
  id : s'.id = s.id
  version : s'.version = s.version + 1

theorem moved_of_after (h : s.after op now = .ok s') : s.Moved op s' := by
  obtain ⟨hstarts, hnext, rfl⟩ := after_eq_ok.mp h
  exact ⟨hstarts, rfl, rfl, Version.succ_eq_of_hasNext hnext⟩

theorem of_surveyed (h : s.surveyed patch now = .ok s') : s' = { s with
    survey := s.survey.update patch
    version := s.version + 1
    updatedAt := now } := by
  obtain ⟨hnext, rfl⟩ := surveyed_eq_ok.mp h
  rw [Version.succ_eq_of_hasNext hnext]

end

/-! ## Constraints -/

/-- The numbers that must not be negative, by field. -/
def amounts (s : Shipment) : List (String × Option Int) :=
  [("estimated_pack_days", s.packDays),
    ("estimated_transit_days", s.transitDays),
    ("weight_estimate", s.weightEstimate.map (·.value)),
    ("progear_weight_estimate", s.proGearEstimate.map (·.value)),
    ("spouse_progear_weight_estimate", s.spouseProGearEstimate.map (·.value)),
    ("actual_weight", s.actualWeight.map (·.value)),
    ("pm_survey_weight_estimate", s.survey.weight.map (·.value)),
    ("pm_survey_progear_weight_estimate", s.survey.proGear.map (·.value)),
    ("pm_survey_spouse_progear_weight_estimate", s.survey.spouseProGear.map (·.value))]

/-- Reports a pickup address with blank lines, or none once the shipment is offered. -/
def reportPickup (s : Shipment) (r : Report) : Report :=
  match s.pickupAddress with
  | some address => r.merge "pickup_address" address.report
  | none =>
    if s.status.isOffered then r.add "pickup_address" "is required once the shipment is offered"
    else r

/-- Every constraint that the shipment violates. -/
def report (s : Shipment) : Report :=
  let r := s.amounts.foldl (fun r e => r.requireNonNegative e.1 e.2) Report.empty
  SlotName.all.foldl (fun r name => (s.slot name).report name.field r) (s.reportPickup r)

end Shipment

end Relocation
