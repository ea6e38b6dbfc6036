-- Where a shipment is in its life, and the operations that move it on.
import Relocation.Machine
import Relocation.Text.Quoted

namespace Relocation

/-! ## Statuses -/

inductive ShipmentStatus where
  /-- The owner is still preparing it. -/
  | draft
  /-- It waits to be awarded to a provider. -/
  | submitted
  /-- It is offered to a provider who has not answered. -/
  | awarded
  /-- The provider took it. -/
  | accepted
  /-- It is cleared to move. -/
  | approved
  /-- The goods are on the road. -/
  | inTransit
  /-- The goods have arrived. -/
  | delivered
  /-- The paperwork is done. -/
  | completed
deriving DecidableEq

namespace ShipmentStatus

/-- The statuses, in the order of a shipment's life. -/
def all : List ShipmentStatus :=
  [.draft, .submitted, .awarded, .accepted, .approved, .inTransit, .delivered, .completed]

instance : Inhabited ShipmentStatus := ⟨.draft⟩

/-- The literal that stands for the status. -/
def name : ShipmentStatus → String
  | .draft => "DRAFT"
  | .submitted => "SUBMITTED"
  | .awarded => "AWARDED"
  | .accepted => "ACCEPTED"
  | .approved => "APPROVED"
  | .inTransit => "IN_TRANSIT"
  | .delivered => "DELIVERED"
  | .completed => "COMPLETED"

instance : ToString ShipmentStatus := ⟨name⟩

/-- The place of the status in the order of a shipment's life. -/
def rank : ShipmentStatus → Nat
  | .draft => 0
  | .submitted => 1
  | .awarded => 2
  | .accepted => 3
  | .approved => 4
  | .inTransit => 5
  | .delivered => 6
  | .completed => 7

instance : Ord ShipmentStatus := ⟨fun a b => compare a.rank b.rank⟩

/-- Whether a provider has the shipment on offer or has taken it. -/
def isOffered (s : ShipmentStatus) : Bool := ShipmentStatus.awarded.rank ≤ s.rank

/-- The status with the literal. -/
def ofName? (s : String) : Option ShipmentStatus := all.find? fun status => status.name = s

/-- The status with the literal, or why there is none. -/
def parse (s : String) : Except Failure ShipmentStatus :=
  match ofName? s with
  | some status => .ok status
  | none => .error (.onField "status" (Text.quoted s ++ " is not a shipment status"))

def toJson (s : ShipmentStatus) : Json := .str s.name

def ofJson? : Json → Option ShipmentStatus := Json.literal? (all.map fun s => (s.name, s))

end ShipmentStatus

/-! ## Operations -/

inductive ShipmentOperation where
  /-- Send it for award, the first time or once more. -/
  | submit
  /-- Offer it to a provider. -/
  | award
  /-- The provider takes it. -/
  | accept
  /-- Clear it to move. -/
  | approve
  /-- The goods are picked up. -/
  | begin
  /-- The goods are dropped off. -/
  | deliver
  /-- Close it. -/
  | complete
deriving DecidableEq

namespace ShipmentOperation

/-- The operations, in the order of a shipment's life. -/
def all : List ShipmentOperation :=
  [.submit, .award, .accept, .approve, .begin, .deliver, .complete]

def name : ShipmentOperation → String
  | .submit => "submit"
  | .award => "award"
  | .accept => "accept"
  | .approve => "approve"
  | .begin => "begin"
  | .deliver => "deliver"
  | .complete => "complete"

/-- The operation with the name. -/
def ofName? (s : String) : Option ShipmentOperation := all.find? fun op => op.name = s

/-- The statuses that an operation may start from. An award that is turned
down is submitted again. -/
def starts : ShipmentOperation → List ShipmentStatus
  | .submit => [.draft, .awarded]
  | .award => [.submitted]
  | .accept => [.awarded]
  | .approve => [.accepted]
  | .begin => [.approved]
  | .deliver => [.inTransit]
  | .complete => [.delivered]

/-- The status that an operation leads to. -/
def target : ShipmentOperation → ShipmentStatus
  | .submit => .submitted
  | .award => .awarded
  | .accept => .accepted
  | .approve => .approved
  | .begin => .inTransit
  | .deliver => .delivered
  | .complete => .completed

end ShipmentOperation

/-- The life of a shipment. -/
def ShipmentStatus.machine : Machine ShipmentStatus ShipmentOperation where
  states := ShipmentStatus.all
  operations := ShipmentOperation.all
  stateName := ShipmentStatus.name
  operationName := ShipmentOperation.name
  isTerminal s := s = .completed
  starts := ShipmentOperation.starts
  target := ShipmentOperation.target

/-- The table alone decides. Nothing starts from the last status anyway. -/
theorem ShipmentStatus.permits_iff {op : ShipmentOperation} {s : ShipmentStatus} :
    ShipmentStatus.machine.permits op s = true ↔ s ∈ op.starts := by
  cases op <;> cases s <;> decide

end Relocation
