-- Offers: the record that a shipment was awarded to a provider. The provider
-- answers once, and a rejection comes with its reason.
import Relocation.Id
import Relocation.Machine
import Relocation.Version

namespace Relocation

/-! ## States and answers -/

inductive OfferState where
  | pending
  | accepted
  | rejected
deriving DecidableEq

namespace OfferState

def all : List OfferState := [.pending, .accepted, .rejected]

/-- The literal that stands for the state. -/
def name : OfferState → String
  | .pending => "PENDING"
  | .accepted => "ACCEPTED"
  | .rejected => "REJECTED"

/-- The state that the flag of an offer stands for. -/
def ofFlag : Option Bool → OfferState
  | none => .pending
  | some true => .accepted
  | some false => .rejected

/-- The flag that stands for the state. -/
def toFlag : OfferState → Option Bool
  | .pending => none
  | .accepted => some true
  | .rejected => some false

@[simp] theorem ofFlag_toFlag (s : OfferState) : ofFlag s.toFlag = s := by cases s <;> rfl

def toJson (s : OfferState) : Json := .str s.name

def ofJson? : Json → Option OfferState := Json.literal? (all.map fun s => (s.name, s))

end OfferState

/-- What a provider may answer. -/
inductive OfferOperation where
  | accept
  | reject
deriving DecidableEq

def OfferOperation.name : OfferOperation → String
  | .accept => "accept"
  | .reject => "reject"

/-- Only a pending offer takes an answer. -/
def OfferState.machine : Machine OfferState OfferOperation where
  states := OfferState.all
  operations := [.accept, .reject]
  stateName := OfferState.name
  operationName := OfferOperation.name
  isTerminal s := s ≠ .pending
  starts _ := [.pending]
  target
    | .accept => .accepted
    | .reject => .rejected

/-! ## The record -/

/-- A shipment awarded to a provider, and the answer, if there is one. -/
structure Offer where
  id : OfferId
  shipmentId : ShipmentId
  providerId : ProviderId
  accepted : Option Bool := none
  rejectionReason : Option String := none
  version : Nat := 0
  createdAt : Timestamp
  updatedAt : Timestamp
deriving DecidableEq

namespace Offer

/-- The name of the record in failures. -/
def entity : String := "ShipmentOffer"

/-- An offer without an answer. -/
def new (id : OfferId) (shipmentId : ShipmentId) (providerId : ProviderId) (now : Timestamp) :
    Offer :=
  { id, shipmentId, providerId, createdAt := now, updatedAt := now }

def state (o : Offer) : OfferState := .ofFlag o.accepted

/-! ## Answers -/

/-- A pending offer has no flag. -/
theorem accepted_of_pending {o : Offer} (h : o.state = .pending) : o.accepted = none := by
  unfold state at h
  rcases ha : o.accepted with _ | _ | _
  · rfl
  · rw [ha] at h
    cases h
  · rw [ha] at h
    cases h

theorem permits_of_pending {o : Offer} (h : o.state = .pending) (op : OfferOperation) :
    OfferState.machine.permits op o.state = true := by
  rw [h]
  cases op <;> rfl

section

variable [Build]

/-- Counts the version up. -/
def bump (o : Offer) : Except Failure Unit × Offer :=
  match Version.next o.version with
  | .ok version => (.ok (), { o with version })
  | .error failure => (.error failure, o)

/-- The answer as a flag and what goes with it, with the change it makes. -/
def transition (o : Offer) (op : OfferOperation) (now : Timestamp) :
    Except Failure (Change OfferState) × Offer :=
  match OfferState.machine.perform entity o.id.text o.state op now with
  | (.error failure, _) => (.error failure, o)
  | (.ok change, state) =>
    match bump { o with accepted := state.toFlag, updatedAt := change.time } with
    | (.error failure, o) => (.error failure, o)
    | (.ok _, o) => (.ok change, o)

/-- An answer in place with the reason given, with the change it makes. -/
def answer (o : Offer) (op : OfferOperation) (reason : Option String) (now : Timestamp) :
    Except Failure (Change OfferState) × Offer :=
  match o.transition op now with
  | (.error failure, o) => (.error failure, o)
  | (.ok change, o) => (.ok change, { o with rejectionReason := reason })

/-- The provider takes the shipment. -/
def accept (o : Offer) (now : Timestamp) : Except Failure (Change OfferState) × Offer :=
  o.answer .accept none now

/-- The provider turns the shipment down. -/
def reject (o : Offer) (reason : String) (now : Timestamp) :
    Except Failure (Change OfferState) × Offer :=
  o.answer .reject (some reason) now

/-! ### Outcomes of answers -/

variable {o o' : Offer} {op : OfferOperation} {reason : Option String} {now : Timestamp}

/-- An offer that is not pending takes no answer, and stays as it is. -/
theorem answer_of_not_pending (h : o.state ≠ .pending) : o.answer op reason now =
    (.error (.invalidTransition entity o.id.text op.name o.state.name), o) := by
  have hrefused : ¬ OfferState.machine.permits op o.state = true := by
    simp [Machine.permits, OfferState.machine, h]
  unfold answer transition
  rw [Machine.perform_of_not_permits _ hrefused]
  rfl

/-- A pending offer takes an answer, and this is all that changes. -/
theorem answer_of_pending (h : o.state = .pending) (hnext : Version.HasNext o.version) :
    o.answer op reason now =
      (.ok ⟨o.state, OfferState.machine.target op, op.name, now⟩, { o with
        accepted := (OfferState.machine.target op).toFlag
        rejectionReason := reason
        version := (o.version + 1) % Version.count
        updatedAt := now }) := by
  unfold answer transition bump
  rw [Machine.perform_of_permits _ (permits_of_pending h op)]
  simp only [Version.next_of_hasNext hnext]
  rfl

/-- If the version cannot be counted up, the flag is that of the answer when that shows. -/
theorem answer_of_overflow (h : o.state = .pending) (hlast : ¬ Version.HasNext o.version) :
    o.answer op reason now = (.error .overflow, { o with
      accepted := (OfferState.machine.target op).toFlag
      updatedAt := now }) := by
  unfold answer transition bump
  rw [Machine.perform_of_permits _ (permits_of_pending h op)]
  simp only [Version.next_of_not_hasNext hlast]

/-- The offer that an answer makes. -/
theorem afterwards_answer_eq_ok : afterwards (o.answer op reason now) = .ok o' ↔
    o.state = .pending ∧ Version.HasNext o.version ∧ o' = { o with
      accepted := (OfferState.machine.target op).toFlag
      rejectionReason := reason
      version := (o.version + 1) % Version.count
      updatedAt := now } := by
  by_cases hpending : o.state = .pending
  · by_cases hnext : Version.HasNext o.version
    · simp [answer_of_pending hpending hnext, afterwards, hpending, hnext, eq_comm]
    · simp [answer_of_overflow hpending hnext, afterwards, hnext]
  · simp [answer_of_not_pending hpending, afterwards, hpending]

end

/-! ## Constraints -/

/-- A rejection has a reason that is not blank, and nothing else has one. -/
def report (o : Offer) : Report :=
  match o.accepted, o.rejectionReason with
  | some false, none => Report.empty.add "rejection_reason" "can not be blank"
  | some false, some reason => Report.empty.requirePresent "rejection_reason" reason
  | _, some _ => Report.empty.add "rejection_reason" "is only allowed on a rejected offer"
  | _, none => Report.empty

/-- Where nothing is reported, the rejected offers are those with a reason, and
no reason is blank. -/
theorem report_isEmpty_iff (o : Offer) :
    o.report.isEmpty = true ↔ (o.rejectionReason.isSome ↔ o.state = .rejected) ∧
      ∀ reason, o.rejectionReason = some reason → Text.blank reason = false := by
  unfold report state
  rcases o.accepted with _ | _ | _ <;> rcases o.rejectionReason with _ | reason <;>
    simp [OfferState.ofFlag]

/-! ## JSON -/

instance : Record Offer where
  members := [
    .always "id" Id.toJson (·.id),
    .always "shipment_id" Id.toJson (·.shipmentId),
    .always "provider_id" Id.toJson (·.providerId),
    .maybe "accepted" .bool (·.accepted),
    .maybe "rejection_reason" .str (·.rejectionReason),
    .always "version" Json.ofNat (·.version),
    .always "created_at" Timestamp.toJson (·.createdAt),
    .always "updated_at" Timestamp.toJson (·.updatedAt)]
  build row := do
    let id ← row.required "id" Id.ofJson?
    let shipmentId ← row.required "shipment_id" Id.ofJson?
    let providerId ← row.required "provider_id" Id.ofJson?
    let accepted ← row.optional "accepted" Json.bool?
    let rejectionReason ← row.optional "rejection_reason" Json.str?
    let version ← row.required "version" Json.nat64?
    let createdAt ← row.required "created_at" Timestamp.ofJson?
    let updatedAt ← row.required "updated_at" Timestamp.ofJson?
    some {
      id, shipmentId, providerId, accepted, rejectionReason, version, createdAt, updatedAt }

end Offer

end Relocation
