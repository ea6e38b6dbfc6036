-- What may run over a store: the requests of the coordinator, and the office,
-- which moves a shipment on once a provider has taken it. Each task that
-- commits has an effect on the store, told here without its transaction.
import Relocation.Proofs.Later

namespace Relocation

/-! ## The office -/

/-- What the office does with a shipment that a provider has taken. -/
inductive Advance where
  | approve
  | begin
  | deliver
  | complete
deriving DecidableEq

def Advance.operation : Advance → ShipmentOperation
  | .approve => .approve
  | .begin => .begin
  | .deliver => .deliver
  | .complete => .complete

/-- The shipment after steps of the office, each at its time. -/
def Shipment.advance (s : Shipment) (steps : List (Advance × Timestamp)) :
    Except Failure Shipment :=
  steps.foldlM (fun s step => s.after step.1.operation step.2) s

/-- The office loads a shipment, moves it on and saves it. -/
def Office.advance (x : ShipmentId) (steps : List (Advance × Timestamp)) : Work Shipment :=
  Coordinator.changeShipment (fun s => Work.ask (.saveShipment s)) x fun s => s.advance steps

/-! ## Tasks -/

/-- A unit of work of the coordinator or of the office, with its gateway. -/
inductive Task where
  | request (gateway : Gateway) (fresh : Fresh) (r : Request)
  | advance (gateway : Gateway) (shipment : ShipmentId) (steps : List (Advance × Timestamp))

namespace Task

@[reducible] def Answer : Task → Type
  | .request _ _ r => r.Answer
  | .advance _ _ _ => Shipment

def gateway : Task → Gateway
  | .request g _ _ => g
  | .advance g _ _ => g

def work : (t : Task) → Work t.Answer
  | .request _ fresh r => r.work fresh
  | .advance _ x steps => Office.advance x steps

end Task

/-! ## What becomes of records -/

/-- The provider has taken the shipment. -/
def ShipmentStatus.isTaken : ShipmentStatus → Bool
  | .draft | .submitted | .awarded => false
  | .accepted | .approved | .inTransit | .delivered | .completed => true

/-- The office only moves on what is taken. -/
theorem taken_of_starts (step : Advance) :
    ∀ status ∈ step.operation.starts, status.isTaken = true := by
  cases step <;> decide

theorem taken_of_target (step : Advance) : step.operation.target.isTaken = true := by
  cases step <;> rfl

/-- The shipment is the same, or it has a higher version. Either way nothing
was taken or given back. -/
structure Shipment.Onward (s s' : Shipment) : Prop where
  id : s'.id = s.id
  version : s' = s ∨ s.version < s'.version
  taken : s'.status.isTaken = s.status.isTaken
  status : s.status.isTaken = false → s'.status = s.status

theorem Shipment.onward_advance {s s' : Shipment} {steps : List (Advance × Timestamp)}
    (h : s.advance steps = .ok s') : s.Onward s' := by
  induction steps generalizing s with
  | nil =>
    obtain rfl : s = s' := by simpa [advance, pure, Except.pure] using h
    exact ⟨rfl, .inl rfl, rfl, fun _ => rfl⟩
  | cons step steps ih =>
    unfold advance at h ih
    rw [List.foldlM_cons] at h
    obtain ⟨t, ht, hrest⟩ := bind_eq_ok.mp h
    obtain ⟨hallowed, hstatus, hid, hversion⟩ := moved_of_after ht
    obtain ⟨hid', hversion', htaken', -⟩ := ih hrest
    have hbefore : s.status.isTaken = true := taken_of_starts step.1 _ hallowed
    refine ⟨hid'.trans hid, .inr ?_, ?_, fun hopen => ?_⟩
    · rcases hversion' with rfl | hlt
      · omega
      · omega
    · rw [htaken', hstatus, hbefore]
      exact taken_of_target step.1
    · rw [hbefore] at hopen
      cases hopen

/-- What an answer makes of an offer. -/
structure Offer.Answered (o : Offer) (flag : Bool) (o' : Offer) : Prop where
  pending : o.accepted = none
  accepted : o'.accepted = some flag
  id : o'.id = o.id
  shipmentId : o'.shipmentId = o.shipmentId
  providerId : o'.providerId = o.providerId
  version : o'.version = o.version + 1

theorem Offer.answered_of_answer {o o' : Offer} {op : OfferOperation} {reason : Option String}
    {now : Timestamp} (h : afterwards (o.answer op reason now) = .ok o') :
    o.Answered (op = .accept) o' := by
  obtain ⟨hpending, hnext, rfl⟩ := afterwards_answer_eq_ok.mp h
  refine ⟨accepted_of_pending hpending, ?_, rfl, rfl, rfl, Version.succ_eq_of_hasNext hnext⟩
  cases op <;> rfl

/-- What an answer makes of an awarded shipment and its offer. -/
structure PairAnswered (s : Shipment) (o : Offer) (op : ShipmentOperation) (flag : Bool)
    (s' : Shipment) (o' : Offer) : Prop where
  awarded : s.status = .awarded
  shipment : s.Moved op s'
  offer : o.Answered flag o'

namespace Coordinator

variable {fresh : Fresh} {s s' : Shipment} {o o' : Offer}

theorem of_acceptPair (h : acceptPair fresh s o = .ok (s', o')) :
    PairAnswered s o .accept true s' o' := by
  unfold acceptPair at h
  obtain ⟨t, ht, hrest⟩ := bind_eq_ok.mp h
  obtain ⟨u, hu, hpair⟩ := bind_eq_ok.mp hrest
  obtain ⟨rfl, rfl⟩ := Prod.mk.inj (Except.ok.inj hpair)
  have hmoved := Shipment.moved_of_after ht
  refine ⟨?_, hmoved, Offer.answered_of_answer hu⟩
  simpa [ShipmentOperation.starts] using hmoved.allowed

theorem of_rejectPair {reason : String} (h : rejectPair fresh reason s o = .ok (s', o')) :
    PairAnswered s o .submit false s' o' := by
  unfold rejectPair at h
  split at h
  · cases h
  · rename_i hawarded
    obtain ⟨t, ht, hrest⟩ := bind_eq_ok.mp h
    obtain ⟨u, hu, hpair⟩ := bind_eq_ok.mp hrest
    obtain ⟨rfl, rfl⟩ := Prod.mk.inj (Except.ok.inj hpair)
    exact ⟨Decidable.not_not.mp hawarded, Shipment.moved_of_after ht,
      Offer.answered_of_answer hu⟩

end Coordinator

/-! ## The effect of a task -/

/-- What a request does that commits, from the store before it. -/
def Request.Effect (fresh : Fresh) (S S' : Store) : (r : Request) → r.Answer → Prop
  | .fetch _ _, _ => S' = S
  | .accept p x, (s', o') => ∃ s o, S.shipment? x = some s ∧ S.linked p x = [o] ∧
      Coordinator.acceptPair fresh s o = .ok (s', o') ∧ S' = (S.putShipment s').putOffer o'
  | .reject p x reason, (s', o') => ∃ s o, S.shipment? x = some s ∧ S.linked p x = [o] ∧
      Coordinator.rejectPair fresh reason s o = .ok (s', o') ∧
      S' = (S.putShipment s').putOffer o'
  | .award x, s' => ∃ s, S.shipment? x = some s ∧
      s.after .award fresh.shipmentTime = .ok s' ∧ S' = S.putShipment s'
  | .awardTo x p, (s', o') => ∃ s, S.shipment? x = some s ∧ S.linked p x = [] ∧
      s.after .award fresh.shipmentTime = .ok s' ∧
      o' = Offer.new ⟨fresh.uuid⟩ x p fresh.recordTime ∧ S.offer? o'.id = none ∧
      S' = (S.putShipment s').putOffer o'
  | .submit x, s' => ∃ s, S.shipment? x = some s ∧
      s.after .submit fresh.shipmentTime = .ok s' ∧ S' = S.putShipment s'
  | .survey p x patch, s' => ∃ s o, S.shipment? x = some s ∧ S.linked p x = [o] ∧
      s.surveyed patch fresh.shipmentTime = .ok s' ∧ S' = S.putShipment s'
  | .addAgent x _, a => (∃ s, S.shipment? x = some s) ∧ (∀ b ∈ S.agents, b.id ≠ a.id) ∧
      S' = { S with agents := S.agents ++ [a] }
  | .listAgents _, _ => S' = S

/-- What a task does that commits, from the store before it. -/
def Task.Effect (S S' : Store) : (t : Task) → t.Answer → Prop
  | .request _ fresh r, a => r.Effect fresh S S' a
  | .advance _ x steps, s' => ∃ s, S.shipment? x = some s ∧ s.advance steps = .ok s' ∧
      S' = S.putShipment s'

end Relocation
