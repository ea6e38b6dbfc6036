-- Everything committed is valid. Whoever makes transactions, and whatever is
-- saved in them, a store that began with valid records holds no others. What
-- a report without messages says of a record is told here, too.
import Relocation.Proofs.Checked
import Relocation.Proofs.Sessions

namespace Relocation

/-! ## What a report without messages says -/

/-- None of the lines that an address needs is blank. -/
structure Address.Complete (a : Address) : Prop where
  street1 : Text.blank a.street1 = false
  city : Text.blank a.city = false
  state : Text.blank a.state = false
  postalCode : Text.blank a.postalCode = false

theorem Address.report_isEmpty_iff (a : Address) : a.report.isEmpty = true ↔ a.Complete := by
  simp only [report, Report.isEmpty_requirePresent, Report.isEmpty_empty, Bool.and_true,
    Bool.and_eq_true, Bool.not_eq_true']
  constructor
  · rintro ⟨hpostalCode, hstate, hcity, hstreet1⟩
    exact ⟨hstreet1, hcity, hstate, hpostalCode⟩
  · intro h
    exact ⟨h.postalCode, h.state, h.city, h.street1⟩

/-- There is an address exactly if one is expected, and it is complete. -/
structure Slot.Valid (slot : Slot) : Prop where
  agrees : slot.expected = slot.address.isSome
  complete : ∀ a, slot.address = some a → a.Complete

theorem Slot.report_isEmpty_iff (slot : Slot) (field : String) (r : Report) :
    (slot.report field r).isEmpty = true ↔ r.isEmpty = true ∧ slot.Valid := by
  have hvalid : slot.Valid ↔ slot.expected = slot.address.isSome ∧
      ∀ a, slot.address = some a → a.Complete :=
    ⟨fun h => ⟨h.agrees, h.complete⟩, fun h => ⟨h.1, h.2⟩⟩
  rw [hvalid]
  unfold Slot.report
  rcases slot.expected with _ | _ <;> rcases slot.address with _ | a <;>
    simp [Address.report_isEmpty_iff]

theorem Report.isEmpty_foldl_requireNonNegative (amounts : List (String × Option Int))
    (r : Report) :
    (amounts.foldl (fun r e => r.requireNonNegative e.1 e.2) r).isEmpty = true ↔
      r.isEmpty = true ∧ ∀ e ∈ amounts, ∀ n, e.2 = some n → 0 ≤ n := by
  induction amounts generalizing r with
  | nil => simp
  | cons e amounts ih =>
    simp only [List.foldl_cons, ih, List.forall_mem_cons, isEmpty_requireNonNegative,
      Bool.and_eq_true, Option.all_eq_true, decide_eq_true_eq, and_assoc, and_left_comm]

/-- No number is negative, every address is complete, and the pickup address
is there once the shipment is offered. -/
structure Shipment.Valid (s : Shipment) : Prop where
  amounts : ∀ e ∈ s.amounts, ∀ n, e.2 = some n → 0 ≤ n
  pickup : ∀ a, s.pickupAddress = some a → a.Complete
  offered : s.status.isOffered = true → s.pickupAddress.isSome = true
  secondaryPickup : s.secondaryPickup.Valid
  delivery : s.delivery.Valid
  partialSitDelivery : s.partialSitDelivery.Valid

namespace Shipment

theorem reportPickup_isEmpty_iff (s : Shipment) (r : Report) :
    (s.reportPickup r).isEmpty = true ↔ r.isEmpty = true ∧
      (∀ a, s.pickupAddress = some a → a.Complete) ∧
      (s.status.isOffered = true → s.pickupAddress.isSome = true) := by
  unfold reportPickup
  rcases s.pickupAddress with _ | a
  · by_cases h : s.status.isOffered = true <;> simp [h]
  · simp [Address.report_isEmpty_iff]

theorem report_isEmpty_iff (s : Shipment) : s.report.isEmpty = true ↔ s.Valid := by
  simp only [report, SlotName.all, List.foldl_cons, List.foldl_nil, slot,
    Slot.report_isEmpty_iff, reportPickup_isEmpty_iff,
    Report.isEmpty_foldl_requireNonNegative, Report.isEmpty_empty, true_and]
  constructor
  · rintro ⟨⟨⟨⟨hamounts, hpickup, hoffered⟩, hsecondary⟩, hdelivery⟩, hpartialSit⟩
    exact ⟨hamounts, hpickup, hoffered, hsecondary, hdelivery, hpartialSit⟩
  · intro h
    exact ⟨⟨⟨⟨h.amounts, h.pickup, h.offered⟩, h.secondaryPickup⟩, h.delivery⟩,
      h.partialSitDelivery⟩

end Shipment

theorem Agent.report_isEmpty_iff (a : Agent) :
    a.report.isEmpty = true ↔ Text.blank a.pointOfContact = false := by
  simp [report]

/-! ## Whole sessions -/

/-- No record in the store violates a constraint. -/
structure Store.Checked (S : Store) : Prop where
  shipments : ∀ s ∈ S.shipments.entries, s.report.isEmpty = true
  offers : ∀ o ∈ S.offers.entries, o.report.isEmpty = true
  agents : ∀ a ∈ S.agents, a.report.isEmpty = true

theorem Store.CheckedSince.checked {start S : Store} (h : start.CheckedSince S)
    (hstart : start.Checked) : S.Checked where
  shipments s hs := (h.shipments s hs).elim (hstart.shipments s) id
  offers o ho := (h.offers o ho).elim (hstart.offers o) id
  agents a ha := (h.agents a ha).elim (hstart.agents a) id

namespace Session

/-- A record that is stored from outside violates no constraint. -/
def Event.SeedsChecked : Event → Prop
  | .seedShipment s => s.report.isEmpty = true
  | .seedOffer o => o.report.isEmpty = true
  | _ => True

instance : DecidablePred Event.SeedsChecked
  | .seedShipment s => inferInstanceAs (Decidable (s.report.isEmpty = true))
  | .seedOffer o => inferInstanceAs (Decidable (o.report.isEmpty = true))
  | .begin _ | .call _ _ | .commit _ | .drop _ | .failNext _ => .isTrue trivial

/-- Every record came with the start or was checked, and so were those that are staged. -/
structure Checked (start : Store) (s : Session) : Prop where
  store : start.CheckedSince s.store
  staged : ∀ n tx, s.transactions n = some tx → tx.Checked

theorem Checked.step {start : Store} {s : Session} (h : s.Checked start) {e : Event}
    (he : e.SeedsChecked) : (s.step e).Checked start where
  store := by
    rcases store_cases s e with hcalm | ⟨n, tx, -, htx, hcommit⟩ | ⟨x, rfl, hx⟩ | ⟨o, rfl, ho⟩
    · exact h.store.of_calm hcalm
    · obtain ⟨-, -, hstore⟩ := Transaction.commit_eq_ok.mp hcommit
      rw [hstore]
      exact h.store.apply (h.staged n tx htx)
    · rw [hx]
      exact h.store.putShipment he
    · rw [ho]
      exact h.store.putOffer he
  staged := by
    intro n tx' htx'
    rcases transaction_cases htx' with hold | ⟨-, rfl⟩ | ⟨tx, c, reply, -, htx, hanswer⟩
    · exact h.staged n tx' hold
    · exact Transaction.checked_begin
    · exact Transaction.checked_answer hanswer (h.staged n tx htx)

theorem checked_run (start : Store) {events : List Event}
    (hevents : ∀ e ∈ events, e.SeedsChecked) : (run start events).Checked start :=
  run_preserves ⟨.refl start, by simp⟩ (fun _ _ he h => h.step he) hevents

/-- However transactions mix, and whatever is saved in them: no record that is
stored violates a constraint. -/
theorem everything_committed_is_valid (start : Store) (hstart : start.Checked)
    (events : List Event) (hevents : ∀ e ∈ events, e.SeedsChecked) :
    (run start events).store.Checked ∧
    (∀ s ∈ (run start events).store.shipments.entries,
      (s.status.isOffered = true → ∃ a, s.pickupAddress = some a ∧ a.Complete) ∧
      s.secondaryPickup.expected = s.secondaryPickup.address.isSome ∧
      s.delivery.expected = s.delivery.address.isSome ∧
      s.partialSitDelivery.expected = s.partialSitDelivery.address.isSome) ∧
    ∀ a ∈ (run start events).store.agents, Text.blank a.pointOfContact = false := by
  have hchecked := (checked_run start hevents).store.checked hstart
  refine ⟨hchecked, fun s hs => ?_, fun a ha => ?_⟩
  · have hvalid := s.report_isEmpty_iff.mp (hchecked.shipments s hs)
    refine ⟨fun hoffered => ?_, hvalid.secondaryPickup.agrees, hvalid.delivery.agrees,
      hvalid.partialSitDelivery.agrees⟩
    obtain ⟨a, ha⟩ := Option.isSome_iff_exists.mp (hvalid.offered hoffered)
    exact ⟨a, ha, hvalid.pickup a ha⟩
  · exact a.report_isEmpty_iff.mp (hchecked.agents a ha)

/-- One transaction awards a shipment and adds an agent, after it tried in vain
to award it without an address. Another tries to add an agent without a name. -/
def sample : List Event :=
  let awarded := { Sample.shipment with status := .awarded }
  let agent : Agent := ⟨⟨Sample.uuid 5⟩, Sample.shipment.id, .origin, "Ann Lee", none, none, none,
    none, none, none, default⟩
  [.seedShipment Sample.shipment, .begin 0, .begin 1, .call 0 (.findShipment Sample.shipment.id),
    .call 0 (.saveShipment { awarded with pickupAddress := none }),
    .call 1 (.saveAgent { agent with pointOfContact := " " }),
    .call 0 (.saveShipment awarded), .call 0 (.saveAgent agent), .commit 1, .commit 0]

theorem an_awarded_shipment_has_an_address :
    (∃ s ∈ (run {} sample).store.shipments.entries, s.status = .awarded ∧
      ∃ a, s.pickupAddress = some a ∧ a.Complete) ∧
    ∃ a ∈ (run {} sample).store.agents, Text.blank a.pointOfContact = false := by
  have hseeds : ∀ e ∈ sample, e.SeedsChecked := by decide
  have hawarded : ∃ s ∈ (run {} sample).store.shipments.entries, s.status = .awarded := by decide
  have hagent : ∃ a ∈ (run {} sample).store.agents, a.role = .origin := by decide
  obtain ⟨-, hshipments, hagents⟩ := everything_committed_is_valid {}
    ⟨fun _ h => absurd h (by simp), fun _ h => absurd h (by simp), fun _ h => absurd h (by simp)⟩
    sample hseeds
  obtain ⟨s, hs, hstatus⟩ := hawarded
  obtain ⟨a, ha, -⟩ := hagent
  exact ⟨⟨s, hs, hstatus, (hshipments s hs).1 (by rw [hstatus]; rfl)⟩, a, ha, hagents a ha⟩

end Session

end Relocation
