-- Shipments and their offers agree. A shipment that a provider has taken has
-- one accepted offer, and no other shipment has any, in every store that the
-- tasks come to, whatever the order of their calls.
import Relocation.Proofs.System

namespace Relocation

namespace Store

variable {S S' : Store}

/-- How many offers of the shipment are accepted. -/
def acceptances (S : Store) (x : ShipmentId) : Nat :=
  S.offers.entries.countP fun o => o.shipmentId = x && o.accepted = some true

/-- Each shipment has as many accepted offers as its status says. -/
def Agrees (S : Store) : Prop :=
  ∀ x s, S.shipment? x = some s → S.acceptances x = if s.status.isTaken then 1 else 0

/-! ## What a write does to the count -/

theorem acceptances_putOffer {o o' : Offer} (ho : S.offer? o'.id = some o)
    (hopen : o.accepted = none) (hshipment : o'.shipmentId = o.shipmentId) (x : ShipmentId) :
    (S.putOffer o').acceptances x =
      S.acceptances x + if o.shipmentId = x ∧ o'.accepted = some true then 1 else 0 := by
  have hcount := countP_put Offer.id (fun o => o.shipmentId = x && o.accepted = some true) ho
  simp only [hopen, hshipment, Bool.and_eq_true, decide_eq_true_eq, reduceCtorEq, and_false,
    if_false, Nat.add_zero] at hcount
  exact hcount

theorem acceptances_putOffer_of_new {o : Offer} (hfree : S.offer? o.id = none)
    (hopen : o.accepted = none) (x : ShipmentId) :
    (S.putOffer o).acceptances x = S.acceptances x := by
  unfold acceptances
  rw [entries_putOffer_of_new hfree, List.countP_append]
  simp [hopen]

/-! ## What keeps the agreement -/

theorem agrees_of_same (hs : S'.shipments = S.shipments) (ho : S'.offers = S.offers)
    (h : S.Agrees) : S'.Agrees := by
  intro x s hx
  unfold shipment? at hx
  unfold acceptances
  rw [ho]
  rw [hs] at hx
  exact h x s hx

theorem agrees_putShipment {x : ShipmentId} {s s' : Shipment} (hs : S.shipment? x = some s)
    (hid : s'.id = s.id) (htaken : s'.status.isTaken = s.status.isTaken) (h : S.Agrees) :
    (S.putShipment s').Agrees := by
  have hx : s.id = x := Table.key_of_find? hs
  intro y t ht
  change S.acceptances y = _
  rw [shipment?_putShipment, hid, hx] at ht
  by_cases hy : x = y
  · subst hy
    rw [if_pos rfl, Option.some.injEq] at ht
    subst ht
    rw [h x s hs, htaken]
  · rw [if_neg hy] at ht
    exact h y t ht

/-- The answer to the one offer of a shipment moves both records, so that
they agree afterwards if they did before. -/
theorem agrees_answered {p : ProviderId} {x : ShipmentId} {s s' : Shipment} {o o' : Offer}
    {op : ShipmentOperation} {flag : Bool} (hs : S.shipment? x = some s)
    (hone : S.linked p x = [o]) (hanswer : PairAnswered s o op flag s' o')
    (htaken : op.target.isTaken = flag) (h : S.Agrees) :
    ((S.putShipment s').putOffer o').Agrees := by
  obtain ⟨ho, -, hox⟩ := mem_linked.mp (hone ▸ List.mem_singleton_self o)
  have hid : s'.id = x := hanswer.shipment.id.trans (Table.key_of_find? hs)
  have ho' : (S.putShipment s').offer? o'.id = some o := hanswer.offer.id ▸ ho
  intro y t ht
  rw [acceptances_putOffer ho' hanswer.offer.pending hanswer.offer.shipmentId y]
  change (S.putShipment s').shipment? y = some t at ht
  change S.acceptances y + _ = _
  rw [shipment?_putShipment] at ht
  by_cases hy : x = y
  · subst hy
    -- The shipment was awarded, so none of its offers was accepted before.
    have hnone : S.acceptances x = 0 := by
      rw [h x s hs, hanswer.awarded]
      rfl
    rw [if_pos hid, Option.some.injEq] at ht
    subst ht
    rw [hnone, hanswer.shipment.status, htaken, hanswer.offer.accepted]
    simp [hox]
  · have hne : s'.id ≠ y := fun e => hy (hid ▸ e)
    rw [if_neg hne] at ht
    rw [h y t ht, hox]
    simp [hy]

end Store

/-! ## What the tasks keep -/

open Store (agrees_of_same agrees_putShipment agrees_answered)

variable {S S' : Store}

theorem agrees_after {x : ShipmentId} {s s' : Shipment} {op : ShipmentOperation} {now : Timestamp}
    (hs : S.shipment? x = some s) (hafter : s.after op now = .ok s')
    (htaken : ∀ status ∈ op.starts, op.target.isTaken = status.isTaken) (h : S.Agrees) :
    (S.putShipment s').Agrees := by
  obtain ⟨hallowed, hstatus, hid, -⟩ := Shipment.moved_of_after hafter
  refine agrees_putShipment hs hid ?_ h
  rw [hstatus]
  exact htaken _ hallowed

theorem Task.agrees_of_effect {t : Task} {a : t.Answer} (heffect : t.Effect S S' a)
    (h : S.Agrees) : S'.Agrees := by
  cases t with
  | advance g x steps =>
    obtain ⟨s, hs, hsteps, rfl⟩ := heffect
    have honward := Shipment.onward_advance hsteps
    exact agrees_putShipment hs honward.id honward.taken h
  | request g fresh r =>
    cases r with
    | fetch p x =>
      obtain rfl : S' = S := heffect
      exact h
    | listAgents x =>
      obtain rfl : S' = S := heffect
      exact h
    | accept p x =>
      obtain ⟨s, o, hs, hone, hmade, rfl⟩ := heffect
      exact agrees_answered hs hone (Coordinator.of_acceptPair hmade) rfl h
    | reject p x reason =>
      obtain ⟨s, o, hs, hone, hmade, rfl⟩ := heffect
      exact agrees_answered hs hone (Coordinator.of_rejectPair hmade) rfl h
    | award x =>
      obtain ⟨s, hs, hafter, rfl⟩ := heffect
      exact agrees_after hs hafter (by decide) h
    | submit x =>
      obtain ⟨s, hs, hafter, rfl⟩ := heffect
      exact agrees_after hs hafter (by decide) h
    | awardTo x p =>
      obtain ⟨s', o'⟩ := a
      obtain ⟨s, hs, -, hafter, rfl, hfree, rfl⟩ := heffect
      have hshipment := agrees_after hs hafter (by decide) h
      intro y t ht
      rw [Store.acceptances_putOffer_of_new (S := S.putShipment s') hfree rfl y]
      exact hshipment y t ht
    | survey p x patch =>
      obtain ⟨s, o, hs, hone, hmade, rfl⟩ := heffect
      obtain rfl := Shipment.of_surveyed hmade
      exact agrees_putShipment hs rfl rfl h
    | addAgent x request =>
      obtain ⟨-, -, rfl⟩ := heffect
      exact agrees_of_same rfl rfl h

/-- A store without accepted offers agrees if no shipment is taken. -/
theorem Store.agrees_of_start (hoffers : ∀ o ∈ S.offers.entries, o.accepted ≠ some true)
    (hshipments : ∀ s ∈ S.shipments.entries, s.status ∈
      [ShipmentStatus.draft, .submitted, .awarded]) : S.Agrees := by
  intro x s hs
  have hstatus := hshipments s (Table.find?_eq_some_iff _ _ _ |>.mp hs).1
  have hopen : s.status.isTaken = false := by
    simp only [List.mem_cons, List.not_mem_nil, or_false] at hstatus
    rcases hstatus with h | h | h <;> rw [h] <;> rfl
  have hnone : S.acceptances x = 0 := by
    unfold acceptances
    rw [List.countP_eq_zero]
    intro o ho
    simp [hoffers o ho]
  rw [hnone, hopen]
  rfl

/-- In every store that the tasks come to, each shipment that was taken has
exactly one accepted offer, and each other shipment has none. -/
theorem taken_shipments_have_one_accepted_offer (start : Store)
    (hoffers : ∀ o ∈ start.offers.entries, o.accepted ≠ some true)
    (hshipments : ∀ s ∈ start.shipments.entries, s.status ∈
      [ShipmentStatus.draft, .submitted, .awarded])
    (events : List (Event Task)) (s : Shipment)
    (hs : s ∈ (System.run Task.job start events).store.shipments.entries) :
    ((System.run Task.job start events).store.offers.entries.filter fun o =>
        o.shipmentId = s.id && o.accepted = some true).length =
      if s.status ∈ [ShipmentStatus.accepted, .approved, .inTransit, .delivered, .completed]
      then 1 else 0 := by
  have hagrees : (System.run Task.job start events).store.Agrees := by
    refine System.run_preserves Task.guarantee (I := fun sys => sys.store.Agrees) events
      (Store.agrees_of_start hoffers hshipments) ?_
    intro sys sys' h hleads
    cases hleads with
    | quiet store =>
      obtain ⟨hs', ho'⟩ := Store.same_of_calm store
      exact agrees_of_same hs' ho' h
    | @commit k S₀ T tx a begins ran later commits committed log =>
      obtain ⟨-, hcur, hstore⟩ := Transaction.commit_eq_ok.mp committed
      rw [hstore]
      exact Task.agrees_of_effect (k.effect ran later hcur) h
  have hfound := hagrees s.id s ((Table.find?_eq_some_iff _ _ _).mpr ⟨hs, rfl⟩)
  rw [← List.countP_eq_length_filter]
  rcases hstatus : s.status <;>
    simpa [Store.acceptances, hstatus, ShipmentStatus.isTaken] using hfound

/-- The shipment is awarded, and its provider takes it twice at the same time. -/
def Sample.race : List (Event Task) :=
  let accept := Sample.task (.accept ⟨Sample.uuid 3⟩ Sample.shipment.id)
  .start (Sample.task (.awardTo Sample.shipment.id ⟨Sample.uuid 3⟩) (Sample.uuid 4)) ::
    List.replicate 6 (.call 0) ++ [.start accept, .start accept] ++
    (List.replicate 6 [.call 1, .call 2]).flatten

/-- Only one of the two acceptances goes through. -/
theorem one_accepted_offer_after_a_race :
    ∃ s ∈ (System.run Task.job Sample.store Sample.race).store.shipments.entries,
      s.status = .accepted ∧
        ((System.run Task.job Sample.store Sample.race).store.offers.entries.filter fun o =>
          o.shipmentId = s.id && o.accepted = some true).length = 1 := by
  have htaken : ∃ s ∈ (System.run Task.job Sample.store Sample.race).store.shipments.entries,
      s.status = .accepted := by decide
  obtain ⟨s, hs, hstatus⟩ := htaken
  have hcount := taken_shipments_have_one_accepted_offer Sample.store (by decide) (by decide)
    Sample.race s hs
  rw [hstatus, if_pos (by decide)] at hcount
  exact ⟨s, hs, hstatus, hcount⟩

end Relocation
