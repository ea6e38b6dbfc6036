-- The effects of tasks, among others or alone, and how a store looks after
-- one: later than before, and with all the records that it had.
import Relocation.Proofs.Stale

namespace Relocation

open Store (Later)
open Work (Ran)

variable {S₀ S S' T : Store} {tx : Transaction}

/-! ## A task that commits has its effect -/

namespace Task

open Coordinator
open Transaction (current_stageAgent current_stagePair apply_of_unstaged apply_stageShipment
  apply_stagePair apply_stageAgent)

/-- The task changes something when it commits. -/
def writes : Task → Bool
  | .request _ _ (.fetch _ _) => false
  | .request _ _ (.listAgents _) => false
  | _ => true

/-- A task that writes and whose commit goes through among others might as
well have run alone at that moment. -/
theorem alone (t : Task) {a : t.Answer} (hwrites : t.writes = true)
    (h : Ran Later t.gateway t.work S₀ .begin T tx a) (later : T.Later S) (hcur : tx.Current S) :
    ∃ tx', Ran Eq t.gateway t.work S .begin S tx' a ∧ tx'.Current S ∧
      tx'.apply S = tx.apply S := by
  cases t with
  | advance g x steps =>
    have hran := alone_changeShipment (fun R s S S' tx tx' u => Work.ran_saveShipment)
      (fun h => (Shipment.onward_advance h).id) h later hcur
    exact ⟨tx, hran, hcur, rfl⟩
  | request g fresh r =>
    cases r with
    | fetch p x => cases hwrites
    | listAgents x => cases hwrites
    | accept p x =>
      change Ran Later g (accept fresh p x) S₀ .begin T tx a at h
      rw [accept_eq] at h
      have hran := alone_changePair
        (fun h => ⟨(of_acceptPair h).shipment.id, (of_acceptPair h).offer.id⟩) h later hcur
      rw [← accept_eq] at hran
      exact ⟨tx, hran, hcur, rfl⟩
    | reject p x reason =>
      change Ran Later g (reject fresh p x reason) S₀ .begin T tx a at h
      rw [reject_eq] at h
      have hran := alone_changePair
        (fun h => ⟨(of_rejectPair h).shipment.id, (of_rejectPair h).offer.id⟩) h later hcur
      rw [← reject_eq] at hran
      exact ⟨tx, hran, hcur, rfl⟩
    | award x =>
      have hran := alone_changeShipment (fun R s S S' tx tx' u => ran_saveShipment_checked)
        (fun h => (Shipment.moved_of_after h).id) h later hcur
      exact ⟨tx, hran, hcur, rfl⟩
    | submit x =>
      have hran := alone_changeShipment (fun R s S S' tx tx' u => ran_saveShipment_checked)
        (fun h => (Shipment.moved_of_after h).id) h later hcur
      exact ⟨tx, hran, hcur, rfl⟩
    | awardTo x p => exact ⟨tx, alone_awardTo h later hcur, hcur, rfl⟩
    | survey p x patch => exact alone_survey h later hcur
    | addAgent x request => exact alone_addAgent h later hcur

theorem effect_of_alone (t : Task) {a : t.Answer}
    (h : Ran Eq t.gateway t.work S .begin S tx a) (hcur : tx.Current S) :
    t.Effect S (tx.apply S) a := by
  cases t with
  | advance g x steps =>
    obtain ⟨-, -, T, s, rfl, -, hs, hsteps, rfl⟩ :=
      (ran_changeShipment fun s S S' tx tx' u => Work.ran_saveShipment).mp h
    exact ⟨s, hs, hsteps, apply_stageShipment (unstaged_sawShipment s)⟩
  | request g fresh r =>
    cases r with
    | fetch p x => exact apply_of_unstaged (unstaged_of_fetch h)
    | listAgents x => exact apply_of_unstaged (unstaged_of_listAgents h)
    | accept p x =>
      change Ran Eq g (accept fresh p x) S .begin S tx a at h
      rw [accept_eq] at h
      obtain ⟨-, -, T, U, V, s, o, rfl, rfl, rfl, -, hone, hs, hmade, rfl⟩ := ran_changePair.mp h
      exact ⟨s, o, hs, hone, hmade, apply_stagePair (unstaged_sawPair s o)⟩
    | reject p x reason =>
      change Ran Eq g (reject fresh p x reason) S .begin S tx a at h
      rw [reject_eq] at h
      obtain ⟨-, -, T, U, V, s, o, rfl, rfl, rfl, -, hone, hs, hmade, rfl⟩ := ran_changePair.mp h
      exact ⟨s, o, hs, hone, hmade, apply_stagePair (unstaged_sawPair s o)⟩
    | award x =>
      obtain ⟨-, -, T, s, rfl, -, hs, hafter, rfl⟩ :=
        (ran_changeShipment fun s S S' tx tx' u => ran_saveShipment_checked).mp h
      exact ⟨s, hs, hafter, apply_stageShipment (unstaged_sawShipment s)⟩
    | submit x =>
      obtain ⟨-, -, T, s, rfl, -, hs, hafter, rfl⟩ :=
        (ran_changeShipment fun s S S' tx tx' u => ran_saveShipment_checked).mp h
      exact ⟨s, hs, hafter, apply_stageShipment (unstaged_sawShipment s)⟩
    | awardTo x p =>
      obtain ⟨s', o'⟩ := a
      obtain ⟨-, -, T, U, V, s, rfl, rfl, rfl, -, hs, hnone, hafter, rfl, rfl⟩ := ran_awardTo.mp h
      obtain ⟨-, hfree⟩ := (current_stagePair (unstaged_sawShipment s)).mp hcur
      have hid : s'.id = x := (Shipment.moved_of_after hafter).id.trans (Table.key_of_find? hs)
      refine ⟨s, hs, hnone, hafter, by rw [hid], ?_, apply_stagePair (unstaged_sawShipment s)⟩
      exact Option.map_eq_none_iff.mp hfree.symm
    | survey p x patch =>
      obtain ⟨-, -, T, U, s, o, rfl, rfl, -, hone, hs, hmade, rfl⟩ := ran_survey.mp h
      exact ⟨s, o, hs, hone, hmade, apply_stageShipment (unstaged_sawPair s o)⟩
    | addAgent x request =>
      obtain ⟨-, -, T, s, rfl, -, hs, -, rfl⟩ := ran_addAgent.mp h
      have hfree := (current_stageAgent (unstaged_sawShipment s)).mp hcur
      exact ⟨⟨s, hs⟩, hfree, apply_stageAgent (unstaged_sawShipment s)⟩

/-- Whatever other tasks did between its reads and its commit, a task that
commits has its effect on the store that it commits on. -/
theorem effect (t : Task) {a : t.Answer} (h : Ran Later t.gateway t.work S₀ .begin T tx a)
    (later : T.Later S) (hcur : tx.Current S) : t.Effect S (tx.apply S) a := by
  by_cases hwrites : t.writes = true
  · obtain ⟨tx', hran, hcur', happly⟩ := alone t hwrites h later hcur
    rw [← happly]
    exact effect_of_alone t hran hcur'
  · cases t with
    | advance g x steps => exact absurd rfl hwrites
    | request g fresh r =>
      cases r with
      | fetch p x => exact apply_of_unstaged (unstaged_of_fetch h)
      | listAgents x => exact apply_of_unstaged (unstaged_of_listAgents h)
      | _ => exact absurd rfl hwrites

end Task

/-! ## A store after a write -/

namespace Store

theorem shipment?_putShipment (S : Store) (s : Shipment) (x : ShipmentId) :
    (S.putShipment s).shipment? x = if s.id = x then some s else S.shipment? x :=
  Table.find?_insert S.shipments s x

theorem offer?_putOffer (S : Store) (o : Offer) (x : OfferId) :
    (S.putOffer o).offer? x = if o.id = x then some o else S.offer? x :=
  Table.find?_insert S.offers o x

theorem later_putShipment {x : ShipmentId} {s s' : Shipment} (hs : S.shipment? x = some s)
    (hid : s'.id = s.id) (hversion : s' = s ∨ s.version < s'.version) :
    S.Later (S.putShipment s') where
  shipment {y t} ht := by
    have hx : s.id = x := Table.key_of_find? hs
    rw [shipment?_putShipment, hid, hx]
    by_cases hy : x = y
    · subst hy
      rw [hs, Option.some.injEq] at ht
      rw [if_pos rfl, ← ht]
      exact ⟨s', rfl, hversion⟩
    · rw [if_neg hy]
      exact ⟨t, ht, .inl rfl⟩
  offer ho := ⟨_, ho, .inl rfl⟩
  linked _ _ := .inl rfl

theorem later_putOffer {o o' : Offer} (ho : S.offer? o'.id = some o)
    (hshipment : o'.shipmentId = o.shipmentId) (hprovider : o'.providerId = o.providerId)
    (hversion : o.version < o'.version) : S.Later (S.putOffer o') where
  shipment hs := ⟨_, hs, .inl rfl⟩
  offer {x u} hu := by
    rw [offer?_putOffer]
    by_cases hx : o'.id = x
    · rw [hx, hu, Option.some.injEq] at ho
      rw [if_pos hx, ho]
      exact ⟨o', rfl, .inr hversion⟩
    · rw [if_neg hx]
      exact ⟨u, hu, .inl rfl⟩
  linked p x := by
    have hlinks : Transaction.links p x o = Transaction.links p x o' := by
      simp only [Transaction.links, hshipment, hprovider]
    exact .inl (map_filter_put Offer.id (Transaction.links p x) ho hlinks)

/-- An offer that was not there stands after all others. -/
theorem entries_putOffer_of_new {o : Offer} (hfree : S.offer? o.id = none) :
    (S.putOffer o).offers.entries = S.offers.entries ++ [o] := by
  have hkey : o.id ∉ S.offers.entries.map Offer.id := by
    intro hmem
    rw [← Table.keys, ← Table.isSome_find?] at hmem
    rw [offer?] at hfree
    rw [hfree] at hmem
    cases hmem
  exact put_of_notMem Offer.id o hkey

theorem linked_putOffer_of_new {o : Offer} (hfree : S.offer? o.id = none) (p : ProviderId)
    (x : ShipmentId) :
    (S.putOffer o).linked p x = S.linked p x ++ [o].filter (Transaction.links p x) := by
  rw [linked, entries_putOffer_of_new hfree, List.filter_append, linked]

theorem later_award {s s' : Shipment} {o : Offer} (hs : S.shipment? o.shipmentId = some s)
    (hid : s'.id = s.id) (hversion : s.version < s'.version)
    (hnone : S.linked o.providerId o.shipmentId = []) (hfree : S.offer? o.id = none) :
    S.Later ((S.putShipment s').putOffer o) where
  shipment ht := (later_putShipment hs hid (.inr hversion)).shipment ht
  offer {x u} hu := by
    have hne : o.id ≠ x := by
      rintro rfl
      rw [hfree] at hu
      cases hu
    rw [offer?_putOffer, if_neg hne]
    exact ⟨u, hu, .inl rfl⟩
  linked p x := by
    rw [linked_putOffer_of_new (S := S.putShipment s') hfree p x]
    by_cases hlinks : Transaction.links p x o = true
    · obtain ⟨rfl, rfl⟩ : o.providerId = p ∧ o.shipmentId = x := by
        simpa [Transaction.links] using hlinks
      have hnone' : (S.putShipment s').linked o.providerId o.shipmentId = [] := hnone
      refine .inr ⟨hnone, by simp [hnone', hlinks], fun t ht => ?_⟩
      rw [hs, Option.some.injEq] at ht
      subst ht
      refine ⟨s', ?_, hversion⟩
      change (S.putShipment s').shipment? o.shipmentId = some s'
      rw [shipment?_putShipment, if_pos (hid.trans (Table.key_of_find? hs))]
    · refine .inl ?_
      rw [List.filter_cons_of_neg hlinks, List.filter_nil, List.append_nil]
      rfl

theorem later_of_same (hs : S'.shipments = S.shipments) (ho : S'.offers = S.offers) :
    S.Later S' where
  shipment h := ⟨_, by rw [shipment?, hs]; exact h, .inl rfl⟩
  offer h := ⟨_, by rw [offer?, ho]; exact h, .inl rfl⟩
  linked p x := .inl (by rw [linked, linked, ho])

/-- Both records of a pair after an answer. -/
theorem later_answered {p : ProviderId} {x : ShipmentId} {s s' : Shipment} {o o' : Offer}
    {op : ShipmentOperation} {flag : Bool} (hs : S.shipment? x = some s)
    (hone : S.linked p x = [o]) (h : PairAnswered s o op flag s' o') :
    S.Later ((S.putShipment s').putOffer o') := by
  have ho : S.offer? o.id = some o := (mem_linked.mp (hone ▸ List.mem_singleton_self o)).1
  have hshipment : S.Later (S.putShipment s') := by
    refine later_putShipment hs h.shipment.id (.inr ?_)
    rw [h.shipment.version]
    exact Nat.lt_succ_self _
  refine hshipment.trans (later_putOffer (h.offer.id ▸ ho) h.offer.shipmentId h.offer.providerId ?_)
  rw [h.offer.version]
  exact Nat.lt_succ_self _

end Store

/-! ## A store after a task -/

open Store (later_putShipment later_award later_answered later_of_same)

theorem later_of_after {x : ShipmentId} {s s' : Shipment} {op : ShipmentOperation}
    {now : Timestamp} (hs : S.shipment? x = some s) (h : s.after op now = .ok s') :
    S.Later (S.putShipment s') := by
  obtain ⟨-, -, hid, hversion⟩ := Shipment.moved_of_after h
  exact later_putShipment hs hid (.inr (by omega))

/-- A task that commits leaves a later store. -/
theorem Task.later_of_effect {t : Task} {a : t.Answer} (h : t.Effect S S' a) : S.Later S' := by
  cases t with
  | advance g x steps =>
    obtain ⟨s, hs, hsteps, rfl⟩ := h
    have honward := Shipment.onward_advance hsteps
    exact later_putShipment hs honward.id honward.version
  | request g fresh r =>
    cases r with
    | fetch p x =>
      obtain rfl : S' = S := h
      exact Later.refl _
    | listAgents x =>
      obtain rfl : S' = S := h
      exact Later.refl _
    | accept p x =>
      obtain ⟨s, o, hs, hone, hmade, rfl⟩ := h
      exact later_answered hs hone (Coordinator.of_acceptPair hmade)
    | reject p x reason =>
      obtain ⟨s, o, hs, hone, hmade, rfl⟩ := h
      exact later_answered hs hone (Coordinator.of_rejectPair hmade)
    | award x =>
      obtain ⟨s, hs, hafter, rfl⟩ := h
      exact later_of_after hs hafter
    | submit x =>
      obtain ⟨s, hs, hafter, rfl⟩ := h
      exact later_of_after hs hafter
    | awardTo x p =>
      obtain ⟨s', o'⟩ := a
      obtain ⟨s, hs, hnone, hafter, rfl, hfree, rfl⟩ := h
      obtain ⟨-, -, hid, hversion⟩ := Shipment.moved_of_after hafter
      exact later_award hs hid (by omega) hnone hfree
    | survey p x patch =>
      obtain ⟨s, o, hs, hone, hmade, rfl⟩ := h
      obtain rfl := Shipment.of_surveyed hmade
      exact later_putShipment hs rfl (.inr (Nat.lt_succ_self _))
    | addAgent x request =>
      obtain ⟨-, -, rfl⟩ := h
      exact later_of_same rfl rfl

end Relocation
