-- Reads that have grown old. Other units may commit between the reads of a
-- unit and its own commit. If its commit goes through all the same, then the
-- unit would have read the same at that moment, and its effect on the store is
-- that of a unit that runs alone.
import Relocation.Proofs.Tasks

namespace Relocation

open Store (Later)
open Work (Ran)

variable {g : Gateway} {S₀ S T U V : Store} {tx : Transaction}

/-! ## One record -/

/-- A shipment that was read and then staged has not changed in between, nor
at any moment between its reading and the commit. -/
theorem shipment_current {x : ShipmentId} {s : Shipment} (hs : T.shipment? x = some s)
    (later : T.Later U) (later' : U.Later S)
    (hread : some s.version = (S.shipment? s.id).map (·.version)) :
    U.shipment? x = some s ∧ S.shipment? x = some s := by
  have hx : s.id = x := Table.key_of_find? hs
  rw [hx] at hread
  have hS : S.shipment? x = some s := (later.trans later').shipment_eq hs hread
  obtain ⟨t, ht, rfl | hlt⟩ := later.shipment hs
  · exact ⟨ht, hS⟩
  · obtain ⟨u, hu, hle⟩ := later'.version_le ht
    rw [hS, Option.some.injEq] at hu
    subst hu
    omega

/-- The one offer of a provider, if it was read and then staged, is still the
one offer and has not changed. -/
theorem linked_current {p : ProviderId} {x : ShipmentId} {o : Offer} (hone : T.linked p x = [o])
    (later : T.Later S) (hread : some o.version = (S.offer? o.id).map (·.version)) :
    S.linked p x = [o] := by
  have ho : T.offer? o.id = some o := (Store.mem_linked.mp (hone ▸ List.mem_singleton_self o)).1
  have hS : S.offer? o.id = some o := later.offer_eq ho hread
  obtain ⟨u, hu, huid⟩ := later.linked_one hone
  have hSu : S.offer? u.id = some u := (Store.mem_linked.mp (hu ▸ List.mem_singleton_self u)).1
  rw [huid, hS, Option.some.injEq] at hSu
  rw [hu, hSu]

/-! ## The units that write -/

namespace Coordinator

open Transaction (readShipment?_sawShipment readShipment?_sawPair readOffer?_sawPair
  current_stageShipment current_stagePair current_stageAgent apply_stageShipment apply_stageAgent)

theorem unstaged_sawShipment (s : Shipment) : (Transaction.begin.sawShipment s).Unstaged :=
  ⟨rfl, rfl, rfl⟩

theorem unstaged_sawPair (s : Shipment) (o : Offer) : (sawPair s o).Unstaged := ⟨rfl, rfl, rfl⟩

theorem alone_changePair {p : ProviderId} {x : ShipmentId}
    {f : Shipment → Offer → Except Failure (Shipment × Offer)} {a : Shipment × Offer}
    (hf : ∀ {s o s' o'}, f s o = .ok (s', o') → s'.id = s.id ∧ o'.id = o.id)
    (h : Ran Later g (changePair p x f) S₀ .begin T tx a) (later : T.Later S)
    (hcur : tx.Current S) : Ran Eq g (changePair p x f) S .begin S tx a := by
  obtain ⟨s', o'⟩ := a
  obtain ⟨hreads, hstages, T₁, U, V, s, o, -, hTU, hUV, hVT, hone, hs, hmade, rfl⟩ :=
    ran_changePair.mp h
  obtain ⟨hid, hid'⟩ := hf hmade
  obtain ⟨hread, hread'⟩ := (current_stagePair (unstaged_sawPair s o)).mp hcur
  rw [hid, readShipment?_sawPair] at hread
  rw [hid', readOffer?_sawPair] at hread'
  have hUS : U.Later S := (hUV.trans hVT).trans later
  obtain ⟨-, hS⟩ := shipment_current hs (Later.refl U) hUS hread
  have hone' := linked_current hone (hTU.trans hUS) hread'
  exact ran_changePair.mpr
    ⟨hreads, hstages, S, S, S, s, o, rfl, rfl, rfl, rfl, hone', hS, hmade, rfl⟩

theorem alone_awardTo {fresh : Fresh} {p : ProviderId} {x : ShipmentId} {a : Shipment × Offer}
    (h : Ran Later g (awardTo fresh x p) S₀ .begin T tx a) (later : T.Later S)
    (hcur : tx.Current S) : Ran Eq g (awardTo fresh x p) S .begin S tx a := by
  obtain ⟨s', o'⟩ := a
  obtain ⟨hreads, hstages, T₁, U, V, s, -, hTU, hUV, hVT, hs, hnone, hafter, rfl, rfl⟩ :=
    ran_awardTo.mp h
  obtain ⟨hread, -⟩ := (current_stagePair (unstaged_sawShipment s)).mp hcur
  rw [(Shipment.moved_of_after hafter).id, readShipment?_sawShipment] at hread
  have hUS : U.Later S := (hUV.trans hVT).trans later
  -- The shipment was read before the offers, so an offer made since would have changed it.
  obtain ⟨hU, hS⟩ := shipment_current hs hTU hUS hread
  rw [Table.key_of_find? hs] at hread
  have hnone' := hUS.linked_nil hnone hU hread
  exact ran_awardTo.mpr
    ⟨hreads, hstages, S, S, S, s, rfl, rfl, rfl, rfl, hS, hnone', hafter, rfl, rfl⟩

theorem alone_changeShipment {stage : Shipment → Work Unit} {C : Shipment → Prop}
    {x : ShipmentId} {f : Shipment → Except Failure Shipment} {a : Shipment}
    (hstage : ∀ (R : Store → Store → Prop) s S S' tx tx' u, Ran R g (stage s) S tx S' tx' u ↔
      C s ∧ R S S' ∧ tx' = tx.stageShipment s)
    (hf : ∀ {s s'}, f s = .ok s' → s'.id = s.id)
    (h : Ran Later g (changeShipment stage x f) S₀ .begin T tx a) (later : T.Later S)
    (hcur : tx.Current S) : Ran Eq g (changeShipment stage x f) S .begin S tx a := by
  obtain ⟨passed, hC, T₁, s, -, hTT, hs, hmade, rfl⟩ := (ran_changeShipment (hstage _)).mp h
  have hread := (current_stageShipment (unstaged_sawShipment s)).mp hcur
  rw [hf hmade, readShipment?_sawShipment] at hread
  obtain ⟨-, hS⟩ := shipment_current hs (Later.refl T₁) (hTT.trans later) hread
  exact (ran_changeShipment (hstage _)).mpr ⟨passed, hC, S, s, rfl, rfl, hS, hmade, rfl⟩

/-- A survey only counts the offers, so the offer itself may have changed. -/
theorem alone_survey {fresh : Fresh} {p : ProviderId} {x : ShipmentId} {patch : Survey}
    {a : Shipment} (h : Ran Later g (survey fresh p x patch) S₀ .begin T tx a)
    (later : T.Later S) (hcur : tx.Current S) :
    ∃ tx', Ran Eq g (survey fresh p x patch) S .begin S tx' a ∧ tx'.Current S ∧
      tx'.apply S = tx.apply S := by
  obtain ⟨hreads, hstages, T₁, U, s, o, -, hTU, hUT, hone, hs, hmade, rfl⟩ := ran_survey.mp h
  obtain rfl := Shipment.of_surveyed hmade
  have hread := (current_stageShipment (unstaged_sawPair s o)).mp hcur
  have hread' : (sawPair s o).readShipment? s.id = (S.shipment? s.id).map (·.version) := hread
  rw [readShipment?_sawPair] at hread'
  have hUS : U.Later S := hUT.trans later
  obtain ⟨-, hS⟩ := shipment_current hs (Later.refl U) hUS hread'
  obtain ⟨u, hu, -⟩ := (hTU.trans hUS).linked_one hone
  refine ⟨_, ran_survey.mpr ⟨hreads, hstages, S, S, s, u, rfl, rfl, rfl, hu, hS, hmade, rfl⟩, ?_, ?_⟩
  · exact (current_stageShipment (unstaged_sawPair s u)).mpr hread
  · rw [apply_stageShipment (unstaged_sawPair s u), apply_stageShipment (unstaged_sawPair s o)]

/-- An agent only needs the shipment to be there, and a shipment never goes away. -/
theorem alone_addAgent {fresh : Fresh} {x : ShipmentId} {request : AgentRequest} {a : Agent}
    (h : Ran Later g (addAgent fresh x request) S₀ .begin T tx a) (later : T.Later S)
    (hcur : tx.Current S) :
    ∃ tx', Ran Eq g (addAgent fresh x request) S .begin S tx' a ∧ tx'.Current S ∧
      tx'.apply S = tx.apply S := by
  obtain ⟨passed, hstage, T₁, s, -, hTT, hs, hcreate, rfl⟩ := ran_addAgent.mp h
  have hfree := (current_stageAgent (unstaged_sawShipment s)).mp hcur
  obtain ⟨u, hu, -⟩ := (hTT.trans later).shipment hs
  have hid : s.id = u.id := (Table.key_of_find? hs).trans (Table.key_of_find? hu).symm
  rw [hid] at hcreate
  refine ⟨_, ran_addAgent.mpr ⟨passed, hstage, S, u, rfl, rfl, hu, hcreate, rfl⟩, ?_, ?_⟩
  · exact (current_stageAgent (unstaged_sawShipment u)).mpr hfree
  · rw [apply_stageAgent (unstaged_sawShipment u), apply_stageAgent (unstaged_sawShipment s)]

end Coordinator

end Relocation
