-- When a commit goes through and what it writes. Each staged record must be
-- stored with the version that was read, or be absent and not have been read.
import Relocation.Proofs.Requests

namespace Relocation

namespace Transaction

variable {tx : Transaction} {S S' : Store}

theorem obstacle_eq_none {id : String} {read stored : Option Nat} :
    obstacle id read stored = none ↔ read = stored := by
  rcases read with _ | expected <;> rcases stored with _ | actual
  · simp [obstacle]
  · simp [obstacle]
  · simp [obstacle]
  · by_cases h : expected = actual <;> simp [obstacle, h]

/-- The version of the shipment that the transaction read. -/
def readShipment? (tx : Transaction) (x : ShipmentId) : Option Nat :=
  (tx.shipmentVersions.find? x).map (·.2)

/-- The version of the offer that the transaction read. -/
def readOffer? (tx : Transaction) (x : OfferId) : Option Nat :=
  (tx.offerVersions.find? x).map (·.2)

/-- What is staged is as it was when it was read. -/
structure Current (tx : Transaction) (S : Store) : Prop where
  shipments : ∀ s ∈ tx.shipments.entries,
    tx.readShipment? s.id = (S.shipment? s.id).map (·.version)
  offers : ∀ o ∈ tx.offers.entries, tx.readOffer? o.id = (S.offer? o.id).map (·.version)
  agents : ∀ a ∈ tx.agents, ∀ b ∈ S.agents, b.id ≠ a.id

theorem agentObstacle_eq_none {a : Agent} :
    agentObstacle S a = none ↔ ∀ b ∈ S.agents, b.id ≠ a.id := by
  unfold agentObstacle
  rw [obstacle_eq_none, eq_comm, Option.map_eq_none_iff, List.find?_eq_none]
  simp

theorem firstObstacle_eq_none : tx.firstObstacle S = none ↔ tx.Current S := by
  unfold firstObstacle
  rw [Option.or_eq_none_iff, Option.or_eq_none_iff, List.findSome?_eq_none_iff,
    List.findSome?_eq_none_iff, List.findSome?_eq_none_iff]
  constructor
  · rintro ⟨⟨hs, ho⟩, ha⟩
    exact ⟨fun s h => obstacle_eq_none.mp (hs s h), fun o h => obstacle_eq_none.mp (ho o h),
      fun a h => agentObstacle_eq_none.mp (ha a h)⟩
  · rintro ⟨hs, ho, ha⟩
    exact ⟨⟨fun s h => obstacle_eq_none.mpr (hs s h), fun o h => obstacle_eq_none.mpr (ho o h)⟩,
      fun a h => agentObstacle_eq_none.mpr (ha a h)⟩

theorem commit_eq_ok :
    tx.commit S = (.ok (), S') ↔ S.nextFailure = none ∧ tx.Current S ∧ S' = tx.apply S := by
  rw [← firstObstacle_eq_none]
  unfold commit
  rcases S.nextFailure with _ | message
  · rcases tx.firstObstacle S with _ | failure
    · simp [eq_comm]
    · simp
  · simp

/-! ## What was read -/

@[simp] theorem readShipment?_sawShipment (s : Shipment) :
    (begin.sawShipment s).readShipment? s.id = some s.version := by
  simp [readShipment?, sawShipment, begin, Table.find?_insertNew]

@[simp] theorem readShipment?_sawPair (s : Shipment) (o : Offer) :
    (Coordinator.sawPair s o).readShipment? s.id = some s.version :=
  readShipment?_sawShipment s

@[simp] theorem readOffer?_sawPair (s : Shipment) (o : Offer) :
    (Coordinator.sawPair s o).readOffer? o.id = some o.version := by
  simp [readOffer?, Coordinator.sawPair, sawShipment, sawOffers, begin, Table.find?_insertNew]

/-! ## Commits of what the units stage -/

theorem entries_stageShipment (h : tx.Unstaged) (s : Shipment) :
    (tx.stageShipment s).shipments.entries = [s] := by
  rw [stageShipment, h.1, Table.entries_insert_empty]

theorem entries_stageOffer (h : tx.Unstaged) (s : Shipment) (o : Offer) :
    ((tx.stageShipment s).stageOffer o).offers.entries = [o] := by
  rw [stageOffer, stageShipment, h.2.1, Table.entries_insert_empty]

theorem current_stageShipment (h : tx.Unstaged) {s : Shipment} :
    (tx.stageShipment s).Current S ↔
      tx.readShipment? s.id = (S.shipment? s.id).map (·.version) := by
  have hs := entries_stageShipment h s
  obtain ⟨-, ho, ha⟩ := h
  constructor
  · intro hcur
    exact hcur.shipments s (by rw [hs]; exact List.mem_singleton_self s)
  · intro hread
    refine ⟨?_, by simp [stageShipment, ho], by simp [stageShipment, ha]⟩
    intro t ht
    rw [hs, List.mem_singleton] at ht
    subst ht
    exact hread

theorem current_stagePair (h : tx.Unstaged) {s : Shipment} {o : Offer} :
    ((tx.stageShipment s).stageOffer o).Current S ↔
      tx.readShipment? s.id = (S.shipment? s.id).map (·.version) ∧
        tx.readOffer? o.id = (S.offer? o.id).map (·.version) := by
  have hs := entries_stageShipment h s
  have ho := entries_stageOffer h s o
  obtain ⟨-, -, ha⟩ := h
  constructor
  · intro hcur
    exact ⟨hcur.shipments s (by rw [stageOffer, hs]; exact List.mem_singleton_self s),
      hcur.offers o (by rw [ho]; exact List.mem_singleton_self o)⟩
  · rintro ⟨hread, hread'⟩
    refine ⟨?_, ?_, by simp [stageShipment, stageOffer, ha]⟩
    · intro t ht
      rw [stageOffer, hs, List.mem_singleton] at ht
      subst ht
      exact hread
    · intro t ht
      rw [ho, List.mem_singleton] at ht
      subst ht
      exact hread'

theorem current_stageAgent (h : tx.Unstaged) {a : Agent} :
    (tx.stageAgent a).Current S ↔ ∀ b ∈ S.agents, b.id ≠ a.id := by
  obtain ⟨hs, ho, ha⟩ := h
  constructor
  · intro hcur
    exact hcur.agents a (by simp [stageAgent])
  · intro ha'
    exact ⟨by simp [stageAgent, hs], by simp [stageAgent, ho],
      by simpa [stageAgent, ha] using ha'⟩

theorem apply_of_unstaged (h : tx.Unstaged) : tx.apply S = S := by
  obtain ⟨hs, ho, ha⟩ := h
  simp [apply, hs, ho, ha]

theorem apply_stageShipment (h : tx.Unstaged) {s : Shipment} :
    (tx.stageShipment s).apply S = S.putShipment s := by
  obtain ⟨hs, ho, ha⟩ := h
  simp [apply, stageShipment, Store.putShipment, hs, ho, ha]

theorem apply_stagePair (h : tx.Unstaged) {s : Shipment} {o : Offer} :
    ((tx.stageShipment s).stageOffer o).apply S = (S.putShipment s).putOffer o := by
  obtain ⟨hs, ho, ha⟩ := h
  simp [apply, stageShipment, stageOffer, Store.putShipment, Store.putOffer, hs, ho, ha]

theorem apply_stageAgent (h : tx.Unstaged) {a : Agent} :
    (tx.stageAgent a).apply S = { S with agents := S.agents ++ [a] } := by
  obtain ⟨hs, ho, ha⟩ := h
  simp [apply, stageAgent, hs, ho, ha]

end Transaction

end Relocation
