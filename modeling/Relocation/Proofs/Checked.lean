-- What is stored was checked. A transaction stages only records that violate
-- no constraint, and a commit writes only what is staged. So whoever writes to
-- a store, the new records in it violate none.
import Relocation.Proofs.System

namespace Relocation

open Work (Ran)

/-! ## Staged records -/

/-- No staged record violates a constraint. -/
structure Transaction.Checked (tx : Transaction) : Prop where
  shipments : ∀ s ∈ tx.shipments.entries, s.report.isEmpty = true
  offers : ∀ o ∈ tx.offers.entries, o.report.isEmpty = true
  agents : ∀ a ∈ tx.agents, a.report.isEmpty = true

theorem Transaction.checked_begin : begin.Checked where
  shipments := by simp [begin]
  offers := by simp [begin]
  agents := by simp [begin]

theorem Transaction.checked_answer {tx tx' : Transaction} {S : Store} {c : Call} {reply : c.Reply}
    (h : tx.answer S c = .ok (reply, tx')) (hc : tx.Checked) : tx'.Checked := by
  obtain ⟨hs, ho, ha⟩ := hc
  rcases answer_cases h with ⟨s, -, hok, rfl⟩ | ⟨o, -, hok, rfl⟩ | ⟨a, -, hok, rfl⟩ | ⟨es, eo, ea⟩
  · refine ⟨fun t ht => ?_, ho, ha⟩
    rcases Table.mem_insert ht with rfl | ht
    · exact Report.check_eq_ok.mp hok
    · exact hs t ht
  · refine ⟨hs, fun u hu => ?_, ha⟩
    rcases Table.mem_insert hu with rfl | hu
    · exact Report.check_eq_ok.mp hok
    · exact ho u hu
  · refine ⟨hs, ho, fun b hb => ?_⟩
    rcases List.mem_append.mp hb with hb | hb
    · exact ha b hb
    · rw [List.mem_singleton.mp hb]
      exact Report.check_eq_ok.mp hok
  · exact ⟨es ▸ hs, eo ▸ ho, ea ▸ ha⟩

/-- Whatever a unit does, it stages only what was checked. -/
theorem Work.Ran.checked {α : Type} {R : Store → Store → Prop} {g : Gateway} {w : Work α}
    {S S' : Store} {tx tx' : Transaction} {a : α} (h : Ran R g w S tx S' tx' a)
    (hc : tx.Checked) : tx'.Checked := by
  induction h with
  | done => exact hc
  | call _ _ answered _ ih => exact ih (Transaction.checked_answer answered hc)

/-! ## Stored records -/

/-- Every record of `S` was in the store `start` already, or it violates no constraint. -/
structure Store.CheckedSince (start S : Store) : Prop where
  shipments : ∀ s ∈ S.shipments.entries, s ∈ start.shipments.entries ∨ s.report.isEmpty = true
  offers : ∀ o ∈ S.offers.entries, o ∈ start.offers.entries ∨ o.report.isEmpty = true
  agents : ∀ a ∈ S.agents, a ∈ start.agents ∨ a.report.isEmpty = true

namespace Store

variable {start S S' : Store} {tx : Transaction}

theorem CheckedSince.refl (S : Store) : S.CheckedSince S where
  shipments _ hs := .inl hs
  offers _ ho := .inl ho
  agents _ ha := .inl ha

theorem CheckedSince.of_calm (h : S'.calm = S.calm) (hc : start.CheckedSince S) :
    start.CheckedSince S' := by
  have hs : S'.calm.shipments = S.calm.shipments := by rw [h]
  have ho : S'.calm.offers = S.calm.offers := by rw [h]
  have ha : S'.calm.agents = S.calm.agents := by rw [h]
  exact ⟨hs ▸ hc.shipments, ho ▸ hc.offers, ha ▸ hc.agents⟩

theorem CheckedSince.apply (hc : start.CheckedSince S) (htx : tx.Checked) :
    start.CheckedSince (tx.apply S) where
  shipments s hs := (Table.mem_insertAll hs).elim (hc.shipments s) fun h => .inr (htx.shipments s h)
  offers o ho := (Table.mem_insertAll ho).elim (hc.offers o) fun h => .inr (htx.offers o h)
  agents a ha := (List.mem_append.mp ha).elim (hc.agents a) fun h => .inr (htx.agents a h)

theorem CheckedSince.putShipment (hc : start.CheckedSince S) {x : Shipment}
    (hx : x.report.isEmpty = true) : start.CheckedSince (S.putShipment x) where
  shipments s hs := (Table.mem_insert hs).elim (fun h => .inr (h ▸ hx)) (hc.shipments s)
  offers := hc.offers
  agents := hc.agents

theorem CheckedSince.putOffer (hc : start.CheckedSince S) {x : Offer}
    (hx : x.report.isEmpty = true) : start.CheckedSince (S.putOffer x) where
  shipments := hc.shipments
  offers o ho := (Table.mem_insert ho).elim (fun h => .inr (h ▸ hx)) (hc.offers o)
  agents := hc.agents

end Store

/-- Nothing is asked of the units. -/
theorem Guarantee.anything {ι : Type} (job : ι → Job) : Guarantee job fun _ _ => True where
  calm _ := trivial
  trans _ _ := trivial
  commit _ _ _ := trivial

/-- However units of any kind mix, all that they store was checked. -/
theorem System.checked_run {ι : Type} (job : ι → Job) (start : Store) (events : List (Event ι)) :
    start.CheckedSince (run job start events).store := by
  refine run_preserves (Guarantee.anything job) (I := fun sys => start.CheckedSince sys.store)
    events (.refl start) ?_
  intro sys sys' h hleads
  cases hleads with
  | quiet store => exact h.of_calm store
  | commit begins ran later commits committed log =>
    obtain ⟨-, -, hstore⟩ := Transaction.commit_eq_ok.mp committed
    rw [hstore]
    exact h.apply (ran.checked Transaction.checked_begin)

end Relocation
