-- What a task does to one shipment and its offers, told from their side. Of
-- all the tasks only awards, submissions and answers concern a shipment that
-- no provider has taken, and only those that name it.
import Relocation.Proofs.Effects

namespace Relocation

/-! ## Which shipment a task is about -/

namespace Task

/-- To whom the task awards the shipment `x`, if it does. -/
def awards (x : ShipmentId) : Task → Option (Option ProviderId)
  | .request _ _ (.award y) => if y = x then some none else none
  | .request _ _ (.awardTo y p) => if y = x then some (some p) else none
  | _ => none

def submits (x : ShipmentId) : Task → Bool
  | .request _ _ (.submit y) => y = x
  | _ => false

def rejects (x : ShipmentId) : Task → Bool
  | .request _ _ (.reject _ y _) => y = x
  | _ => false

/-- The task is the provider's answer for the shipment `x`. -/
def answers (p : ProviderId) (x : ShipmentId) : Task → Bool
  | .request _ _ (.accept q y) => q = p && y = x
  | .request _ _ (.reject q y _) => q = p && y = x
  | _ => false

end Task

namespace Store

variable {S S' : Store}

def status? (S : Store) (x : ShipmentId) : Option ShipmentStatus := (S.shipment? x).map (·.status)

/-! ## One shipment after a write -/

theorem status?_of_shipment? {x : ShipmentId} {s : Shipment} (hs : S.shipment? x = some s) :
    S.status? x = some s.status := by
  rw [status?, hs, Option.map_some]

theorem status?_of_same (hs : S'.shipments = S.shipments) : S'.status? = S.status? := by
  funext x
  unfold status? shipment?
  rw [hs]

theorem linked_of_same (ho : S'.offers = S.offers) : S'.linked = S.linked := by
  funext p x
  unfold linked
  rw [ho]

theorem status?_putShipment (S : Store) (s : Shipment) (x : ShipmentId) :
    (S.putShipment s).status? x = if s.id = x then some s.status else S.status? x := by
  unfold status?
  rw [shipment?_putShipment]
  split <;> rfl

/-- A shipment that was moved has the status that the move leads to. -/
theorem status?_of_moved {x : ShipmentId} {s s' : Shipment} {op : ShipmentOperation}
    (hs : S.shipment? x = some s) (h : s.Moved op s') :
    (S.putShipment s').status? x = some op.target := by
  rw [status?_putShipment, if_pos (h.id.trans (Table.key_of_find? hs)), h.status]

theorem mem_linked_putOffer {o u : Offer} {q : ProviderId} {x : ShipmentId} :
    u ∈ (S.putOffer o).linked q x ↔
      (u = o ∧ o.providerId = q ∧ o.shipmentId = x) ∨ (u.id ≠ o.id ∧ u ∈ S.linked q x) := by
  rw [mem_linked, mem_linked, offer?_putOffer]
  by_cases hid : o.id = u.id
  · rw [if_pos hid, Option.some.injEq]
    constructor
    · rintro ⟨rfl, hp, hx⟩
      exact .inl ⟨rfl, hp, hx⟩
    · rintro (⟨rfl, hp, hx⟩ | ⟨hne, -⟩)
      · exact ⟨rfl, hp, hx⟩
      · exact absurd hid.symm hne
  · rw [if_neg hid]
    constructor
    · exact fun h => .inr ⟨fun e => hid e.symm, h⟩
    · rintro (⟨rfl, -⟩ | ⟨-, h⟩)
      · exact absurd rfl hid
      · exact h

/-- An offer of another shipment is none of this one's business. -/
theorem mem_linked_putOffer_of_ne {o : Offer} {x : ShipmentId} (hx : o.shipmentId ≠ x)
    (hold : ∀ u, S.offer? o.id = some u → u.shipmentId ≠ x) (q : ProviderId) (u : Offer) :
    u ∈ (S.putOffer o).linked q x ↔ u ∈ S.linked q x := by
  rw [mem_linked_putOffer]
  constructor
  · rintro (⟨-, -, h⟩ | ⟨-, h⟩)
    · exact absurd h hx
    · exact h
  · intro h
    refine .inr ⟨fun hid => ?_, h⟩
    obtain ⟨hu, -, hux⟩ := mem_linked.mp h
    exact hold u (hid ▸ hu) hux

end Store

/-! ## All that a task can do to a shipment -/

/-- What the task does to the shipment `x` and its offers. -/
inductive Task.Touches (x : ShipmentId) (t : Task) (S S' : Store) : Prop
  /-- Nothing, unless a provider has taken it already. -/
  | leaves (status : ∀ a, a.isTaken = false → (S'.status? x = some a ↔ S.status? x = some a))
      (offers : ∀ q u, u ∈ S'.linked q x ↔ u ∈ S.linked q x)
      (awards : t.awards x = none) (submits : t.submits x = false) (rejects : t.rejects x = false)
  | awarded (new : Option Offer) (before : S.status? x = some .submitted)
      (after : S'.status? x = some .awarded)
      (pending : ∀ o, new = some o → o.accepted = none ∧ ∀ u, u ∉ S.linked o.providerId x)
      (offers : ∀ q u, u ∈ S'.linked q x ↔ u ∈ S.linked q x ∨ new = some u ∧ u.providerId = q)
      (awards : t.awards x = some (new.map (·.providerId))) (submits : t.submits x = false)
      (rejects : t.rejects x = false)
  | submitted (before : S.status? x = some .draft ∨ S.status? x = some .awarded)
      (after : S'.status? x = some .submitted)
      (offers : ∀ q u, u ∈ S'.linked q x ↔ u ∈ S.linked q x)
      (awards : t.awards x = none) (submits : t.submits x = true) (rejects : t.rejects x = false)
  | answered (p : ProviderId) (o o' : Offer) (flag : Bool) (before : S.status? x = some .awarded)
      (after : S'.status? x = some (if flag then .accepted else .submitted))
      (one : S.linked p x = [o]) (pending : o.accepted = none) (closed : o'.accepted = some flag)
      (offers : ∀ q u, u ∈ S'.linked q x ↔ if q = p then u = o' else u ∈ S.linked q x)
      (awards : t.awards x = none) (submits : t.submits x = false) (rejects : t.rejects x = !flag)

namespace Task

open Store (status?_of_shipment? status?_putShipment status?_of_moved mem_linked
  mem_linked_putOffer mem_linked_putOffer_of_ne)

variable {S S' : Store} {x : ShipmentId} {t : Task}

theorem touches_of_same (hs : S'.shipments = S.shipments) (ho : S'.offers = S.offers)
    (awards : t.awards x = none) (submits : t.submits x = false) (rejects : t.rejects x = false) :
    t.Touches x S S' := by
  refine .leaves ?_ ?_ awards submits rejects
  · intro a _
    rw [Store.status?_of_same hs]
  · intro q u
    rw [Store.linked_of_same ho]

/-- A write to a shipment that is not moved, or is another one. -/
theorem touches_put {y : ShipmentId} {s s' : Shipment} (hs : S.shipment? y = some s)
    (hid : s'.id = s.id)
    (hstatus : y = x → ∀ a, a.isTaken = false → (s'.status = a ↔ s.status = a))
    (awards : t.awards x = none) (submits : t.submits x = false) (rejects : t.rejects x = false) :
    t.Touches x S (S.putShipment s') := by
  have hy : s'.id = y := hid.trans (Table.key_of_find? hs)
  refine .leaves ?_ (fun _ _ => Iff.rfl) awards submits rejects
  intro a ha
  rw [status?_putShipment]
  by_cases hx : y = x
  · subst hx
    rw [if_pos hy, status?_of_shipment? hs, Option.some.injEq, Option.some.injEq]
    exact hstatus rfl a ha
  · rw [if_neg (hy ▸ hx)]

/-- A write to a pair of another shipment. -/
theorem touches_pair_of_ne {y : ShipmentId} {s' : Shipment} {o' : Offer} (hx : y ≠ x)
    (hid : s'.id = y) (hshipment : o'.shipmentId = y)
    (hold : ∀ u, S.offer? o'.id = some u → u.shipmentId = y) (awards : t.awards x = none)
    (submits : t.submits x = false) (rejects : t.rejects x = false) :
    t.Touches x S ((S.putShipment s').putOffer o') := by
  refine .leaves ?_ ?_ awards submits rejects
  · intro a _
    change (S.putShipment s').status? x = _ ↔ _
    rw [status?_putShipment, if_neg (hid ▸ hx)]
  · refine mem_linked_putOffer_of_ne (S := S.putShipment s') (hshipment ▸ hx) ?_
    intro u hu
    exact hold u hu ▸ hx

/-- After an answer the closed offer stands in the place of the pending one. -/
theorem mem_linked_of_answer {p : ProviderId} {s : Shipment} {o o' : Offer} {flag : Bool}
    (hone : S.linked p x = [o]) (h : o.Answered flag o') (q : ProviderId) (u : Offer) :
    u ∈ ((S.putShipment s).putOffer o').linked q x ↔
      if q = p then u = o' else u ∈ S.linked q x := by
  obtain ⟨ho, rfl, rfl⟩ := mem_linked.mp (hone ▸ List.mem_singleton_self o)
  rw [mem_linked_putOffer, h.providerId, h.shipmentId, h.id]
  change _ ∨ _ ∧ u ∈ S.linked q _ ↔ _
  by_cases hq : q = o.providerId
  · subst hq
    rw [if_pos rfl, hone, List.mem_singleton]
    constructor
    · rintro (⟨rfl, -⟩ | ⟨hne, rfl⟩)
      · rfl
      · exact absurd rfl hne
    · rintro rfl
      exact .inl ⟨rfl, rfl, rfl⟩
  · rw [if_neg hq]
    constructor
    · rintro (⟨-, e, -⟩ | ⟨-, hu⟩)
      · exact absurd e.symm hq
      · exact hu
    · intro hu
      refine .inr ⟨fun e => ?_, hu⟩
      -- The offer of another provider has another id.
      obtain ⟨hfound, huq, -⟩ := mem_linked.mp hu
      rw [e, ho, Option.some.injEq] at hfound
      exact hq (hfound ▸ huq.symm)

theorem mem_linked_of_award {s : Shipment} {o : Offer} (hfree : S.offer? o.id = none)
    (hx : o.shipmentId = x) (q : ProviderId) (u : Offer) :
    u ∈ ((S.putShipment s).putOffer o).linked q x ↔
      u ∈ S.linked q x ∨ some o = some u ∧ u.providerId = q := by
  rw [mem_linked_putOffer, Option.some.injEq]
  change _ ∨ _ ∧ u ∈ S.linked q x ↔ _
  constructor
  · rintro (⟨rfl, hq, -⟩ | ⟨-, hu⟩)
    · exact .inr ⟨rfl, hq⟩
    · exact .inl hu
  · rintro (hu | ⟨rfl, hq⟩)
    · refine .inr ⟨fun e => ?_, hu⟩
      rw [← e, (mem_linked.mp hu).1] at hfree
      cases hfree
    · exact .inl ⟨rfl, hq, hx⟩

/-- An answer moves both records of a pair. -/
theorem touches_answered {p : ProviderId} {y : ShipmentId} {s s' : Shipment} {o o' : Offer}
    {op : ShipmentOperation} {flag : Bool} (hs : S.shipment? y = some s)
    (hone : S.linked p y = [o]) (h : PairAnswered s o op flag s' o')
    (htarget : op.target = if flag then .accepted else .submitted) (awards : t.awards x = none)
    (submits : t.submits x = false) (rejects : t.rejects x = (decide (y = x) && !flag)) :
    t.Touches x S ((S.putShipment s').putOffer o') := by
  by_cases hx : y = x
  · subst hx
    rw [decide_eq_true rfl, Bool.true_and] at rejects
    refine .answered p o o' flag ?_ ?_ hone h.offer.pending h.offer.accepted ?_ awards submits
      rejects
    · rw [status?_of_shipment? hs, h.awarded]
    · rw [← htarget]
      exact status?_of_moved hs h.shipment
    · exact mem_linked_of_answer hone h.offer
  · rw [decide_eq_false hx, Bool.false_and] at rejects
    obtain ⟨ho, -, hoy⟩ := mem_linked.mp (hone ▸ List.mem_singleton_self o)
    have hid : s'.id = y := h.shipment.id.trans (Table.key_of_find? hs)
    refine touches_pair_of_ne hx hid (h.offer.shipmentId.trans hoy) ?_ awards submits rejects
    intro u hu
    rw [h.offer.id, ho, Option.some.injEq] at hu
    exact hu ▸ hoy

/-- Says once and for all what a task can do to a shipment. -/
theorem touches {a : t.Answer} (h : t.Effect S S' a) (x : ShipmentId) : t.Touches x S S' := by
  cases t with
  | advance g y steps =>
    obtain ⟨s, hs, hsteps, rfl⟩ := h
    have honward := Shipment.onward_advance hsteps
    refine touches_put hs honward.id (fun _ b hb => ?_) rfl rfl rfl
    constructor
    · rintro rfl
      exact (honward.status (honward.taken ▸ hb)).symm
    · rintro rfl
      exact honward.status hb
  | request g fresh r =>
    cases r with
    | fetch p y =>
      obtain rfl : S' = S := h
      exact touches_of_same rfl rfl rfl rfl rfl
    | listAgents y =>
      obtain rfl : S' = S := h
      exact touches_of_same rfl rfl rfl rfl rfl
    | addAgent y request =>
      obtain ⟨-, -, rfl⟩ := h
      exact touches_of_same rfl rfl rfl rfl rfl
    | survey p y patch =>
      obtain ⟨s, o, hs, hone, hmade, rfl⟩ := h
      obtain rfl := Shipment.of_surveyed hmade
      exact touches_put hs rfl (fun _ _ _ => Iff.rfl) rfl rfl rfl
    | accept p y =>
      obtain ⟨s, o, hs, hone, hmade, rfl⟩ := h
      have hpair := Coordinator.of_acceptPair hmade
      exact touches_answered hs hone hpair rfl rfl rfl (by simp [rejects])
    | reject p y reason =>
      obtain ⟨s, o, hs, hone, hmade, rfl⟩ := h
      have hpair := Coordinator.of_rejectPair hmade
      exact touches_answered hs hone hpair rfl rfl rfl (by simp [rejects])
    | submit y =>
      obtain ⟨s, hs, hafter, rfl⟩ := h
      have hmoved := Shipment.moved_of_after hafter
      by_cases hx : y = x
      · subst hx
        refine .submitted ?_ (status?_of_moved hs hmoved) (fun _ _ => Iff.rfl) rfl
          (by simp [submits]) rfl
        rw [status?_of_shipment? hs]
        simpa [ShipmentOperation.starts] using hmoved.allowed
      · exact touches_put hs hmoved.id (fun e => absurd e hx) rfl (by simp [submits, hx]) rfl
    | award y =>
      obtain ⟨s, hs, hafter, rfl⟩ := h
      have hmoved := Shipment.moved_of_after hafter
      by_cases hx : y = x
      · subst hx
        have hoffers : ∀ q u, u ∈ (S.putShipment a).linked q y ↔
            u ∈ S.linked q y ∨ none = some u ∧ u.providerId = q := by
          intro q u
          simp only [reduceCtorEq, false_and, or_false]
          rfl
        refine .awarded none ?_ (status?_of_moved hs hmoved) (fun _ e => by cases e) hoffers
          (by simp [awards]) rfl rfl
        rw [status?_of_shipment? hs]
        simpa [ShipmentOperation.starts] using hmoved.allowed
      · exact touches_put hs hmoved.id (fun e => absurd e hx) (by simp [awards, hx]) rfl rfl
    | awardTo y p =>
      obtain ⟨s', o⟩ := a
      obtain ⟨s, hs, hnone, hafter, hnew, hfree, rfl⟩ := h
      have hmoved := Shipment.moved_of_after hafter
      have hp : o.providerId = p := by rw [hnew]; rfl
      have hox : o.shipmentId = y := by rw [hnew]; rfl
      have hopen : o.accepted = none := by rw [hnew]; rfl
      by_cases hx : y = x
      · subst hx
        refine .awarded (some o) ?_ (status?_of_moved hs hmoved) ?_ (mem_linked_of_award hfree hox)
          (by simp [awards, hp]) rfl rfl
        · rw [status?_of_shipment? hs]
          simpa [ShipmentOperation.starts] using hmoved.allowed
        · rintro _ ⟨⟩
          rw [hp, hnone]
          exact ⟨hopen, fun u => List.not_mem_nil⟩
      · have hid : s'.id = y := hmoved.id.trans (Table.key_of_find? hs)
        refine touches_pair_of_ne hx hid hox ?_ (by simp [awards, hx]) rfl rfl
        intro u hu
        rw [hfree] at hu
        cases hu

end Task

end Relocation
