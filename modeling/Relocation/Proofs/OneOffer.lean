-- A provider has at most one offer of a shipment. Whether it has one is read
-- from a set of offers that has no version. The shipment is read before it,
-- and each new offer changes the shipment, so a stale reading never commits.
import Relocation.Proofs.System

namespace Relocation

/-! ## Offers are looked up before any is staged -/

@[simp] def Call.looksUpOffers : Call → Bool
  | .findOffers _ _ => true
  | _ => false

def Call.stagesOffer : Call → Bool
  | .saveOffer _ => true
  | _ => false

namespace Work

variable {α β : Type} {staged : Bool}

/-- No offers are looked up once an offer is staged; `staged` says if one is. -/
def LooksFirst : Bool → Work α → Prop
  | _, .done _ => True
  | _, .fail _ => True
  | staged, .call c next => (c.looksUpOffers = true → staged = false) ∧
      ∀ reply, LooksFirst (staged || c.stagesOffer) (next reply)

theorem LooksFirst.weaken {w : Work α} (h : w.LooksFirst true) : w.LooksFirst staged := by
  induction w generalizing staged with
  | done a => trivial
  | fail failure => trivial
  | call c next ih =>
    obtain ⟨hlook, hnext⟩ := h
    refine ⟨fun hc => absurd (hlook hc) (by decide), fun reply => ?_⟩
    exact ih reply (hnext reply)

theorem looksFirst_bind {x : Work α} {f : α → Work β} (hx : x.LooksFirst staged)
    (hf : ∀ a, (f a).LooksFirst true) : (x >>= f).LooksFirst staged := by
  induction x generalizing staged with
  | done a => exact (hf a).weaken
  | fail failure => trivial
  | call c next ih => exact ⟨hx.1, fun reply => ih reply (hx.2 reply)⟩

theorem looksFirst_ofExcept_bind (e : Except Failure α) {f : α → Work β}
    (hf : ∀ a, (f a).LooksFirst staged) : (ofExcept e >>= f).LooksFirst staged := by
  cases e with
  | error failure => trivial
  | ok a => exact hf a

theorem looksFirst_ask_bind (c : Call) {f : c.Reply → Work β}
    (hc : c.looksUpOffers = true → staged = false)
    (hf : ∀ reply, (f reply).LooksFirst (staged || c.stagesOffer)) :
    (ask c >>= f).LooksFirst staged := ⟨hc, hf⟩

end Work

namespace Coordinator

open Work (looksFirst_bind looksFirst_ofExcept_bind looksFirst_ask_bind)

variable {β : Type} {staged : Bool}

theorem looksFirst_savePair (s : Shipment) (o : Offer) : (savePair s o).LooksFirst staged := by
  unfold savePair
  refine looksFirst_ofExcept_bind _ fun _ => ?_
  refine looksFirst_ask_bind _ (by simp) fun _ => ?_
  exact ⟨by simp, fun _ => trivial⟩

theorem looksFirst_saveShipment (s : Shipment) : (saveShipment s).LooksFirst staged := by
  unfold saveShipment
  refine looksFirst_ofExcept_bind _ fun _ => ?_
  exact ⟨by simp, fun _ => trivial⟩

theorem looksFirst_loadPair_bind (p : ProviderId) (x : ShipmentId)
    {f : Shipment × Offer → Work β} (hf : ∀ a, (f a).LooksFirst false) :
    (loadPair p x >>= f).LooksFirst false := by
  refine ⟨fun _ => rfl, fun os => ?_⟩
  rcases os with _ | ⟨o, _ | ⟨o', os⟩⟩
  · trivial
  · exact ⟨by simp, fun s => hf (s, o)⟩
  · trivial

theorem looksFirst_changePair (p : ProviderId) (x : ShipmentId)
    (f : Shipment → Offer → Except Failure (Shipment × Offer)) :
    (changePair p x f).LooksFirst false := by
  unfold changePair
  refine looksFirst_loadPair_bind p x fun ⟨s, o⟩ => ?_
  refine looksFirst_ofExcept_bind _ fun ⟨s, o⟩ => ?_
  exact looksFirst_bind (looksFirst_savePair s o) fun _ => trivial

theorem looksFirst_changeShipment {stage : Shipment → Work Unit}
    (hstage : ∀ s, (stage s).LooksFirst false) (x : ShipmentId)
    (f : Shipment → Except Failure Shipment) : (changeShipment stage x f).LooksFirst false := by
  unfold changeShipment
  refine looksFirst_ask_bind _ (by simp) fun s => ?_
  refine looksFirst_ofExcept_bind _ fun s => ?_
  exact looksFirst_bind (hstage s) fun _ => trivial

theorem looksFirst_awardTo (fresh : Fresh) (x : ShipmentId) (p : ProviderId) :
    (awardTo fresh x p).LooksFirst false := by
  unfold awardTo
  refine looksFirst_ask_bind _ (by simp) fun s => ?_
  refine looksFirst_ask_bind _ (fun _ => rfl) fun os => ?_
  split
  · trivial
  · refine looksFirst_ofExcept_bind _ fun s => ?_
    exact looksFirst_bind (looksFirst_savePair s _) fun _ => trivial

end Coordinator

open Coordinator

theorem Task.looksFirst (t : Task) : t.work.LooksFirst false := by
  cases t with
  | advance g x steps =>
    have hstage : ∀ s, (Work.ask (.saveShipment s)).LooksFirst false :=
      fun s => ⟨by simp, fun _ => trivial⟩
    exact looksFirst_changeShipment hstage x _
  | request g fresh r =>
    cases r with
    | fetch p x => exact looksFirst_loadPair_bind p x fun _ => trivial
    | accept p x =>
      change (accept fresh p x).LooksFirst false
      rw [accept_eq]
      exact looksFirst_changePair p x _
    | reject p x reason =>
      change (reject fresh p x reason).LooksFirst false
      rw [reject_eq]
      exact looksFirst_changePair p x _
    | award x => exact looksFirst_changeShipment looksFirst_saveShipment x _
    | submit x => exact looksFirst_changeShipment looksFirst_saveShipment x _
    | awardTo x p => exact looksFirst_awardTo fresh x p
    | survey p x patch =>
      refine looksFirst_loadPair_bind p x fun ⟨s, o⟩ => ?_
      refine Work.looksFirst_ofExcept_bind _ fun s' => ?_
      exact Work.looksFirst_bind (looksFirst_saveShipment _) fun _ => trivial
    | addAgent x request =>
      refine Work.looksFirst_ask_bind _ (by simp) fun s => ?_
      refine Work.looksFirst_ofExcept_bind _ fun a => ?_
      exact ⟨by simp, fun _ => trivial⟩
    | listAgents x =>
      refine Work.looksFirst_ask_bind _ (by simp) fun s => ?_
      exact ⟨by simp, fun _ => trivial⟩

/-! ## What the lookups of a unit find -/

theorem Transaction.offers_of_answer {tx tx' : Transaction} {S : Store} {c : Call} {reply : c.Reply}
    (h : tx.answer S c = .ok (reply, tx')) (hc : c.stagesOffer = false) :
    tx'.offers = tx.offers := by
  rcases answer_cases h with ⟨s, rfl, -, rfl⟩ | ⟨o, rfl, -, rfl⟩ | ⟨a, rfl, -, rfl⟩ | ⟨-, hoffers, -⟩
  · rfl
  · cases hc
  · rfl
  · exact hoffers

/-- A unit that looks first has staged no offer when it looks. -/
theorem Work.Reached.looksFirst {α : Type} {R : Store → Store → Prop} {g : Gateway} {w₀ w : Work α}
    {S : Store} {tx : Transaction} (h : Work.Reached R g w₀ S tx w) (hw : w₀.LooksFirst false) :
    ∃ staged, w.LooksFirst staged ∧ (staged = false → tx.offers = .empty) := by
  induction h with
  | start passed => exact ⟨false, hw, fun _ => rfl⟩
  | @call T S tx tx' c next reply before later passed answered ih =>
    obtain ⟨staged, ⟨-, hnext⟩, hempty⟩ := ih
    refine ⟨staged || c.stagesOffer, hnext reply, fun hno => ?_⟩
    rw [Bool.or_eq_false_iff] at hno
    rw [Transaction.offers_of_answer answered hno.2, hempty hno.1]

/-! ## The set of offers -/

/-- No two offers link one provider to one shipment. -/
theorem nodup_pairs_iff {S : Store} :
    (S.offers.entries.map fun o => (o.providerId, o.shipmentId)).Nodup ↔
      ∀ p x, (S.linked p x).length ≤ 1 := by
  have hcount : ∀ p x, (S.offers.entries.map fun o => (o.providerId, o.shipmentId)).count (p, x) =
      (S.linked p x).length := by
    intro p x
    unfold Store.linked
    rw [List.count_eq_countP, List.countP_map, ← List.countP_eq_length_filter]
    congr 1
  rw [List.nodup_iff_count]
  constructor
  · intro h p x
    rw [← hcount]
    exact h (p, x)
  · intro h ⟨p, x⟩
    rw [hcount]
    exact h p x

theorem Store.Later.linked_le_one {S S' : Store} (h : S.Later S') (p : ProviderId) (x : ShipmentId)
    (hone : (S.linked p x).length ≤ 1) : (S'.linked p x).length ≤ 1 := by
  rcases h.linked p x with hsame | ⟨-, hlength, -⟩
  · rw [← List.length_map (f := Offer.id), hsame, List.length_map]
    exact hone
  · exact Nat.le_of_eq hlength

/-- In every store that the tasks come to, no two offers link one provider to
one shipment, and no unit that looks up the offers of a pair finds two. -/
theorem a_provider_has_one_offer_of_a_shipment (start : Store)
    (hstart : (start.offers.entries.map fun o => (o.providerId, o.shipmentId)).Nodup)
    (events : List (Event Task)) :
    ((System.run Task.job start events).store.offers.entries.map fun o =>
      (o.providerId, o.shipmentId)).Nodup ∧
    ∀ u ∈ (System.run Task.job start events).units, ∀ tx p x next,
      u.progress = .running tx (.call (.findOffers p x) next) →
        (tx.findOffers (System.run Task.job start events).store p x).1.length ≤ 1 := by
  have hlater := System.later_run Task.guarantee start events
  have hlinked : ∀ p x, ((System.run Task.job start events).store.linked p x).length ≤ 1 :=
    fun p x => hlater.linked_le_one p x (nodup_pairs_iff.mp hstart p x)
  refine ⟨nodup_pairs_iff.mpr hlinked, ?_⟩
  intro u hu tx p x next hprogress
  have htraced := System.sound_run Task.guarantee start events u hu
  rw [hprogress] at htraced
  cases htraced with
  | running reached later =>
    obtain ⟨staged, ⟨hlook, -⟩, hempty⟩ := reached.looksFirst u.kind.looksFirst
    rw [Transaction.findOffers_of_unstaged _ p x (hempty (hlook rfl))]
    exact hlinked p x

/-- The shipment is awarded to one provider twice at the same time, who then
looks for the offer. -/
def Sample.awards : List (Event Task) :=
  let award (n : Uuid) := Sample.task (.awardTo Sample.shipment.id ⟨Sample.uuid 3⟩) n
  let accept := Sample.task (.accept ⟨Sample.uuid 3⟩ Sample.shipment.id)
  [.start (award (Sample.uuid 4)), .start (award (Sample.uuid 5))] ++
    (List.replicate 6 [.call 0, .call 1]).flatten ++ [.start accept, .call 2]

/-- Only one of the two awards goes through. -/
theorem one_offer_after_a_race_of_awards :
    ((System.run Task.job Sample.store Sample.awards).store.offers.entries.map fun o =>
      (o.providerId, o.shipmentId)).Nodup ∧
    ∃ u ∈ (System.run Task.job Sample.store Sample.awards).units, ∃ tx p x next,
      u.progress = .running tx (.call (.findOffers p x) next) ∧
      (tx.findOffers (System.run Task.job Sample.store Sample.awards).store p x).1.length ≤ 1 := by
  obtain ⟨hnodup, hlookups⟩ := a_provider_has_one_offer_of_a_shipment Sample.store (by decide)
    Sample.awards
  let accept := Sample.task (.accept ⟨Sample.uuid 3⟩ Sample.shipment.id)
  have hunit : (System.run Task.job Sample.store Sample.awards).units[2]? =
      some ⟨accept, .running .begin accept.work⟩ := rfl
  have hmem := List.mem_of_getElem? hunit
  exact ⟨hnodup, _, hmem, _, _, _, _, rfl, hlookups _ hmem _ _ _ _ rfl⟩

end Relocation
