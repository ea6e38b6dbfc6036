-- What comes of a provider's answer that nothing interferes with, whatever is stored. What
-- stands against it is looked for in a fixed order, and the first thing found is the
-- failure. An answer that nothing stands against changes the shipment and its offer, and
-- nothing else. It is told for both builds: the last version stands against an answer only
-- where sums are checked.
import Relocation.Proofs.Alone

namespace Relocation

/-! ## The records after an answer -/

/-- The status that an answer leads to. -/
def OfferOperation.leadsTo : OfferOperation → ShipmentStatus
  | .accept => .accepted
  | .reject => .submitted

/-- The shipment after an answer. -/
def Shipment.withAnswer (s : Shipment) (op : OfferOperation) (now : Timestamp) : Shipment :=
  { s with status := op.leadsTo, version := (s.version + 1) % Version.count, updatedAt := now }

/-- The offer after an answer with the reason. -/
def Offer.withAnswer (o : Offer) (op : OfferOperation) (reason : Option String)
    (now : Timestamp) : Offer :=
  { o with
    accepted := some (op = .accept)
    rejectionReason := reason
    version := (o.version + 1) % Version.count
    updatedAt := now }

section

variable [Build]

/-- A pending offer takes every answer, if its version can be counted up. -/
theorem Offer.afterwards_answer_of_pending {o : Offer} (h : o.state = .pending)
    (hnext : Version.HasNext o.version) (op : OfferOperation) (reason : Option String)
    (now : Timestamp) : afterwards (o.answer op reason now) = .ok (o.withAnswer op reason now) := by
  rw [answer_of_pending h hnext]
  cases op <;> rfl

namespace Coordinator

variable {fresh : Fresh} {op : OfferOperation} {reason : Option String} {s : Shipment} {o : Offer}

/-- What an answer makes of the pair. -/
def answerPair (fresh : Fresh) (op : OfferOperation) (reason : Option String) (s : Shipment)
    (o : Offer) : Except Failure (Shipment × Offer) :=
  if s.status ≠ .awarded then
    .error (.invalidTransition Shipment.entity s.id.text op.name s.status.name)
  else if ¬ Version.HasNext s.version then .error .overflow
  else if o.state ≠ .pending then
    .error (.invalidTransition Offer.entity o.id.text op.name o.state.name)
  else if ¬ Version.HasNext o.version then .error .overflow
  else .ok (s.withAnswer op fresh.shipmentTime, o.withAnswer op reason fresh.recordTime)

/-- A change of an awarded shipment and an answer to its offer, one after the other, are the
answer of the pair. -/
theorem answerPair_of_after {move : ShipmentOperation} (hawarded : s.status = .awarded)
    (hmove : s.status ∈ move.starts)
    (hafter : Version.HasNext s.version →
      s.after move fresh.shipmentTime = .ok (s.withAnswer op fresh.shipmentTime)) :
    (do
      let s ← s.after move fresh.shipmentTime
      let o ← afterwards (o.answer op reason fresh.recordTime)
      .ok (s, o)) = answerPair fresh op reason s o := by
  unfold answerPair
  rw [if_neg (not_not_intro hawarded)]
  by_cases hnext : Version.HasNext s.version
  · rw [if_neg (not_not_intro hnext), hafter hnext]
    by_cases hpending : o.state = .pending
    · rw [if_neg (not_not_intro hpending)]
      by_cases hnext' : Version.HasNext o.version
      · rw [if_neg (not_not_intro hnext'), Offer.afterwards_answer_of_pending hpending hnext']
        rfl
      · rw [if_pos hnext', Offer.answer_of_overflow hpending hnext']
        rfl
    · rw [if_pos hpending, Offer.answer_of_not_pending hpending]
      rfl
  · rw [if_pos hnext, Shipment.after_of_overflow hmove hnext]
    rfl

theorem acceptPair_eq (fresh : Fresh) : acceptPair fresh = answerPair fresh .accept none := by
  funext s o
  by_cases hawarded : s.status = .awarded
  · have hstarts : s.status ∈ ShipmentOperation.accept.starts := by
      simp [ShipmentOperation.starts, hawarded]
    exact answerPair_of_after hawarded hstarts fun hnext =>
      Shipment.after_eq_ok.mpr ⟨hstarts, hnext, rfl⟩
  · have hrefused : s.after .accept fresh.shipmentTime =
        .error (.invalidTransition Shipment.entity s.id.text "accept" s.status.name) :=
      Shipment.after_of_notMem (by simpa [ShipmentOperation.starts] using hawarded)
    unfold acceptPair answerPair
    rw [if_pos hawarded, hrefused]
    rfl

theorem rejectPair_eq (fresh : Fresh) (reason : String) :
    rejectPair fresh reason = answerPair fresh .reject (some reason) := by
  funext s o
  unfold rejectPair
  by_cases hawarded : s.status = .awarded
  · have hstarts : s.status ∈ ShipmentOperation.submit.starts := by
      simp [ShipmentOperation.starts, hawarded]
    rw [if_neg (not_not_intro hawarded)]
    exact answerPair_of_after hawarded hstarts fun hnext =>
      Shipment.after_eq_ok.mpr ⟨hstarts, hnext, rfl⟩
  · unfold answerPair
    rw [if_pos hawarded, if_pos hawarded]
    rfl

end Coordinator

end

/-! ## A pair in the store -/

namespace Store

variable {S : Store} {s : Shipment} {o : Offer}

/-- The stored shipment, with the only offer that links it to the provider. -/
structure HasPair (S : Store) (p : ProviderId) (x : ShipmentId) (s : Shipment) (o : Offer) :
    Prop where
  offer : S.linked p x = [o]
  shipment : S.shipment? x = some s

theorem HasPair.id {p : ProviderId} {x : ShipmentId} (h : S.HasPair p x s o) : s.id = x :=
  Table.key_of_find? h.shipment

theorem HasPair.offer? {p : ProviderId} {x : ShipmentId} (h : S.HasPair p x s o) :
    S.offer? o.id = some o :=
  (mem_linked.mp (h.offer ▸ List.mem_singleton_self o)).1

/-- A pair of which the provider may be asked: the shipment is awarded and the offer is
not answered, and both can be changed once more. -/
structure Answerable [Build] (S : Store) (p : ProviderId) (x : ShipmentId) (s : Shipment)
    (o : Offer) : Prop extends S.HasPair p x s o where
  awarded : s.status = .awarded
  shipmentNext : Version.HasNext s.version
  pending : o.state = .pending
  offerNext : Version.HasNext o.version

/-- The two records stand in their places, and all else is as it was. -/
structure Replaced (S : Store) (s : Shipment) (o : Offer) (S' : Store) : Prop where
  shipment : S'.shipment? s.id = some s
  offer : S'.offer? o.id = some o
  otherShipments : ∀ x ≠ s.id, S'.shipment? x = S.shipment? x
  otherOffers : ∀ x ≠ o.id, S'.offer? x = S.offer? x
  shipmentOrder : S'.shipments.keys = S.shipments.keys
  offerOrder : S'.offers.keys = S.offers.keys
  agents : S'.agents = S.agents
  nextFailure : S'.nextFailure = S.nextFailure

theorem replaced_put (hs : (S.shipment? s.id).isSome) (ho : (S.offer? o.id).isSome) :
    S.Replaced s o ((S.putShipment s).putOffer o) where
  shipment := (shipment?_putShipment S s s.id).trans (if_pos rfl)
  offer := (offer?_putOffer _ o o.id).trans (if_pos rfl)
  otherShipments x hx := (shipment?_putShipment S s x).trans (if_neg (Ne.symm hx))
  otherOffers x hx := (offer?_putOffer _ o x).trans (if_neg (Ne.symm hx))
  shipmentOrder := (Table.keys_insert _ s).trans (if_pos ((Table.isSome_find? _ _).mp hs))
  offerOrder := (Table.keys_insert _ o).trans (if_pos ((Table.isSome_find? _ _).mp ho))
  agents := rfl
  nextFailure := rfl

end Store

/-! ## A change of a pair alone -/

namespace Coordinator

open Work (result_ofExcept result_bind_of_ok result_bind_of_error)

variable {S : Store} {p : ProviderId} {x : ShipmentId} {s s' : Shipment} {o o' : Offer}
  {f : Shipment → Offer → Except Failure (Shipment × Offer)}

theorem result_loadPair (h : S.HasPair p x s o) :
    (loadPair p x).result S .begin = .ok ((s, o), sawPair s o) := by
  unfold loadPair
  rw [result_bind_of_ok (result_findOffers rfl), h.offer]
  exact result_bind_of_ok (result_findShipment rfl h.shipment) _

theorem result_loadPair_of_noOffer (h : (S.linked p x).length ≠ 1) :
    (loadPair p x).result S .begin =
      .error (.notFound Offer.entity s!"shipment {x} for provider {p}") := by
  unfold loadPair
  rw [result_bind_of_ok (result_findOffers rfl)]
  split
  · rename_i hone
    simp [hone] at h
  · rfl

theorem result_loadPair_of_noShipment (h : (S.linked p x).length = 1)
    (hs : S.shipment? x = none) :
    (loadPair p x).result S .begin = .error (.notFound Shipment.entity x.text) := by
  obtain ⟨o, hone⟩ := List.length_eq_one_iff.mp h
  unfold loadPair
  rw [result_bind_of_ok (result_findOffers rfl), hone]
  exact result_bind_of_error (result_findShipment_of_none rfl hs) _

theorem answerPair_of_answerable [Build] {fresh : Fresh} {op : OfferOperation} {reason : Option String}
    (h : S.Answerable p x s o) : answerPair fresh op reason s o =
      .ok (s.withAnswer op fresh.shipmentTime, o.withAnswer op reason fresh.recordTime) := by
  unfold answerPair
  rw [if_neg (not_not_intro h.awarded), if_neg (not_not_intro h.shipmentNext),
    if_neg (not_not_intro h.pending), if_neg (not_not_intro h.offerNext)]

theorem result_changePair_of_unread {failure : Failure}
    (h : (loadPair p x).result S .begin = .error failure) :
    (changePair p x f).result S .begin = .error failure :=
  result_bind_of_error h _

theorem result_changePair_of_error {failure : Failure} (h : S.HasPair p x s o)
    (hf : f s o = .error failure) : (changePair p x f).result S .begin = .error failure := by
  unfold changePair
  rw [result_bind_of_ok (result_loadPair h)]
  exact result_bind_of_error ((result_ofExcept _).trans (congrArg _ hf)) _

theorem result_changePair_of_invalid (h : S.HasPair p x s o) (hf : f s o = .ok (s', o'))
    (hinvalid : (pairReport s' o').isEmpty = false) :
    (changePair p x f).result S .begin = .error (.invalid (pairReport s' o')) := by
  unfold changePair
  rw [result_bind_of_ok (result_loadPair h),
    result_bind_of_ok ((result_ofExcept _).trans (congrArg _ hf))]
  exact result_bind_of_error (result_savePair_of_invalid hinvalid) _

theorem result_changePair (h : S.HasPair p x s o) (hf : f s o = .ok (s', o'))
    (hvalid : (pairReport s' o').isEmpty = true) : (changePair p x f).result S .begin =
      .ok ((s', o'), ((sawPair s o).stageShipment s').stageOffer o') := by
  unfold changePair
  rw [result_bind_of_ok (result_loadPair h),
    result_bind_of_ok ((result_ofExcept _).trans (congrArg _ hf))]
  exact result_bind_of_ok (result_savePair hvalid) _

/-- A pair that has been read and staged has not moved on since. -/
theorem current_pair (h : S.HasPair p x s o) (hs : s'.id = s.id) (ho : o'.id = o.id) :
    (((sawPair s o).stageShipment s').stageOffer o').Current S := by
  rw [Transaction.current_stagePair (unstaged_sawPair s o), hs, ho,
    Transaction.readShipment?_sawPair, Transaction.readOffer?_sawPair, h.id, h.shipment, h.offer?]
  exact ⟨rfl, rfl⟩

end Coordinator

/-! ## What comes of an answer -/

/-- What comes of an answer to the shipment `x` and the store, by what is stored. -/
structure AnswerOutcome [Build] (fresh : Fresh) (op : OfferOperation) (reason : Option String)
    (S : Store) (p : ProviderId) (x : ShipmentId)
    (outcome : Except Failure (Shipment × Offer) × Store) : Prop where
  noOffer : (S.linked p x).length ≠ 1 →
    outcome = (.error (.notFound Offer.entity s!"shipment {x} for provider {p}"), S)
  noShipment : (S.linked p x).length = 1 → S.shipment? x = none →
    outcome = (.error (.notFound Shipment.entity x.text), S)
  notAwarded : ∀ s o, S.HasPair p x s o → s.status ≠ .awarded →
    outcome = (.error (.invalidTransition Shipment.entity x.text op.name s.status.name), S)
  /-- The last version of the shipment, where sums are checked: a panic. -/
  shipmentOverflow : ∀ s o, S.HasPair p x s o → s.status = .awarded →
    ¬ Version.HasNext s.version → outcome = (.error .overflow, S)
  notPending : ∀ s o, S.HasPair p x s o → s.status = .awarded → Version.HasNext s.version →
    o.state ≠ .pending →
    outcome = (.error (.invalidTransition Offer.entity o.id.text op.name o.state.name), S)
  /-- The last version of the offer, where sums are checked: a panic. -/
  offerOverflow : ∀ s o, S.HasPair p x s o → s.status = .awarded → Version.HasNext s.version →
    o.state = .pending → ¬ Version.HasNext o.version → outcome = (.error .overflow, S)
  /-- All that the changed records violate is reported together. -/
  invalid : ∀ s o, S.Answerable p x s o →
    ¬ ((s.withAnswer op fresh.shipmentTime).report.isEmpty = true ∧
      (o.withAnswer op reason fresh.recordTime).report.isEmpty = true) →
    ∃ report, outcome = (.error (.invalid report), S) ∧ report.fields.entries =
      (s.withAnswer op fresh.shipmentTime).report.within "shipment" ++
        (o.withAnswer op reason fresh.recordTime).report.within "offer"
  /-- The failure that was set for the commit is used up. -/
  refused : ∀ s o, S.Answerable p x s o →
    (s.withAnswer op fresh.shipmentTime).report.isEmpty = true →
    (o.withAnswer op reason fresh.recordTime).report.isEmpty = true →
    ∀ message, S.nextFailure = some message →
      outcome = (.error (.storage message true), { S with nextFailure := none })
  done : ∀ s o, S.Answerable p x s o →
    (s.withAnswer op fresh.shipmentTime).report.isEmpty = true →
    (o.withAnswer op reason fresh.recordTime).report.isEmpty = true →
    S.nextFailure = none →
    ∃ S', outcome = (.ok (s.withAnswer op fresh.shipmentTime,
        o.withAnswer op reason fresh.recordTime), S') ∧
      S.Replaced (s.withAnswer op fresh.shipmentTime) (o.withAnswer op reason fresh.recordTime) S'

namespace Coordinator

variable {g : Gateway} {S : Store}

theorem answerOutcome_run [Build] (hg : g.Passes) (fresh : Fresh) (op : OfferOperation)
    (reason : Option String) (S : Store) (p : ProviderId) (x : ShipmentId) :
    AnswerOutcome fresh op reason S p x
      (g.run S (changePair p x (answerPair fresh op reason))) where
  noOffer h := hg.run_of_error (result_changePair_of_unread (result_loadPair_of_noOffer h))
  noShipment h hs :=
    hg.run_of_error (result_changePair_of_unread (result_loadPair_of_noShipment h hs))
  notAwarded s o hpair hstatus := by
    refine hg.run_of_error (result_changePair_of_error hpair ?_)
    rw [← hpair.id]
    exact if_pos hstatus
  shipmentOverflow s o hpair hstatus hlast := by
    refine hg.run_of_error (result_changePair_of_error hpair ?_)
    unfold answerPair
    rw [if_neg (not_not_intro hstatus), if_pos hlast]
  notPending s o hpair hstatus hnext hstate := by
    refine hg.run_of_error (result_changePair_of_error hpair ?_)
    unfold answerPair
    rw [if_neg (not_not_intro hstatus), if_neg (not_not_intro hnext), if_pos hstate]
  offerOverflow s o hpair hstatus hnext hstate hlast := by
    refine hg.run_of_error (result_changePair_of_error hpair ?_)
    unfold answerPair
    rw [if_neg (not_not_intro hstatus), if_neg (not_not_intro hnext),
      if_neg (not_not_intro hstate), if_pos hlast]
  invalid s o h hinvalid := by
    rw [← isEmpty_pairReport, Bool.not_eq_true] at hinvalid
    have hresult :=
      result_changePair_of_invalid h.toHasPair (answerPair_of_answerable h) hinvalid
    exact ⟨_, hg.run_of_error hresult, entries_pairReport _ _⟩
  refused s o h hs ho message hnext :=
    hg.run_of_refused (result_changePair h.toHasPair (answerPair_of_answerable h)
      (isEmpty_pairReport.mpr ⟨hs, ho⟩)) hnext
  done s o h hs ho hnext := by
    have hpair := h.toHasPair
    have hresult := result_changePair hpair (answerPair_of_answerable h)
      (isEmpty_pairReport.mpr ⟨hs, ho⟩)
    refine ⟨_, hg.run_of_current hresult hnext (current_pair hpair rfl rfl), ?_⟩
    rw [Transaction.apply_stagePair (unstaged_sawPair s o)]
    apply Store.replaced_put
    · change (S.shipment? s.id).isSome = true
      rw [hpair.id, hpair.shipment]
      rfl
    · change (S.offer? o.id).isSome = true
      rw [hpair.offer?]
      rfl

end Coordinator

theorem Request.work_accept [Build] (fresh : Fresh) (p : ProviderId) (x : ShipmentId) :
    (Request.accept p x).work fresh =
      Coordinator.changePair p x (Coordinator.answerPair fresh .accept none) := by
  rw [← Coordinator.acceptPair_eq]
  exact Coordinator.accept_eq fresh p x

theorem Request.work_reject [Build] (fresh : Fresh) (p : ProviderId) (x : ShipmentId)
    (reason : String) : (Request.reject p x reason).work fresh =
      Coordinator.changePair p x (Coordinator.answerPair fresh .reject (some reason)) := by
  rw [← Coordinator.rejectPair_eq]
  exact Coordinator.reject_eq fresh p x reason

/-- The awarded shipment of the sample. -/
def Sample.awardedShipment : Shipment :=
  { shipment with status := .awarded, version := 1, bookDate := some (default : Timestamp).date }

/-- The awarded shipment of the sample, changed as often as can be counted, and its offer. -/
def Sample.lastAwarded : Store where
  shipments := Table.empty.insert { awardedShipment with version := 18446744073709551615 }
  offers := Table.empty.insert offer

end Relocation
