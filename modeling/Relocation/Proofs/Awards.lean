-- What comes of an award to a provider that nothing interferes with, whatever is stored.
-- What stands against it is looked for in a fixed order, and the first thing found is the
-- failure. An award that nothing stands against changes the shipment and adds one offer
-- behind all others, and nothing else. It is told for both builds: the last version stands
-- against an award only where sums are checked.
import Relocation.Proofs.Alone
import Relocation.Proofs.Constraints

namespace Relocation

/-! ## The records of an award -/

/-- The shipment after an award, which books it unless it is booked. -/
def Shipment.withAward (s : Shipment) (now : Timestamp) : Shipment :=
  { s with
    status := .awarded
    version := (s.version + 1) % Version.count
    updatedAt := now
    bookDate := s.bookDate.or (some now.date) }

/-- The offer that an award makes, which has no answer. -/
def Fresh.offer (fresh : Fresh) (p : ProviderId) (x : ShipmentId) : Offer where
  id := ⟨fresh.uuid⟩
  shipmentId := x
  providerId := p
  accepted := none
  rejectionReason := none
  version := 0
  createdAt := fresh.recordTime
  updatedAt := fresh.recordTime

theorem Shipment.after_award_of_submitted [Build] {s : Shipment} (h : s.status = .submitted)
    (hnext : Version.HasNext s.version) (now : Timestamp) :
    s.after .award now = .ok (s.withAward now) :=
  after_eq_ok.mpr ⟨by simp [ShipmentOperation.starts, h], hnext, rfl⟩

theorem Shipment.after_award_of_not_submitted [Build] {s : Shipment} (h : s.status ≠ .submitted)
    (now : Timestamp) : s.after .award now =
      .error (.invalidTransition entity s.id.text "award" s.status.name) :=
  after_of_notMem (by simpa [ShipmentOperation.starts] using h)

theorem Shipment.after_award_of_overflow [Build] {s : Shipment} (h : s.status = .submitted)
    (hlast : ¬ Version.HasNext s.version) (now : Timestamp) :
    s.after .award now = .error .overflow :=
  after_of_overflow (by simp [ShipmentOperation.starts, h]) hlast

/-- A new offer violates nothing, so it is the shipment that the report of an award is about. -/
theorem entries_pairReport_offer (s : Shipment) (fresh : Fresh) (p : ProviderId) (x : ShipmentId) :
    (Coordinator.pairReport s (fresh.offer p x)).fields.entries =
      (Constraint.all.filter fun c => ¬ c.Holds s).map fun c =>
        ("shipment." ++ c.field, [c.message s]) := by
  have hoffer : (fresh.offer p x).report.within "offer" = [] := rfl
  rw [Coordinator.entries_pairReport, hoffer, List.append_nil, Report.within, s.entries_report,
    List.map_map]
  rfl

theorem isEmpty_pairReport_offer (s : Shipment) (fresh : Fresh) (p : ProviderId) (x : ShipmentId) :
    (Coordinator.pairReport s (fresh.offer p x)).isEmpty = true ↔ ∀ c : Constraint, c.Holds s := by
  rw [Coordinator.isEmpty_pairReport, s.isEmpty_report_iff]
  exact and_iff_left rfl

/-! ## The store after an award -/

namespace Store

variable {S : Store} {p : ProviderId} {x : ShipmentId} {s : Shipment} {o : Offer}

/-- A shipment that may be awarded to the provider: it is stored and submitted and can be
changed once more, and no offer links it to the provider. -/
structure Awardable [Build] (S : Store) (p : ProviderId) (x : ShipmentId) (s : Shipment) :
    Prop where
  shipment : S.shipment? x = some s
  noOffer : S.linked p x = []
  submitted : s.status = .submitted
  shipmentNext : Version.HasNext s.version

theorem Awardable.id [Build] (h : S.Awardable p x s) : s.id = x := Table.key_of_find? h.shipment

/-- The shipment stands in its place and the offer behind all others, and all else is as it
was. -/
structure Extended (S : Store) (s : Shipment) (o : Offer) (S' : Store) : Prop where
  shipment : S'.shipment? s.id = some s
  otherShipments : ∀ x ≠ s.id, S'.shipment? x = S.shipment? x
  shipmentOrder : S'.shipments.keys = S.shipments.keys
  offers : S'.offers.entries = S.offers.entries ++ [o]
  agents : S'.agents = S.agents
  nextFailure : S'.nextFailure = S.nextFailure

theorem extended_put (hs : (S.shipment? s.id).isSome) (ho : S.offer? o.id = none) :
    S.Extended s o ((S.putShipment s).putOffer o) where
  shipment := (shipment?_putShipment S s s.id).trans (if_pos rfl)
  otherShipments x hx := (shipment?_putShipment S s x).trans (if_neg (Ne.symm hx))
  shipmentOrder := (Table.keys_insert _ s).trans (if_pos ((Table.isSome_find? _ _).mp hs))
  offers := entries_putOffer_of_new (S := S.putShipment s) ho
  agents := rfl
  nextFailure := rfl

end Store

/-! ## An award alone -/

namespace Coordinator

open Work (result_ofExcept result_bind_of_ok result_bind_of_error)

variable {S : Store} {p : ProviderId} {x : ShipmentId} {s : Shipment} {fresh : Fresh}

/-- What an award has staged in the end. -/
def stagedAward (fresh : Fresh) (p : ProviderId) (s : Shipment) : Transaction :=
  ((Transaction.begin.sawShipment s).stageShipment (s.withAward fresh.shipmentTime)).stageOffer
    (fresh.offer p s.id)

variable [Build]

theorem result_awardTo_of_noShipment (h : S.shipment? x = none) :
    (awardTo fresh x p).result S .begin = .error (.notFound Shipment.entity x.text) :=
  result_bind_of_error (result_findShipment_of_none rfl h) _

/-- An offer that is there stands against the award before the status does. -/
theorem result_awardTo_of_offered (hs : S.shipment? x = some s) (h : S.linked p x ≠ []) :
    (awardTo fresh x p).result S .begin = .error (.onField "offer.provider_id"
      s!"provider {p} already holds an offer for this shipment") := by
  unfold awardTo
  rw [result_bind_of_ok (result_findShipment rfl hs), result_bind_of_ok (result_findOffers rfl),
    if_pos h]
  rfl

/-- Without one, the status decides whether there is a pair to be saved. -/
theorem result_awardTo_of_noOffer (hs : S.shipment? x = some s) (h : S.linked p x = []) :
    (awardTo fresh x p).result S .begin =
      (Work.ofExcept (s.after .award fresh.shipmentTime) >>= fun s' =>
        savePair s' (fresh.offer p s'.id) >>= fun _ =>
          pure (s', fresh.offer p s'.id)).result S (Transaction.begin.sawShipment s) := by
  unfold awardTo
  rw [result_bind_of_ok (result_findShipment rfl hs), result_bind_of_ok (result_findOffers rfl),
    h, if_neg (not_not_intro rfl)]
  rfl

theorem result_awardTo_of_not_submitted (hs : S.shipment? x = some s) (h : S.linked p x = [])
    (hstatus : s.status ≠ .submitted) : (awardTo fresh x p).result S .begin =
      .error (.invalidTransition Shipment.entity x.text "award" s.status.name) := by
  have hid : s.id = x := Table.key_of_find? hs
  have hafter := Shipment.after_award_of_not_submitted hstatus fresh.shipmentTime
  rw [hid] at hafter
  rw [result_awardTo_of_noOffer hs h]
  exact result_bind_of_error ((result_ofExcept _).trans (congrArg _ hafter)) _

theorem result_awardTo_of_overflow (hs : S.shipment? x = some s) (h : S.linked p x = [])
    (hstatus : s.status = .submitted) (hlast : ¬ Version.HasNext s.version) :
    (awardTo fresh x p).result S .begin = .error .overflow := by
  have hafter := Shipment.after_award_of_overflow hstatus hlast fresh.shipmentTime
  rw [result_awardTo_of_noOffer hs h]
  exact result_bind_of_error ((result_ofExcept _).trans (congrArg _ hafter)) _

/-- The pair that an award of a submitted shipment saves. -/
theorem result_awardTo_of_awardable (h : S.Awardable p x s) :
    (awardTo fresh x p).result S .begin =
      (savePair (s.withAward fresh.shipmentTime) (fresh.offer p x) >>= fun _ =>
        pure (s.withAward fresh.shipmentTime, fresh.offer p x)).result S
          (Transaction.begin.sawShipment s) := by
  have hafter := Shipment.after_award_of_submitted h.submitted h.shipmentNext fresh.shipmentTime
  rw [result_awardTo_of_noOffer h.shipment h.noOffer,
    result_bind_of_ok ((result_ofExcept _).trans (congrArg _ hafter)), ← h.id]
  rfl

theorem result_awardTo_of_invalid (h : S.Awardable p x s)
    (hinvalid : ¬ ∀ c : Constraint, c.Holds (s.withAward fresh.shipmentTime)) :
    (awardTo fresh x p).result S .begin =
      .error (.invalid (pairReport (s.withAward fresh.shipmentTime) (fresh.offer p x))) := by
  rw [← isEmpty_pairReport_offer _ fresh p x, Bool.not_eq_true] at hinvalid
  rw [result_awardTo_of_awardable h]
  exact result_bind_of_error (result_savePair_of_invalid hinvalid) _

theorem result_awardTo (h : S.Awardable p x s)
    (hvalid : ∀ c : Constraint, c.Holds (s.withAward fresh.shipmentTime)) :
    (awardTo fresh x p).result S .begin =
      .ok ((s.withAward fresh.shipmentTime, fresh.offer p x), stagedAward fresh p s) := by
  rw [result_awardTo_of_awardable h]
  unfold stagedAward
  rw [h.id]
  exact result_bind_of_ok
    (result_savePair ((isEmpty_pairReport_offer _ fresh p x).mpr hvalid)) _

/-- The shipment has not moved on, so only the identity of the new offer can be taken. -/
theorem firstObstacle_stagedAward (h : S.Awardable p x s) :
    (stagedAward fresh p s).firstObstacle S =
      Transaction.obstacle (fresh.offer p x).id.text none
        ((S.offer? (fresh.offer p x).id).map (·.version)) := by
  have hread : (stagedAward fresh p s).readShipment? s.id = (S.shipment? s.id).map (·.version) := by
    rw [h.id, h.shipment, ← h.id]
    exact Transaction.readShipment?_sawShipment s
  have hcurrent : (stagedAward fresh p s).shipmentObstacle S (s.withAward fresh.shipmentTime) =
      none := Transaction.obstacle_eq_none.mpr hread
  have hshipments : (stagedAward fresh p s).shipments.entries =
      [s.withAward fresh.shipmentTime] := rfl
  have hoffers : (stagedAward fresh p s).offers.entries = [fresh.offer p s.id] := rfl
  have hagents : (stagedAward fresh p s).agents = [] := rfl
  unfold Transaction.firstObstacle
  rw [hshipments, hoffers, hagents, List.findSome?_singleton, List.findSome?_singleton, hcurrent,
    Option.none_or, List.findSome?_nil, Option.or_none]
  rfl

end Coordinator

/-! ## What comes of an award -/

/-- What comes of an award of the shipment `x` to the provider `p` and the store, by what is
stored. -/
structure AwardOutcome [Build] (fresh : Fresh) (S : Store) (p : ProviderId) (x : ShipmentId)
    (outcome : Except Failure (Shipment × Offer) × Store) : Prop where
  noShipment : S.shipment? x = none →
    outcome = (.error (.notFound Shipment.entity x.text), S)
  /-- One offer is enough, whatever its answer and whatever the status of the shipment. -/
  offered : ∀ s o, S.shipment? x = some s → o ∈ S.linked p x →
    outcome = (.error (.onField "offer.provider_id"
      s!"provider {p} already holds an offer for this shipment"), S)
  notSubmitted : ∀ s, S.shipment? x = some s → S.linked p x = [] → s.status ≠ .submitted →
    outcome = (.error (.invalidTransition Shipment.entity x.text "award" s.status.name), S)
  /-- The last version of the shipment, where sums are checked: a panic. -/
  overflow : ∀ s, S.shipment? x = some s → S.linked p x = [] → s.status = .submitted →
    ¬ Version.HasNext s.version → outcome = (.error .overflow, S)
  /-- All that the awarded shipment violates is reported together. -/
  invalid : ∀ s, S.Awardable p x s →
    ¬ (∀ c : Constraint, c.Holds (s.withAward fresh.shipmentTime)) →
    ∃ report, outcome = (.error (.invalid report), S) ∧ report.fields.entries =
      (Constraint.all.filter fun c => ¬ c.Holds (s.withAward fresh.shipmentTime)).map fun c =>
        ("shipment." ++ c.field, [c.message (s.withAward fresh.shipmentTime)])
  /-- The failure that was set for the commit is used up. -/
  refused : ∀ s, S.Awardable p x s →
    (∀ c : Constraint, c.Holds (s.withAward fresh.shipmentTime)) →
    ∀ message, S.nextFailure = some message →
      outcome = (.error (.storage message true), { S with nextFailure := none })
  /-- No other offer is written over, should the identity of the new one be taken. -/
  taken : ∀ s o, S.Awardable p x s →
    (∀ c : Constraint, c.Holds (s.withAward fresh.shipmentTime)) →
    S.nextFailure = none → S.offer? ⟨fresh.uuid⟩ = some o →
    outcome = (.error (.storage s!"record {o.id.text} already exists" false), S)
  done : ∀ s, S.Awardable p x s →
    (∀ c : Constraint, c.Holds (s.withAward fresh.shipmentTime)) →
    S.nextFailure = none → S.offer? ⟨fresh.uuid⟩ = none →
    ∃ S', outcome = (.ok (s.withAward fresh.shipmentTime, fresh.offer p x), S') ∧
      S.Extended (s.withAward fresh.shipmentTime) (fresh.offer p x) S'

namespace Coordinator

theorem awardOutcome_run [Build] {g : Gateway} (hg : g.Passes) (fresh : Fresh) (S : Store)
    (p : ProviderId) (x : ShipmentId) :
    AwardOutcome fresh S p x (g.run S (awardTo fresh x p)) := by
  constructor
  case noShipment =>
    intro h
    exact hg.run_of_error (result_awardTo_of_noShipment h)
  case offered =>
    intro s o hs ho
    exact hg.run_of_error (result_awardTo_of_offered hs (List.ne_nil_of_mem ho))
  case notSubmitted =>
    intro s hs h hstatus
    exact hg.run_of_error (result_awardTo_of_not_submitted hs h hstatus)
  case overflow =>
    intro s hs h hstatus hlast
    exact hg.run_of_error (result_awardTo_of_overflow hs h hstatus hlast)
  case invalid =>
    intro s h hinvalid
    have hresult := result_awardTo_of_invalid h hinvalid
    exact ⟨_, hg.run_of_error hresult, entries_pairReport_offer _ fresh p x⟩
  case refused =>
    intro s h hvalid message hnext
    exact hg.run_of_refused (result_awardTo h hvalid) hnext
  case taken =>
    intro s o h hvalid hnext ho
    refine hg.run_of_obstacle (result_awardTo h hvalid) hnext ?_
    have hid : o.id = ⟨fresh.uuid⟩ := Table.key_of_find? ho
    rw [firstObstacle_stagedAward h, hid]
    change Transaction.obstacle _ none ((S.offer? ⟨fresh.uuid⟩).map (·.version)) = _
    rw [ho]
    rfl
  case done =>
    intro s h hvalid hnext ho
    have hfree : S.offer? (fresh.offer p x).id = none := ho
    have hcurrent : (stagedAward fresh p s).Current S := by
      rw [← Transaction.firstObstacle_eq_none, firstObstacle_stagedAward h, hfree]
      rfl
    refine ⟨_, hg.run_of_current (result_awardTo h hvalid) hnext hcurrent, ?_⟩
    unfold stagedAward
    rw [Transaction.apply_stagePair (unstaged_sawShipment s), h.id]
    refine Store.extended_put ?_ hfree
    change (S.shipment? s.id).isSome = true
    rw [h.id, h.shipment]
    rfl

end Coordinator

/-- A store with a shipment that waits for award and nobody knows where to pick it up. -/
def Sample.unaddressed : Store :=
  { shipments := Table.empty.insert { shipment with pickupAddress := none } }

/-- The shipment of the sample, changed as often as can be counted. -/
def Sample.lastSubmitted : Store :=
  { shipments := Table.empty.insert { shipment with version := 18446744073709551615 } }

end Relocation
