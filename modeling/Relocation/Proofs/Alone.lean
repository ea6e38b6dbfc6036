-- A unit of work that runs alone, through a gateway that passes every call on. All its
-- calls are answered on one store, so what comes of the unit is told by the replies of
-- that store, its failures included.
import Relocation.Proofs.Messages
import Relocation.Proofs.System

namespace Relocation

variable {α β : Type} {S : Store} {tx tx' : Transaction} {failure : Failure}

/-! ## Calls answered on one store -/

namespace Work

/-- The answer of a unit with the transaction that it has made, or its failure, if every
call is answered on the store. -/
def result (S : Store) : Work α → Transaction → Except Failure (α × Transaction)
  | .done a, tx => .ok (a, tx)
  | .fail failure, _ => .error failure
  | .call c next, tx =>
    match tx.answer S c with
    | .ok (reply, tx) => (next reply).result S tx
    | .error failure => .error failure

theorem result_ask (c : Call) : (ask c).result S tx = tx.answer S c := by
  rcases h : tx.answer S c with failure | ⟨reply, tx'⟩ <;> simp [ask, result, h]

theorem result_ofExcept (e : Except Failure α) :
    (ofExcept e).result S tx = e.map fun a => (a, tx) := by
  cases e <;> rfl

/-- A unit in two parts: the second part goes on with the transaction of the first. -/
theorem result_bind (x : Work α) (f : α → Work β) :
    (x >>= f).result S tx = x.result S tx >>= fun r => (f r.1).result S r.2 := by
  induction x generalizing tx with
  | done a => rfl
  | fail failure => rfl
  | call c next ih =>
    change (Work.call c fun reply => next reply >>= f).result S tx = _
    rcases h : tx.answer S c with failure | ⟨reply, tx'⟩
    · simp only [result, h]
      rfl
    · simp only [result, h]
      exact ih reply

theorem result_bind_of_ok {x : Work α} {a : α} (h : x.result S tx = .ok (a, tx'))
    (f : α → Work β) : (x >>= f).result S tx = (f a).result S tx' := by
  rw [result_bind, h]
  rfl

theorem result_bind_of_error {x : Work α} (h : x.result S tx = .error failure)
    (f : α → Work β) : (x >>= f).result S tx = .error failure := by
  rw [result_bind, h]
  rfl

end Work

/-! ## The run of a unit -/

namespace Gateway

variable {g : Gateway} {w : Work α}

/-- The gateway passes every call on to the store. -/
def Passes (g : Gateway) : Prop := ∀ stage, g.fault stage = none

theorem Passes.runFrom_eq (h : g.Passes) (w : Work α) : g.runFrom S tx w =
    match w.result S tx with
    | .ok (a, tx) => g.finish tx S a
    | .error failure => (.error failure, S) := by
  induction w generalizing tx with
  | done a => rfl
  | fail failure => simp [runFrom, abort, h .rollback, Work.result]
  | call c next ih =>
    rcases hanswer : tx.answer S c with failure | ⟨reply, tx'⟩
    · simp [runFrom, Work.result, h c.stage, hanswer, abort, h .rollback]
    · simpa [runFrom, Work.result, h c.stage, hanswer] using ih reply

/-- A unit that comes to its answer commits, and no other unit does. -/
theorem Passes.run_eq (h : g.Passes) (w : Work α) : g.run S w =
    match w.result S .begin with
    | .ok (a, tx) => g.finish tx S a
    | .error failure => (.error failure, S) := by
  simp [run, outcome, h .begin, h.runFrom_eq]

/-- A unit that comes to a failure leaves the store as it was. -/
theorem Passes.run_of_error (h : g.Passes) (hresult : w.result S .begin = .error failure) :
    g.run S w = (.error failure, S) := by
  rw [h.run_eq, hresult]

/-- A unit that comes to its answer meets the failure that was set for its commit. -/
theorem Passes.run_of_refused (h : g.Passes) {a : α} {message : String}
    (hresult : w.result S .begin = .ok (a, tx)) (hnext : S.nextFailure = some message) :
    g.run S w = (.error (.storage message true), S.calm) := by
  rw [h.run_eq, hresult]
  simp [finish, h .commit, Transaction.commit, hnext, Store.calm]

/-- Without one, it fails if something that it has staged may not be written. -/
theorem Passes.run_of_obstacle (h : g.Passes) {a : α} (hresult : w.result S .begin = .ok (a, tx))
    (hnext : S.nextFailure = none) (hobstacle : tx.firstObstacle S = some failure) :
    g.run S w = (.error failure, S) := by
  rw [h.run_eq, hresult]
  simp [finish, h .commit, Transaction.commit, hnext, hobstacle]

/-- If all of it may be written, it is. -/
theorem Passes.run_of_current (h : g.Passes) {a : α} (hresult : w.result S .begin = .ok (a, tx))
    (hnext : S.nextFailure = none) (hcur : tx.Current S) :
    g.run S w = (.ok a, tx.apply S) := by
  have hcommit := Transaction.commit_eq_ok.mpr ⟨hnext, hcur, rfl⟩
  rw [h.run_eq, hresult]
  simp [finish, h .commit, hcommit]

end Gateway

theorem CoordinatorSettings.passes_gateway (settings : CoordinatorSettings) (r : Request) :
    (settings.gateway (fun _ => none) r).Passes := fun _ => rfl

/-! ## The calls of the coordinator -/

namespace Coordinator

open Work (ask ofExcept result_ask result_ofExcept result_bind_of_ok result_bind_of_error)

variable {p : ProviderId} {x : ShipmentId} {s : Shipment} {o : Offer}

theorem result_findShipment (htx : tx.shipments = .empty) (hs : S.shipment? x = some s) :
    (ask (.findShipment x)).result S tx = .ok (s, tx.sawShipment s) :=
  (result_ask _).trans ((Transaction.findShipment_of_unstaged htx).mpr ⟨hs, rfl⟩)

theorem result_findShipment_of_none (htx : tx.shipments = .empty) (hs : S.shipment? x = none) :
    (ask (.findShipment x)).result S tx = .error (.notFound Shipment.entity x.text) := by
  have hunstaged : tx.shipments.find? x = none := by rw [htx, Table.find?_empty]
  refine (result_ask _).trans ?_
  simp [Transaction.answer, Transaction.findShipment, hunstaged, hs]

theorem result_findOffers (htx : tx.offers = .empty) :
    (ask (.findOffers p x)).result S tx = .ok (S.linked p x, tx.sawOffers (S.linked p x)) :=
  (result_ask _).trans (congrArg Except.ok (Transaction.findOffers_of_unstaged S p x htx))

/-- What both records of a pair violate, as one report. -/
def pairReport (s : Shipment) (o : Offer) : Report :=
  (Report.empty.merge "shipment" s.report).merge "offer" o.report

theorem isEmpty_pairReport : (pairReport s o).isEmpty = true ↔
    s.report.isEmpty = true ∧ o.report.isEmpty = true := by
  simp [pairReport]

/-- What the shipment violates comes first, and no field is named for both. -/
theorem entries_pairReport (s : Shipment) (o : Offer) : (pairReport s o).fields.entries =
    s.report.within "shipment" ++ o.report.within "offer" := by
  have hshipment : (Report.empty.merge "shipment" s.report).fields.entries =
      s.report.within "shipment" := by
    rw [Report.entries_merge fun field hfield => absurd hfield (List.not_mem_nil)]
    rfl
  unfold pairReport
  rw [Report.entries_merge, hshipment]
  intro field hfield hmem
  unfold Table.keys at hfield
  rw [hshipment] at hfield
  simp only [Report.within, List.map_map, List.mem_map, Function.comp_apply] at hfield hmem
  obtain ⟨e, -, rfl⟩ := hfield
  obtain ⟨e', -, hsame⟩ := hmem
  have hhead := congrArg (fun t => t.toList.head?) hsame
  simp at hhead

/-- A pair is staged if neither record violates a constraint. -/
theorem result_savePair (h : (pairReport s o).isEmpty = true) :
    (savePair s o).result S tx = .ok ((), (tx.stageShipment s).stageOffer o) := by
  obtain ⟨hs, ho⟩ := isEmpty_pairReport.mp h
  have hchecked : (pairReport s o).check = .ok () := Report.check_eq_ok.mpr h
  have hsaveShipment : tx.answer S (.saveShipment s) = .ok ((), tx.stageShipment s) :=
    Transaction.answer_saveShipment.mpr ⟨Report.check_eq_ok.mpr hs, rfl⟩
  have hsaveOffer : (tx.stageShipment s).answer S (.saveOffer o) =
      .ok ((), (tx.stageShipment s).stageOffer o) :=
    Transaction.answer_saveOffer.mpr ⟨Report.check_eq_ok.mpr ho, rfl⟩
  change (ofExcept (pairReport s o).check >>= fun _ => ask (.saveShipment s) >>= fun _ =>
    ask (.saveOffer o)).result S tx = _
  rw [result_bind_of_ok ((result_ofExcept _).trans (congrArg _ hchecked)),
    result_bind_of_ok ((result_ask _).trans hsaveShipment)]
  exact (result_ask _).trans hsaveOffer

theorem result_savePair_of_invalid (h : (pairReport s o).isEmpty = false) :
    (savePair s o).result S tx = .error (.invalid (pairReport s o)) := by
  have hchecked : (pairReport s o).check = .error (.invalid (pairReport s o)) := by
    simp [Report.check, h]
  exact result_bind_of_error ((result_ofExcept _).trans (congrArg _ hchecked)) _

end Coordinator

end Relocation
