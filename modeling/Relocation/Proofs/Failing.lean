-- A unit of work that fails changes nothing. Whatever stores it finds at its
-- calls, it leaves each as it was, but for a failure that is set for the next
-- commit: the unit uses it up if its own commit is the next.
import Relocation.Proofs.System

namespace Relocation

open Gateway (Progress)

variable {α : Type} {S S' : Store}

namespace Gateway

/-! ## The calls of one unit -/

/-- The next call of the unit is its commit, and the gateway passes it on. -/
def atCommit (g : Gateway) : Progress α → Bool
  | .running _ (.done _) => (g.fault .commit).isNone
  | _ => false

/-- How far the unit has come after calls at which it finds the stores, one at
each call. -/
def after (g : Gateway) (p : Progress α) (found : List Store) : Progress α :=
  found.foldl (fun p S => (g.step S p).1) p

/-- A call of a unit: how far the unit had come, the store that it found and
the store that it left. -/
structure Visit (α : Type) where
  progress : Progress α
  found : Store
  left : Store

/-- The calls of a unit that finds the stores, one at each call. What others do
in between is free, and the unit is dropped after the last one. -/
def visits (g : Gateway) (p : Progress α) : List Store → List (Visit α)
  | [] => []
  | S :: found => ⟨p, S, (g.step S p).2⟩ :: g.visits (g.step S p).1 found

/-! ## A call that is no successful commit -/

theorem after_ended (g : Gateway) (outcome : Except Failure α) (found : List Store) :
    g.after (.ended outcome) found = .ended outcome := by
  induction found with
  | nil => rfl
  | cons S found ih => exact ih

/-- A failed commit uses up the failure that is set, if there is one. -/
theorem left_of_commit_error {tx : Transaction} {failure : Failure}
    (h : tx.commit S = (.error failure, S')) : S' = S.calm := by
  unfold Transaction.commit at h
  split at h
  · exact (Prod.mk.inj h).2.symm
  · rename_i hnone
    split at h
    · rw [Store.calm_of_none hnone, (Prod.mk.inj h).2]
    · cases (Prod.mk.inj h).1

theorem left_of_failed {g : Gateway} {p : Progress α} (h : ∀ a, (g.step S p).1 ≠ .ended (.ok a)) :
    (g.step S p).2 = if g.atCommit p then S.calm else S := by
  cases p with
  | waiting w => rcases hbegin : g.fault .begin with _ | _ | _ <;> simp [step, atCommit, hbegin]
  | ended outcome => rfl
  | running tx w =>
    cases w with
    | fail failure => rfl
    | call c next =>
      rcases hcall : g.fault c.stage with _ | _ | _
      · rcases hanswer : tx.answer S c with _ | _ <;> simp [step, atCommit, hcall, hanswer]
      · simp [step, atCommit, hcall]
      · simp [step, atCommit, hcall]
    | done a =>
      rcases hfault : g.fault .commit with _ | _ | _
      · rcases hcommit : tx.commit S with ⟨failure | u, S'⟩
        · rw [← left_of_commit_error hcommit]
          simp [step, finish, atCommit, hfault, hcommit]
        · exact absurd (by simp [step, finish, hfault, hcommit]) (h a)
      · simp [step, finish, atCommit, hfault]
      · simp [step, finish, atCommit, hfault]

/-- A unit that never comes to its answer leaves every store as it finds it. -/
theorem left_of_visits {g : Gateway} {p : Progress α} {found : List Store}
    (hfailed : ∀ a, g.after p found ≠ .ended (.ok a)) :
    ∀ v ∈ g.visits p found, v.left = if g.atCommit v.progress then v.found.calm else v.found := by
  induction found generalizing p with
  | nil => simp [visits]
  | cons S found ih =>
    have hstep : ∀ a, (g.step S p).1 ≠ .ended (.ok a) := by
      intro a ha
      refine hfailed a ?_
      change g.after (g.step S p).1 found = .ended (.ok a)
      rw [ha, after_ended]
    intro v hv
    rcases List.mem_cons.mp hv with rfl | hv
    · exact left_of_failed hstep
    · exact ih hfailed v hv

end Gateway

/-- A request that fails, or is dropped before it is done, leaves each store as
it finds it, whatever others do between its calls. Only a failure that is set
for the next commit is used up, and only at the commit of the request. -/
theorem a_failed_request_changes_nothing (g : Gateway) (fresh : Fresh) (r : Request)
    (found : List Store) (hfailed : ∀ a, g.after (.waiting (r.work fresh)) found ≠ .ended (.ok a)) :
    ∀ v ∈ g.visits (.waiting (r.work fresh)) found,
      v.left.shipments = v.found.shipments ∧ v.left.offers = v.found.offers ∧
      v.left.agents = v.found.agents ∧
      v.left.nextFailure = if g.atCommit v.progress then none else v.found.nextFailure := by
  intro v hv
  rw [Gateway.left_of_visits hfailed v hv]
  split
  · exact ⟨rfl, rfl, rfl, rfl⟩
  · exact ⟨rfl, rfl, rfl, rfl⟩

/-- The calls of a provider that takes an awarded shipment, the commit made to fail. -/
def Sample.failedAcceptance : List (Gateway.Visit (Shipment × Offer)) :=
  let accept := Request.accept ⟨Sample.uuid 3⟩ Sample.shipment.id
  let found := List.replicate 5 Sample.awarded ++ [Sample.awarded.failNextCommit "down"]
  Gateway.visits ⟨accept.name, 1000, fun _ => none⟩
    (.waiting (accept.work ⟨default, default, Sample.uuid 0⟩)) found

/-- It has staged both records, but only the failure is gone afterwards. -/
theorem a_failed_acceptance_changes_nothing :
    ∃ v ∈ Sample.failedAcceptance, v.found.nextFailure = some "down" ∧
      v.left.shipments = v.found.shipments ∧ v.left.offers = v.found.offers ∧
      v.left.nextFailure = none := by
  have hlast : ∃ v, Sample.failedAcceptance[5]? = some v ∧
      Gateway.atCommit ⟨"accept_for_provider", 1000, fun _ => none⟩ v.progress = true ∧
      v.found.nextFailure = some "down" := ⟨_, rfl, rfl, rfl⟩
  obtain ⟨v, hv, hcommit, hfound⟩ := hlast
  have hmem := List.mem_of_getElem? hv
  obtain ⟨hs, ho, -, hfailure⟩ := a_failed_request_changes_nothing _ _
    (.accept ⟨Sample.uuid 3⟩ Sample.shipment.id) _ (fun a h => by cases h) v hmem
  exact ⟨v, hmem, hfound, hs, ho, hfailure.trans (if_pos hcommit)⟩

end Relocation
