-- Units one after the other. Where units that write take turns call by call,
-- the records and the answers in the end are those of the units that
-- committed, run alone in the order of their commits.
import Relocation.Proofs.System

namespace Relocation

open Work (Ran)

variable {ι : Type} {α : Type} {S S' : Store} {tx : Transaction}

/-! ## A unit alone -/

namespace Gateway

variable {g : Gateway} {failure : Failure}

theorem finish_eq_ok {a b : α} :
    g.finish tx S b = (.ok a, S') ↔
      g.fault .commit = none ∧ tx.commit S = (.ok (), S') ∧ a = b := by
  unfold finish
  rcases hcommits : g.fault .commit with _ | _ | _
  · rcases hcommit : tx.commit S with ⟨failure | u, T⟩
    · simp
    · simp [and_comm, eq_comm]
  · simp
  · simp

theorem abort_ne_ok {a : α} : g.abort failure ≠ .ok a := by
  unfold abort
  split <;> simp

theorem runFrom_eq_ok {w : Work α} {a : α} :
    g.runFrom S tx w = (.ok a, S') ↔ g.fault .commit = none ∧
      ∃ tx', Ran Eq g w S tx S tx' a ∧ tx'.commit S = (.ok (), S') := by
  induction w generalizing tx with
  | done b =>
    unfold runFrom
    rw [finish_eq_ok]
    constructor
    · rintro ⟨hcommits, hcommit, rfl⟩
      exact ⟨hcommits, tx, .done, hcommit⟩
    · rintro ⟨hcommits, tx', hran, hcommit⟩
      obtain ⟨-, rfl, rfl⟩ := Work.ran_done.mp hran
      exact ⟨hcommits, hcommit, rfl⟩
  | fail failure =>
    constructor
    · intro h
      exact absurd (Prod.mk.inj h).1 abort_ne_ok
    · rintro ⟨-, tx', hran, -⟩
      exact absurd hran Work.ran_fail
  | call c next ih =>
    unfold runFrom
    rcases hcall : g.fault c.stage with _ | _ | _
    · rcases hanswer : tx.answer S c with failure | ⟨reply, tx₁⟩
      · simp [Work.ran_call, hcall, hanswer, abort_ne_ok]
      · have hrest : ∀ tx', Ran Eq g (.call c next) S tx S tx' a ↔
            Ran Eq g (next reply) S tx₁ S tx' a := by
          intro tx'
          rw [Work.ran_call]
          constructor
          · rintro ⟨-, T, r, tx₂, rfl, hr, hran⟩
            rw [hanswer] at hr
            cases hr
            exact hran
          · intro hran
            exact ⟨hcall, S, reply, tx₁, rfl, hanswer, hran⟩
        simp only [hrest]
        exact ih reply
    · simp [Work.ran_call, hcall]
    · simp [Work.ran_call, hcall, abort_ne_ok]

/-- A unit that runs alone is done if it comes to its answer and its commit
goes through. -/
theorem run_eq_ok {w : Work α} {a : α} :
    g.run S w = (.ok a, S') ↔ g.fault .begin = none ∧ g.fault .commit = none ∧
      ∃ tx, Ran Eq g w S .begin S tx a ∧ tx.commit S = (.ok (), S') := by
  unfold run outcome
  rcases hbegin : g.fault .begin with _ | _ | _
  · simp [runFrom_eq_ok]
  · simp
  · simp

theorem calm_of_finish_error {b : α} (h : g.finish tx S b = (.error failure, S')) :
    S'.calm = S.calm := by
  unfold finish at h
  split at h
  · cases h
    rfl
  · cases h
    rfl
  · split at h
    · cases h
    · rename_i hcommit
      cases h
      exact Transaction.calm_of_commit_error hcommit

theorem calm_of_runFrom_error {w : Work α} (h : g.runFrom S tx w = (.error failure, S')) :
    S'.calm = S.calm := by
  induction w generalizing tx with
  | done b => exact calm_of_finish_error h
  | fail failure => rw [← (Prod.mk.inj h).2]
  | call c next ih =>
    unfold runFrom at h
    split at h
    · rw [← (Prod.mk.inj h).2]
    · rw [← (Prod.mk.inj h).2]
    · split at h
      · exact ih _ h
      · rw [← (Prod.mk.inj h).2]

/-- A unit that fails leaves the records alone. -/
theorem calm_of_run_error {w : Work α} (h : g.run S w = (.error failure, S')) :
    S'.calm = S.calm := by
  unfold run outcome at h
  dsimp only at h
  split at h
  · cases h
    rfl
  · cases h
    rfl
  · exact calm_of_runFrom_error h

end Gateway

/-- A task that is done alone has its effect. -/
theorem Task.effect_of_run {t : Task} {a : t.Answer} (h : t.gateway.run S t.work = (.ok a, S')) :
    t.Effect S S' a := by
  obtain ⟨-, -, tx, hran, hcommit⟩ := Gateway.run_eq_ok.mp h
  obtain ⟨-, hcur, rfl⟩ := Transaction.commit_eq_ok.mp hcommit
  exact t.effect_of_alone hran hcur

/-! ## Units one after the other -/

/-- The store after the units have run one after the other, with what came of each. -/
def serial (job : ι → Job) (S : Store) :
    List ι → Store × List ((k : ι) × Except Failure (job k).Answer)
  | [] => (S, [])
  | k :: ks =>
    let here := (job k).gateway.run S (job k).work
    let rest := serial job here.2 ks
    (rest.1, ⟨k, here.1⟩ :: rest.2)

theorem serial_append (job : ι → Job) (S : Store) (ks ls : List ι) :
    serial job S (ks ++ ls) = ((serial job (serial job S ks).1 ls).1,
      (serial job S ks).2 ++ (serial job (serial job S ks).1 ls).2) := by
  induction ks generalizing S with
  | nil => rfl
  | cons k ks ih =>
    rw [List.cons_append, serial, ih]
    rfl

/-! ## The tasks that write -/

/-- A task that changes something when it commits. -/
def WritingTask : Type := { t : Task // t.writes = true }

namespace WritingTask

def job (t : WritingTask) : Job := t.val.job

theorem guarantee : Guarantee WritingTask.job Store.Later where
  calm := Task.guarantee.calm
  trans := Task.guarantee.trans
  commit hran later hcur := Task.guarantee.commit hran later hcur

/-- A task that commits among others would have done the same alone. -/
theorem run_of_commit (t : WritingTask) {S₀ T : Store} {a : t.job.Answer}
    (hbegins : t.job.gateway.fault .begin = none)
    (hran : Ran Store.Later t.job.gateway t.job.work S₀ .begin T tx a) (later : T.Later S)
    (hcommits : t.job.gateway.fault .commit = none) (hcommit : tx.commit S = (.ok (), S')) :
    t.job.gateway.run S t.job.work = (.ok a, S') := by
  obtain ⟨hcalm, hcur, hstore⟩ := Transaction.commit_eq_ok.mp hcommit
  obtain ⟨tx', hran', hcur', happly⟩ := t.val.alone t.property hran later hcur
  rw [Gateway.run_eq_ok]
  refine ⟨hbegins, hcommits, tx', hran', ?_⟩
  rw [Transaction.commit_eq_ok]
  exact ⟨hcalm, hcur', hstore.trans happly.symm⟩

end WritingTask

/-- The records and answers that writing tasks come to in turns, call by call,
are those of the tasks that committed, run alone in the order of their commits.
Every task that has ended with an answer is among these. -/
theorem writing_tasks_are_serializable (start : Store) (events : List (Event WritingTask)) :
    serial WritingTask.job start.calm
        ((System.run WritingTask.job start events).log.map Receipt.kind) =
      ((System.run WritingTask.job start events).store.calm,
        (System.run WritingTask.job start events).log.map fun r => ⟨r.kind, .ok r.answer⟩) ∧
    ∀ u ∈ (System.run WritingTask.job start events).units, ∀ a, u.progress = .ended (.ok a) →
      ⟨u.kind, a⟩ ∈ (System.run WritingTask.job start events).log := by
  refine ⟨?_, System.logged_run start events⟩
  refine System.run_preserves WritingTask.guarantee (I := fun sys =>
    serial WritingTask.job start.calm (sys.log.map Receipt.kind) =
      (sys.store.calm, sys.log.map fun r => ⟨r.kind, .ok r.answer⟩)) events rfl ?_
  intro sys sys' h hleads
  cases hleads with
  | quiet store log => rw [store, log, h]
  | @commit k S₀ T tx a begins ran later commits committed log =>
    obtain ⟨hcalm, -, hstore⟩ := Transaction.commit_eq_ok.mp committed
    have hcalm' : sys'.store.nextFailure = none := by
      rw [hstore]
      exact hcalm
    have hrun := k.run_of_commit begins ran later commits committed
    rw [log, List.map_append, List.map_append, serial_append, h, Store.calm_of_none hcalm,
      Store.calm_of_none hcalm']
    simp only [List.map_singleton, serial, hrun]

end Relocation
