-- Units of work: what is asked of one transaction, call by call, where each
-- call may depend on the replies before it. A unit that comes to its end
-- commits, and one that fails rolls back. The gateway in front of the store
-- may refuse a call or never answer it.
import Relocation.Transaction

namespace Relocation

/-! ## Work -/

/-- A unit of work with an answer in `α`. -/
inductive Work (α : Type) where
  | done (answer : α)
  | fail (failure : Failure)
  | call (c : Call) (next : c.Reply → Work α)

namespace Work

variable {α β : Type}

/-- Goes on with the answer. -/
def bind : Work α → (α → Work β) → Work β
  | .done a, f => f a
  | .fail failure, _ => .fail failure
  | .call c next, f => .call c fun reply => (next reply).bind f

instance : Monad Work where
  pure := .done
  bind := bind

/-- The call alone. -/
def ask (c : Call) : Work c.Reply := .call c .done

/-- The value, or the failure in its place. -/
def ofExcept : Except Failure α → Work α
  | .ok a => .done a
  | .error failure => .fail failure

end Work

/-! ## The gateway -/

/-- The moments at which a gateway is called. -/
inductive Stage where
  | begin
  | findShipment
  | findOffers
  | saveShipment
  | saveOffer
  | saveAgent
  | findAgents
  | commit
  | rollback
deriving DecidableEq

/-- The stage of a call. -/
def Call.stage : Call → Stage
  | .findShipment _ => .findShipment
  | .findOffers _ _ => .findOffers
  | .saveShipment _ => .saveShipment
  | .saveOffer _ => .saveOffer
  | .saveAgent _ => .saveAgent
  | .findAgents _ => .findAgents

/-- What a gateway may do instead of passing a call on to the store. -/
inductive Fault where
  /-- It never answers. -/
  | stall
  | refuse (message : String) (retryable : Bool)

/-- The gateway of a unit of work, with the unit's name and time limit. -/
structure Gateway where
  operation : String
  timeout : Nat
  fault : Stage → Option Fault := fun _ => none

namespace Gateway

variable {α : Type}

/-- The failure of a unit that waits until its time is over. -/
def overdue (g : Gateway) : Failure := .timeout g.operation g.timeout

/-! ## Units under way -/

/-- How far a unit of work has come. -/
inductive Progress (α : Type) where
  | waiting (work : Work α)
  | running (tx : Transaction) (work : Work α)
  | ended (outcome : Except Failure α)

/-- A failed unit rolls back. A rollback that is refused changes nothing, but
one that is never answered takes all the time that is left. After a panic nothing
is rolled back. -/
def abort (g : Gateway) (failure : Failure) : Except Failure α :=
  match g.fault .rollback with
  | some .stall => .error (if failure = .overflow then .overflow else g.overdue)
  | _ => .error failure

/-- A unit that has its answer commits. -/
def finish (g : Gateway) (tx : Transaction) (store : Store) (answer : α) :
    Except Failure α × Store :=
  match g.fault .commit with
  | some .stall => (.error g.overdue, store)
  | some (.refuse message retryable) => (.error (.storage message retryable), store)
  | none =>
    match tx.commit store with
    | (.ok _, store) => (.ok answer, store)
    | (.error failure, store) => (.error failure, store)

/-- One call of a unit to the gateway. -/
def step (g : Gateway) (store : Store) : Progress α → Progress α × Store
  | .waiting work =>
    match g.fault .begin with
    | some .stall => (.ended (.error g.overdue), store)
    | some (.refuse message retryable) => (.ended (.error (.storage message retryable)), store)
    | none => (.running .begin work, store)
  | .running tx (.done answer) => (.ended (g.finish tx store answer).1, (g.finish tx store answer).2)
  | .running _ (.fail failure) => (.ended (g.abort failure), store)
  | .running tx (.call c next) =>
    match g.fault c.stage with
    | some .stall => (.ended (.error g.overdue), store)
    | some (.refuse message retryable) => (.running tx (.fail (.storage message retryable)), store)
    | none =>
      match tx.answer store c with
      | .ok (reply, tx) => (.running tx (next reply), store)
      | .error failure => (.running tx (.fail failure), store)
  | .ended outcome => (.ended outcome, store)

/-! ## Units alone -/

/-- What comes of a unit from its transaction on, if nothing runs in between. -/
def runFrom (g : Gateway) (store : Store) : Transaction → Work α → Except Failure α × Store
  | tx, .done answer => g.finish tx store answer
  | _, .fail failure => (g.abort failure, store)
  | tx, .call c next =>
    match g.fault c.stage with
    | some .stall => (.error g.overdue, store)
    | some (.refuse message retryable) => (g.abort (.storage message retryable), store)
    | none =>
      match tx.answer store c with
      | .ok (reply, tx) => runFrom g store tx (next reply)
      | .error failure => (g.abort failure, store)

/-- What comes of a unit under way, if nothing runs in between. -/
def outcome (g : Gateway) (store : Store) : Progress α → Except Failure α × Store
  | .waiting work =>
    match g.fault .begin with
    | some .stall => (.error g.overdue, store)
    | some (.refuse message retryable) => (.error (.storage message retryable), store)
    | none => g.runFrom store .begin work
  | .running tx work => g.runFrom store tx work
  | .ended outcome => (outcome, store)

/-- What comes of a unit of work that runs alone. -/
def run (g : Gateway) (store : Store) (work : Work α) : Except Failure α × Store :=
  g.outcome store (.waiting work)

/-- A step does not change what comes of a unit that runs alone. -/
theorem outcome_step (g : Gateway) (store : Store) (p : Progress α) :
    g.outcome (g.step store p).2 (g.step store p).1 = g.outcome store p := by
  cases p with
  | waiting work =>
    rcases h : g.fault .begin with _ | _ | _ <;> simp [step, outcome, h]
  | running tx work =>
    cases work with
    | done answer => rfl
    | fail failure => rfl
    | call c next =>
      rcases h : g.fault c.stage with _ | _ | _
      · rcases ha : tx.answer store c with _ | _ <;> simp [step, outcome, runFrom, h, ha]
      · simp [step, outcome, runFrom, h]
      · simp [step, outcome, runFrom, h]
  | ended outcome => rfl

end Gateway

end Relocation
