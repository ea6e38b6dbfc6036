-- State machines given as tables: each operation has the states it may start
-- from and the one state it leads to. Nothing starts from a terminal state.
import Relocation.Failure
import Relocation.Time.Timestamp

namespace Relocation

/-- A machine with states `σ` and operations `ω`. -/
structure Machine (σ ω : Type) where
  states : List σ
  operations : List ω
  stateName : σ → String
  operationName : ω → String
  isTerminal : σ → Bool
  /-- The states that an operation may start from. -/
  starts : ω → List σ
  /-- The state that an operation leads to. -/
  target : ω → σ

/-- The record of a change of state. -/
structure Change (σ : Type) where
  source : σ
  target : σ
  operation : String
  time : Timestamp

namespace Machine

variable {σ ω : Type} [DecidableEq σ] (m : Machine σ ω)

/-- Whether the operation may start from the state. -/
def permits (op : ω) (state : σ) : Bool := !m.isTerminal state && (m.starts op).contains state

/-- The operations that may start from the state. -/
def available (state : σ) : List ω := m.operations.filter fun op => m.permits op state

/-- The operation at `time` on a state in place, with the change it makes. The entity and
the id are those of the record, for the refusal. -/
def perform (entity id : String) (state : σ) (op : ω) (time : Timestamp) :
    Except Failure (Change σ) × σ :=
  if m.permits op state then (.ok ⟨state, m.target op, m.operationName op, time⟩, m.target op)
  else (.error (.invalidTransition entity id (m.operationName op) (m.stateName state)), state)

variable {entity id : String} {state : σ} {op : ω} {time : Timestamp}

theorem perform_of_permits (h : m.permits op state = true) : m.perform entity id state op time =
    (.ok ⟨state, m.target op, m.operationName op, time⟩, m.target op) := if_pos h

/-- A refused operation leaves the state as it is. -/
theorem perform_of_not_permits (h : ¬ m.permits op state = true) :
    m.perform entity id state op time =
      (.error (.invalidTransition entity id (m.operationName op) (m.stateName state)), state) :=
  if_neg h

end Machine

end Relocation
