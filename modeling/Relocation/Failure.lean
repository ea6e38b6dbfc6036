-- Why an operation was refused, with the text that tells it.
import Relocation.Report
import Relocation.Time.DateText

namespace Relocation

/-- The causes for which operations on shipments and schedules are refused. -/
inductive Failure where
  /-- The record's state does not allow the operation. -/
  | invalidTransition (entity id operation state : String)
  /-- The record, or the one offer between a provider and a shipment, is not there. -/
  | notFound (entity id : String)
  /-- Constraints on fields are violated. -/
  | invalid (report : Report)
  /-- A record lacks a field that the schedule needs. -/
  | missingField (entity id field : String)
  /-- The storage below failed. -/
  | storage (message : String) (retryable : Bool)
  /-- The stored version is not the one that was read. -/
  | conflict (id : String) (expected actual : Nat)
  /-- A unit of work did not end in time. -/
  | timeout (operation : String) (milliseconds : Nat)
  /-- A weight estimate is above the entitlement. -/
  | overweight (estimate entitlement : Int)
  /-- A walk over the calendar ended before it had its days. -/
  | noWorkday (start : Date) (searched : Nat)
  /-- A sum did not fit. This is not an answer but a panic: what runs ends there. -/
  | overflow
deriving DecidableEq

namespace Failure

/-- One message against one field. -/
def onField (field message : String) : Failure := .invalid (Report.empty.add field message)

/-- The text of a failure. -/
def message : Failure → String
  | .invalidTransition entity id operation state =>
    s!"Invalid transition: cannot {operation} {entity} {id} from {state}"
  | .notFound entity id => s!"Not found: {entity} with id {id}"
  | .invalid report => s!"Validation failed: {report}"
  | .missingField entity id field => s!"Missing field: {entity} {id} must have a {field}"
  | .storage message _ => s!"Persistence error: {message}"
  | .conflict id expected actual =>
    s!"Concurrency conflict on {id}: expected version {expected}, but found {actual}"
  | .timeout operation milliseconds =>
    s!"Transaction timeout: {operation} did not complete within {milliseconds}ms"
  | .overweight estimate entitlement =>
    s!"Entitlement exceeded: estimate of {estimate} lbs is above {entitlement} lbs"
  | .noWorkday start searched => s!"No workday found within {searched} days of {start}"
  | .overflow => "attempt to add with overflow"

instance : ToString Failure := ⟨message⟩

/-! ## Kinds of failures -/

def isNotFound : Failure → Bool
  | .notFound _ _ => true
  | _ => false

/-- A violated constraint, or a field that is missing. -/
def isValidation : Failure → Bool
  | .invalid _ => true
  | .missingField _ _ _ => true
  | _ => false

def isInvalidTransition : Failure → Bool
  | .invalidTransition _ _ _ _ => true
  | _ => false

/-- Whether the same operation may be tried again. -/
def isRetryable : Failure → Bool
  | .storage _ retryable => retryable
  | .conflict _ _ _ => true
  | .timeout _ _ => true
  | _ => false

end Failure

/-- Nothing if the report is empty, and otherwise the report as a failure. -/
def Report.check (r : Report) : Except Failure Unit :=
  if r.isEmpty then .ok () else .error (.invalid r)

theorem Report.check_eq_ok {r : Report} : r.check = .ok () ↔ r.isEmpty = true := by
  unfold check
  by_cases h : r.isEmpty = true <;> simp [h]

/-! ## Outcomes -/

/-- A changed value comes from a value. -/
theorem map_eq_ok {α β : Type} {e : Except Failure α} {f : α → β} {b : β} :
    e.map f = .ok b ↔ ∃ a, e = .ok a ∧ f a = b := by
  cases e <;> simp [Except.map]

/-- Two steps succeed if each of them does. -/
theorem bind_eq_ok {α β : Type} {e : Except Failure α} {f : α → Except Failure β} {b : β} :
    (e >>= f) = .ok b ↔ ∃ a, e = .ok a ∧ f a = .ok b := by
  cases e <;> simp [bind, Except.bind]

/-- What comes of two steps may be changed after the second of them. -/
theorem map_of_bind {α β γ : Type} {e : Except Failure α} {f : α → Except Failure β} {g : β → γ} :
    (e >>= f).map g = e >>= fun a => (f a).map g := by
  cases e <;> rfl

/-- A step after a check succeeds if the report is empty and the step does. -/
theorem bind_check_eq_ok {α : Type} {r : Report} {f : Unit → Except Failure α} {a : α} :
    (r.check >>= f) = .ok a ↔ r.isEmpty = true ∧ f () = .ok a := by
  unfold Report.check
  by_cases h : r.isEmpty = true <;> simp [h, bind, Except.bind]

/-- What is made after a check is made exactly if the check passes. -/
theorem check_bind_eq_ok {α : Type} {r : Report} {a b : α} :
    (r.check >>= fun _ => .ok a) = .ok b ↔ r.check = .ok () ∧ b = a := by
  rw [bind_eq_ok]
  constructor
  · rintro ⟨⟨⟩, hok, ⟨⟩⟩
    exact ⟨hok, rfl⟩
  · rintro ⟨hok, rfl⟩
    exact ⟨(), hok, rfl⟩

end Relocation
