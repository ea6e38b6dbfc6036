-- The settings of the coordinator, the calendar and the schedule. Whatever a
-- document leaves out takes its default.
import Relocation.Calendar.Federal
import Relocation.Json.Parser
import Relocation.Walk

namespace Relocation

/-- The settings of the coordinator. -/
structure CoordinatorSettings where
  /-- How long a unit of work may take, in milliseconds. -/
  timeout : Nat := 5000
deriving DecidableEq

instance : Record CoordinatorSettings where
  members := [.always "transaction_timeout_ms" Json.ofNat (·.timeout)]
  build row := do
    let timeout ← row.orElse "transaction_timeout_ms" Json.nat64? ({} : CoordinatorSettings).timeout
    some { timeout }
  mayEndEarly := true

/-- The settings of a schedule. -/
structure SchedulerSettings where
  /-- How many days in a row a walk refuses at most. -/
  limit : Nat := defaultLimit
deriving DecidableEq

instance : Record SchedulerSettings where
  members := [.always "max_walk_span_days" Json.ofNat (·.limit)]
  build row := do
    let limit ← row.orElse "max_walk_span_days" Json.nat32? ({} : SchedulerSettings).limit
    some { limit }
  mayEndEarly := true

/-- All settings. -/
structure Settings where
  coordinator : CoordinatorSettings := {}
  calendar : FederalCalendar := .standard
  scheduler : SchedulerSettings := {}
deriving DecidableEq

instance : Record Settings where
  members := [
    .always "coordinator" Record.toJson (·.coordinator),
    .always "calendar" Record.toJson (·.calendar),
    .always "scheduler" Record.toJson (·.scheduler)]
  build row := do
    let coordinator ← row.orElse "coordinator" Record.ofJson? ({} : CoordinatorSettings)
    let calendar ← row.orElse "calendar" Record.ofJson? FederalCalendar.standard
    let scheduler ← row.orElse "scheduler" Record.ofJson? ({} : SchedulerSettings)
    some { coordinator, calendar, scheduler }
  mayEndEarly := true

namespace Settings

/-- The settings, or the failure that names the document, with what is wrong with it. -/
def orRefuse (complaint : String) : Option Settings → Except Failure Settings
  | some settings => .ok settings
  | none => .error (.onField "config" complaint)

/-- The settings of a JSON text, in which a setting may not come twice. The words for what is
wrong with a text are not this library's. -/
def ofText (complaint : String → String) (text : String) : Except Failure Settings :=
  orRefuse (complaint text) ((Json.parse? text).bind Record.ofJson?)

/-- The settings of a JSON value, likewise. Of members with one name the last counts. -/
def ofJson (complaint : Json → String) (value : Json) : Except Failure Settings :=
  orRefuse (complaint value) (Record.ofJson? value.lastWins)

end Settings

end Relocation
