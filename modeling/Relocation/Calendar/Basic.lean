-- Business calendars: which days are workdays.
import Relocation.Time.Date

namespace Relocation

/-- A calendar knows of each date whether it is a workday. -/
structure Calendar where
  isWorkday : Date → Bool

/-- The calendar whose workdays are those days of the week, but for the closed dates. -/
def Calendar.weekly (workdays : List Weekday) (closed : List Date) : Calendar :=
  ⟨fun d => workdays.any d.isOn && !closed.contains d⟩

end Relocation
