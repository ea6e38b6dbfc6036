-- The calendar of US federal offices: closed on weekends, on ten holidays a
-- year, and on days of the installation's own. A holiday with a fixed date
-- that falls on a weekend may be observed on the weekday next to it.
import Relocation.Calendar.Basic
import Relocation.Json.Record
import Relocation.Time.DateText

namespace Relocation

/-- The settings of a federal calendar. -/
structure FederalCalendar where
  /-- Whether a fixed holiday on a Saturday moves to Friday, and one on a
  Sunday to Monday. -/
  observesShifted : Bool
  /-- Further days on which no work is done. -/
  closures : List Date
deriving DecidableEq

namespace FederalCalendar

/-- Shifted holidays are observed, and there are no further closures. -/
def standard : FederalCalendar := ⟨true, []⟩

/-- Every holiday stays on its date, and there are no further closures. -/
def unshifted : FederalCalendar := ⟨false, []⟩

instance : Inhabited FederalCalendar := ⟨standard⟩

/-! ## Holidays -/

/-- The weekday next to a date on a weekend, unless it is out of the range. -/
def shift (d : Date) : Date :=
  if d.isOn .saturday then d.pred?.getD d
  else if d.isOn .sunday then d.succ?.getD d
  else d

/-- A holiday on a fixed day of the year. -/
def fixed? (c : FederalCalendar) (year : Int) (month day : Nat) : Option Date :=
  (Date.ofYmd? year month day).map fun d => if c.observesShifted then shift d else d

/-- The holidays of a year, in ascending order. The first of them may fall on
the last day of the year before. -/
def holidays (c : FederalCalendar) (year : Int) : List Date :=
  [c.fixed? year 1 1,
    Date.nthWeekday? year 1 .monday 3,
    Date.nthWeekday? year 2 .monday 3,
    Date.lastWeekday? year 5 .monday,
    c.fixed? year 7 4,
    Date.nthWeekday? year 9 .monday 1,
    Date.nthWeekday? year 10 .monday 2,
    c.fixed? year 11 11,
    Date.nthWeekday? year 11 .thursday 4,
    c.fixed? year 12 25].filterMap id

/-- Whether the date is a closure or a holiday, be it one of the next year. -/
def isHoliday (c : FederalCalendar) (d : Date) : Bool :=
  c.closures.contains d || (c.holidays d.year).contains d || (c.holidays (d.year + 1)).contains d

/-- The calendar with these settings. -/
def calendar (c : FederalCalendar) : Calendar := ⟨fun d => !d.isWeekend && !c.isHoliday d⟩

/-! ## JSON -/

instance : Record FederalCalendar where
  members := [
    .always "observe_weekend_holidays" .bool (·.observesShifted),
    .always "additional_holidays" (.ofList Date.toJson) (·.closures)]
  build row := do
    let observesShifted ← row.orElse "observe_weekend_holidays" Json.bool? standard.observesShifted
    let closures ← row.orElse "additional_holidays" (Json.list? Date.ofJson?) standard.closures
    some { observesShifted, closures }
  mayEndEarly := true

end FederalCalendar

end Relocation
