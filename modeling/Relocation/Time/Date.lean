-- Days of the Gregorian calendar, carried back before its start. A date is
-- the count of days up to it, so steps and differences are whole numbers;
-- the year, the month and the day are read off the count.

namespace Relocation

/-! ## Years and months -/

/-- Every fourth year is a leap year, but of the centuries only every fourth. -/
def isLeapYear (y : Int) : Bool := y % 4 = 0 && (y % 100 ≠ 0 || y % 400 = 0)

/-- The days from 1 January of year 1 to 1 January of year `y`. -/
def daysBeforeYear (y : Int) : Int :=
  365 * (y - 1) + (y - 1) / 4 - (y - 1) / 100 + (y - 1) / 400

/-- The days of a year before its month `m`; past the last month, all of them. -/
def daysBeforeMonth (leap : Bool) (m : Nat) : Int :=
  let extra := if leap then 1 else 0
  match m with
  | 0 => 0
  | 1 => 0
  | 2 => 31
  | 3 => 59 + extra
  | 4 => 90 + extra
  | 5 => 120 + extra
  | 6 => 151 + extra
  | 7 => 181 + extra
  | 8 => 212 + extra
  | 9 => 243 + extra
  | 10 => 273 + extra
  | 11 => 304 + extra
  | 12 => 334 + extra
  | _ => 365 + extra

/-- The length of the month `m`. -/
def monthLength (leap : Bool) (m : Nat) : Int :=
  daysBeforeMonth leap (m + 1) - daysBeforeMonth leap m

theorem monthLength_le (leap : Bool) (m : Nat) : monthLength leap m ≤ 31 := by
  unfold monthLength
  rcases m with _ | _ | _ | _ | _ | _ | _ | _ | _ | _ | _ | _ | _ | m <;>
    cases leap <;> simp only [daysBeforeMonth] <;> decide

theorem month_within_year (leap : Bool) {month : Nat} (h : 1 ≤ month ∧ month ≤ 12) :
    0 ≤ daysBeforeMonth leap month ∧ 28 ≤ monthLength leap month ∧
      daysBeforeMonth leap (month + 1) ≤ daysBeforeMonth leap 13 := by
  have hall : ∀ m : Fin 13, 1 ≤ m.val → 0 ≤ daysBeforeMonth leap m ∧
      28 ≤ monthLength leap m ∧ daysBeforeMonth leap (m + 1) ≤ daysBeforeMonth leap 13 := by
    cases leap <;> decide
  exact hall ⟨month, by omega⟩ h.1

theorem daysBeforeYear_succ (y : Int) :
    daysBeforeYear (y + 1) = daysBeforeYear y + daysBeforeMonth (isLeapYear y) 13 := by
  simp only [daysBeforeYear, daysBeforeMonth, isLeapYear, Bool.and_eq_true, Bool.or_eq_true,
    decide_eq_true_eq]
  split <;> omega

theorem daysBeforeYear_le {y z : Int} (h : y ≤ z) : daysBeforeYear y ≤ daysBeforeYear z := by
  unfold daysBeforeYear
  omega

/-! ## Weekdays -/

inductive Weekday where
  | monday
  | tuesday
  | wednesday
  | thursday
  | friday
  | saturday
  | sunday
deriving DecidableEq

namespace Weekday

def all : List Weekday := [.monday, .tuesday, .wednesday, .thursday, .friday, .saturday, .sunday]

/-- The days of the week by number, from Monday. -/
def number : Weekday → Int
  | .monday => 0
  | .tuesday => 1
  | .wednesday => 2
  | .thursday => 3
  | .friday => 4
  | .saturday => 5
  | .sunday => 6

/-- The short name of a day of the week. -/
def name : Weekday → String
  | .monday => "Mon"
  | .tuesday => "Tue"
  | .wednesday => "Wed"
  | .thursday => "Thu"
  | .friday => "Fri"
  | .saturday => "Sat"
  | .sunday => "Sun"

/-- The full name of a day of the week. -/
def fullName : Weekday → String
  | .monday => "Monday"
  | .tuesday => "Tuesday"
  | .wednesday => "Wednesday"
  | .thursday => "Thursday"
  | .friday => "Friday"
  | .saturday => "Saturday"
  | .sunday => "Sunday"

/-- The day of the week with the short or the full name, in letters of either case. -/
def ofName? (s : String) : Option Weekday :=
  all.find? fun w => s.toLower = w.name.toLower || s.toLower = w.fullName.toLower

theorem number_bounds (w : Weekday) : 0 ≤ w.number ∧ w.number ≤ 6 := by
  cases w <;> decide

end Weekday

/-! ## Dates -/

/-- A day from 1 January -262143 to 31 December 262142, by its number: day 1
is 1 January of year 1. -/
structure Date where
  number : Int
  first_le : -95746129 ≤ number
  le_last : number ≤ 95745399
deriving DecidableEq

namespace Date

/-- The earliest date, 1 January -262143. -/
def first : Date := ⟨-95746129, by decide, by decide⟩

/-- The latest date, 31 December 262142. -/
def last : Date := ⟨95745399, by decide, by decide⟩

theorem number_first : first.number = daysBeforeYear (-262143) + 1 := by decide

theorem number_last : last.number = daysBeforeYear 262143 := by decide

instance : Inhabited Date := ⟨⟨1, by decide, by decide⟩⟩

instance : LE Date := ⟨fun a b => a.number ≤ b.number⟩

instance : LT Date := ⟨fun a b => a.number < b.number⟩

instance (a b : Date) : Decidable (a ≤ b) := inferInstanceAs (Decidable (a.number ≤ b.number))

instance (a b : Date) : Decidable (a < b) := inferInstanceAs (Decidable (a.number < b.number))

/-- The date with the number `n`, if it is in the range. -/
def ofNumber? (n : Int) : Option Date :=
  if h : -95746129 ≤ n ∧ n ≤ 95745399 then some ⟨n, h.1, h.2⟩ else none

/-- The date `n` days later, if it is in the range. -/
def addDays? (d : Date) (n : Int) : Option Date := ofNumber? (d.number + n)

/-- The day after. -/
def succ? (d : Date) : Option Date := d.addDays? 1

/-- The day before. -/
def pred? (d : Date) : Option Date := d.addDays? (-1)

theorem le_iff {a b : Date} : a ≤ b ↔ a.number ≤ b.number := Iff.rfl

theorem lt_iff {a b : Date} : a < b ↔ a.number < b.number := Iff.rfl

theorem eq_of_number {a b : Date} (h : a.number = b.number) : a = b := by
  cases a
  cases b
  cases h
  rfl

theorem exists_between {a b : Date} {n : Int} (ha : a.number ≤ n) (hb : n ≤ b.number) :
    ∃ d : Date, d.number = n :=
  ⟨⟨n, Int.le_trans a.first_le ha, Int.le_trans hb b.le_last⟩, rfl⟩

theorem ofNumber?_eq_some_iff {n : Int} {d : Date} : ofNumber? n = some d ↔ d.number = n := by
  unfold ofNumber?
  constructor
  · intro h
    split at h
    · cases h
      rfl
    · cases h
  · rintro rfl
    rw [dif_pos ⟨d.first_le, d.le_last⟩]

theorem ofNumber?_eq_none_iff {n : Int} :
    ofNumber? n = none ↔ n < first.number ∨ last.number < n := by
  unfold ofNumber? first last
  split
  · simp only [reduceCtorEq, false_iff]
    omega
  · simp only [true_iff]
    omega

theorem addDays?_eq_some_iff {d e : Date} {n : Int} :
    d.addDays? n = some e ↔ e.number = d.number + n := ofNumber?_eq_some_iff

theorem exists_addDays? {d : Date} {n : Int} (hfirst : first.number ≤ d.number + n)
    (hlast : d.number + n ≤ last.number) : ∃ e, d.addDays? n = some e := by
  obtain ⟨e, he⟩ := exists_between hfirst hlast
  exact ⟨e, addDays?_eq_some_iff.mpr he⟩

theorem number_addDays?_getD (d : Date) (n : Int) :
    ((d.addDays? n).getD d).number = d.number + n ∨ ((d.addDays? n).getD d).number = d.number := by
  cases h : d.addDays? n with
  | none => exact .inr rfl
  | some e => exact .inl (addDays?_eq_some_iff.mp h)

/-! ## Year, month and day -/

/-- The date of a year, a month and a day of that month, if there is one. -/
def ofYmd? (year : Int) (month day : Nat) : Option Date :=
  let leap := isLeapYear year
  if 1 ≤ month ∧ month ≤ 12 ∧ 1 ≤ day ∧ (day : Int) ≤ monthLength leap month then
    ofNumber? (daysBeforeYear year + daysBeforeMonth leap month + day)
  else none

theorem ofYmd?_eq_some_iff {year : Int} {month day : Nat} {d : Date} :
    ofYmd? year month day = some d ↔
      (1 ≤ month ∧ month ≤ 12 ∧ 1 ≤ day ∧ (day : Int) ≤ monthLength (isLeapYear year) month) ∧
        d.number = daysBeforeYear year + daysBeforeMonth (isLeapYear year) month + day := by
  simp only [ofYmd?, Option.ite_none_right_eq_some, ofNumber?_eq_some_iff]

/-- The year of a date. 400 years have 146097 days, and an even share of them
gives the year or the one before it. -/
def year (d : Date) : Int :=
  let share := 400 * (d.number - 1) / 146097 + 1
  if daysBeforeYear (share + 1) < d.number then share + 1 else share

/-- A date lies in its year. -/
theorem number_in_year (d : Date) :
    daysBeforeYear d.year < d.number ∧ d.number ≤ daysBeforeYear (d.year + 1) := by
  unfold year
  dsimp only
  split
  · rename_i h
    refine ⟨h, ?_⟩
    unfold daysBeforeYear at *
    omega
  · rename_i h
    refine ⟨?_, Int.not_lt.mp h⟩
    unfold daysBeforeYear at *
    omega

/-- The day of the year, from 1. -/
def dayOfYear (d : Date) : Int := d.number - daysBeforeYear d.year

/-- The last month of which fewer days of the year come before it than `day`. -/
def monthOfDay (leap : Bool) (day : Int) : Nat → Nat
  | 0 => 1
  | m + 1 => if daysBeforeMonth leap (m + 1) < day then m + 1 else monthOfDay leap day m

/-- The month, from 1. -/
def month (d : Date) : Nat := monthOfDay (isLeapYear d.year) d.dayOfYear 12

/-- The day of the month, from 1. -/
def day (d : Date) : Nat := (d.dayOfYear - daysBeforeMonth (isLeapYear d.year) d.month).toNat

/-! ## Days of the week -/

/-- Whether the date falls on the day of the week. Day 1 is a Monday. -/
def isOn (d : Date) (w : Weekday) : Bool := (d.number - 1) % 7 = w.number

theorem isOn_iff {d : Date} {w : Weekday} : d.isOn w = true ↔ (d.number - 1) % 7 = w.number := by
  unfold isOn
  exact decide_eq_true_iff

/-- Saturday or Sunday. -/
def isWeekend (d : Date) : Bool := d.isOn .saturday || d.isOn .sunday

/-- The `n`th date of a month that falls on the day of the week, counted from 1. -/
def nthWeekday? (year : Int) (month : Nat) (w : Weekday) (n : Nat) : Option Date :=
  (ofYmd? year month 1).bind fun d =>
    ofYmd? year month (1 + ((w.number - (d.number - 1)) % 7).toNat + 7 * (n - 1))

/-- The dates of a month that fall on the day of the week lie a week each into the month. -/
theorem number_nthWeekday? {year : Int} {month n : Nat} {w : Weekday} {d : Date}
    (h : nthWeekday? year month w n = some d) :
    daysBeforeYear year + daysBeforeMonth (isLeapYear year) month + 7 * (n - 1 : Nat) < d.number ∧
      d.number ≤
        daysBeforeYear year + daysBeforeMonth (isLeapYear year) month + 7 * (n - 1 : Nat) + 7 := by
  obtain ⟨start, -, hd⟩ := Option.bind_eq_some_iff.mp h
  have hnumber := (ofYmd?_eq_some_iff.mp hd).2
  omega

/-- The last date of a month that falls on the day of the week. -/
def lastWeekday? (year : Int) (month : Nat) (w : Weekday) : Option Date :=
  (nthWeekday? year month w 5).or (nthWeekday? year month w 4)

theorem number_lastWeekday? {year : Int} {month : Nat} {w : Weekday} {d : Date}
    (h : lastWeekday? year month w = some d) :
    daysBeforeYear year + daysBeforeMonth (isLeapYear year) month + 21 < d.number ∧
      d.number ≤ daysBeforeYear year + daysBeforeMonth (isLeapYear year) month + 35 := by
  rcases Option.or_eq_some_iff.mp h with h | ⟨-, h⟩ <;>
    · have := number_nthWeekday? h
      omega

end Date

end Relocation
