-- Holidays never come close together: each falls within a few days of the
-- year, and between any two of them lie days of work. So no four days in a row
-- are closed, over a weekend and over the end of a year alike.
import Relocation.Calendar.Federal
import Relocation.Proofs.Windows

namespace Relocation

namespace FederalCalendar

variable {c : FederalCalendar} {year : Int} {d e : Date}

/-! ## When holidays fall -/

theorem number_shift (d : Date) :
    d.number - 1 ≤ (shift d).number ∧ (shift d).number ≤ d.number + 1 := by
  have hpred : (d.pred?.getD d).number = d.number - 1 ∨ (d.pred?.getD d).number = d.number :=
    d.number_addDays?_getD (-1)
  have hsucc : (d.succ?.getD d).number = d.number + 1 ∨ (d.succ?.getD d).number = d.number :=
    d.number_addDays?_getD 1
  unfold shift
  split
  · omega
  · split <;> omega

theorem number_fixed? {month day : Nat} (h : c.fixed? year month day = some d) :
    daysBeforeYear year + daysBeforeMonth (isLeapYear year) month + day - 1 ≤ d.number ∧
      d.number ≤ daysBeforeYear year + daysBeforeMonth (isLeapYear year) month + day + 1 := by
  obtain ⟨e, he, rfl⟩ := Option.map_eq_some_iff.mp h
  have hnumber := (Date.ofYmd?_eq_some_iff.mp he).2
  have hshift := number_shift e
  split <;> omega

/-- A holiday of a year, with the days of the year between which it falls. -/
structure Span where
  day? : Option Date
  after : Int
  upTo : Int

namespace Span

/-- The holiday, if the year has it, falls where the span says. -/
def Fits (s : Span) (year : Int) : Prop :=
  ∀ d, s.day? = some d → daysBeforeYear year + s.after < d.number ∧
    d.number ≤ daysBeforeYear year + s.upTo

/-- A holiday on a fixed date may be observed a day early or late. -/
def fixed (c : FederalCalendar) (year : Int) (month day : Nat) : Span :=
  let before := daysBeforeMonth (isLeapYear year) month
  ⟨c.fixed? year month day, before + day - 2, before + day + 1⟩

/-- A holiday on a day of the week falls in a certain week of its month. -/
def weekday (year : Int) (month : Nat) (w : Weekday) (n : Nat) : Span :=
  let before := daysBeforeMonth (isLeapYear year) month
  ⟨Date.nthWeekday? year month w n, before + 7 * (n - 1 : Nat), before + 7 * (n - 1 : Nat) + 7⟩

/-- A holiday in the last week of a month falls in the fourth or the fifth. -/
def lastWeekday (year : Int) (month : Nat) (w : Weekday) : Span :=
  let before := daysBeforeMonth (isLeapYear year) month
  ⟨Date.lastWeekday? year month w, before + 21, before + 35⟩

theorem fits_fixed {month day : Nat} : (fixed c year month day).Fits year := by
  intro d hd
  have := number_fixed? hd
  simp only [fixed]
  omega

theorem fits_weekday {month n : Nat} {w : Weekday} : (weekday year month w n).Fits year := by
  intro d hd
  have := Date.number_nthWeekday? hd
  simp only [weekday]
  omega

theorem fits_lastWeekday {month : Nat} {w : Weekday} : (lastWeekday year month w).Fits year := by
  intro d hd
  have := Date.number_lastWeekday? hd
  simp only [lastWeekday]
  omega

end Span

/-- The spans of the holidays of a year. -/
def spans (c : FederalCalendar) (year : Int) : List Span :=
  [.fixed c year 1 1,
    .weekday year 1 .monday 3,
    .weekday year 2 .monday 3,
    .lastWeekday year 5 .monday,
    .fixed c year 7 4,
    .weekday year 9 .monday 1,
    .weekday year 10 .monday 2,
    .fixed c year 11 11,
    .weekday year 11 .thursday 4,
    .fixed c year 12 25]

theorem holidays_eq (c : FederalCalendar) (year : Int) :
    c.holidays year = (c.spans year).filterMap (·.day?) := by
  rw [← Function.id_comp (f := Span.day?), ← List.filterMap_map]
  rfl

theorem spans_fit (c : FederalCalendar) (year : Int) : ∀ s ∈ c.spans year, s.Fits year := by
  simp only [spans, List.forall_mem_cons, Span.fits_fixed, Span.fits_weekday,
    Span.fits_lastWeekday, List.not_mem_nil, false_implies, implies_true, and_self]

/-- The spans of a year are three days apart. The first begins with the last
day of the year before, and after the last the year goes on for five days. -/
theorem spans_apart (c : FederalCalendar) (year : Int) :
    (c.spans year).Pairwise (fun s t => s.upTo + 3 ≤ t.after) ∧
      ∀ s ∈ c.spans year, -1 ≤ s.after ∧ s.upTo + 5 ≤ daysBeforeMonth (isLeapYear year) 13 := by
  simp only [spans, Span.fixed, Span.weekday, Span.lastWeekday]
  cases isLeapYear year <;> simp [daysBeforeMonth]

/-! ## How far holidays lie apart -/

theorem mem_holidays (h : d ∈ c.holidays year) : ∃ s ∈ c.spans year, s.day? = some d := by
  rwa [holidays_eq, List.mem_filterMap] at h

theorem holidays_apart (c : FederalCalendar) (year : Int) :
    (c.holidays year).Pairwise fun d e => d.number + 4 ≤ e.number := by
  rw [holidays_eq, List.pairwise_filterMap]
  refine (spans_apart c year).1.imp_of_mem fun {s t} hs ht hst d hd e he => ?_
  have hupTo := (spans_fit c year s hs d hd).2
  have hafter := (spans_fit c year t ht e he).1
  omega

theorem holiday_within_year (h : d ∈ c.holidays year) :
    daysBeforeYear year ≤ d.number ∧ d.number + 5 ≤ daysBeforeYear (year + 1) := by
  obtain ⟨s, hs, hd⟩ := mem_holidays h
  have hfits := spans_fit c year s hs d hd
  have hends := (spans_apart c year).2 s hs
  rw [daysBeforeYear_succ]
  omega

/-- Two holidays lie four days apart or more. -/
theorem holidays_far {y z : Int} (hd : d ∈ c.holidays y) (he : e ∈ c.holidays z) (hne : d ≠ e) :
    d.number + 4 ≤ e.number ∨ e.number + 4 ≤ d.number := by
  have hdWithin := holiday_within_year hd
  have heWithin := holiday_within_year he
  rcases Int.lt_trichotomy y z with hlt | rfl | hlt
  · have := daysBeforeYear_le hlt
    omega
  · obtain ⟨i, hi, rfl⟩ := List.getElem_of_mem hd
    obtain ⟨j, hj, rfl⟩ := List.getElem_of_mem he
    have hapart := List.pairwise_iff_getElem.mp (holidays_apart c y)
    rcases Nat.lt_trichotomy i j with hij | rfl | hij
    · exact .inl (hapart i j hi hj hij)
    · exact absurd rfl hne
    · exact .inr (hapart j i hj hi hij)
  · have := daysBeforeYear_le hlt
    omega

/-! ## How long the offices stay closed -/

theorem isWorkday_calendar : c.calendar.isWorkday d = true ↔
    d.isWeekend = false ∧ c.isHoliday d = false := by
  simp only [calendar, Bool.and_eq_true, Bool.not_eq_true']

theorem isWeekend_eq_false : d.isWeekend = false ↔ (d.number - 1) % 7 < 5 := by
  have hlt := Int.emod_lt_of_pos (d.number - 1) (by decide : (0 : Int) < 7)
  simp only [Date.isWeekend, Date.isOn, Bool.or_eq_false_iff, decide_eq_false_iff_not]
  simp only [Weekday.number]
  omega

theorem exists_holidays (h : c.isHoliday d = true) (hclosures : c.closures = []) :
    ∃ year, d ∈ c.holidays year := by
  simp only [isHoliday, hclosures, Bool.or_eq_true, List.contains_iff_mem, List.not_mem_nil,
    false_or] at h
  exact h.elim (⟨_, ·⟩) (⟨_, ·⟩)

/-- Of two weekdays less than four days apart, one is a workday. -/
theorem workday_of_two (hclosures : c.closures = []) (hd : d.isWeekend = false)
    (he : e.isWeekend = false) (hlt : d.number < e.number) (hnear : e.number < d.number + 4) :
    c.calendar.isWorkday d = true ∨ c.calendar.isWorkday e = true := by
  simp only [isWorkday_calendar, hd, he, true_and]
  cases hdHoliday : c.isHoliday d with
  | false => exact .inl rfl
  | true =>
    cases heHoliday : c.isHoliday e with
    | false => exact .inr rfl
    | true =>
      obtain ⟨y, hy⟩ := exists_holidays hdHoliday hclosures
      obtain ⟨z, hz⟩ := exists_holidays heHoliday hclosures
      have hfar := holidays_far hy hz (by rintro rfl; omega)
      omega

/-- Four days in a row hold two weekdays. -/
theorem exists_weekdays (n : Int) : ∃ i j : Int, 0 ≤ i ∧ i < j ∧ j < 4 ∧
    (n + i - 1) % 7 < 5 ∧ (n + j - 1) % 7 < 5 := by
  by_cases hearly : (n - 1) % 7 < 4
  · exact ⟨0, 1, by omega⟩
  · by_cases hfriday : (n - 1) % 7 = 4
    · exact ⟨0, 3, by omega⟩
    · exact ⟨2, 3, by omega⟩

/-- The federal offices are open on one of any four days in a row. -/
theorem opensWithin_four (hclosures : c.closures = []) :
    c.calendar.OpensWithin 4 Date.first.number Date.last.number := by
  intro n hfirst hlast
  obtain ⟨i, j, hi, hij, hj, hiWeekday, hjWeekday⟩ := exists_weekdays n
  obtain ⟨d, hd⟩ := Date.exists_between (by omega : Date.first.number ≤ n + i)
    (by omega : n + i ≤ Date.last.number)
  obtain ⟨e, he⟩ := Date.exists_between (by omega : Date.first.number ≤ n + j)
    (by omega : n + j ≤ Date.last.number)
  rw [← hd, ← isWeekend_eq_false] at hiWeekday
  rw [← he, ← isWeekend_eq_false] at hjWeekday
  rcases workday_of_two hclosures hiWeekday hjWeekday (by omega) (by omega) with hopen | hopen
  · exact ⟨d, hopen, by omega, by omega⟩
  · exact ⟨e, hopen, by omega, by omega⟩

end FederalCalendar

end Relocation
