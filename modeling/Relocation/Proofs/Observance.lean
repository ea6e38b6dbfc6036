-- What the settings of a federal calendar do to its workdays. Each closure takes a
-- day away, and the observance of shifted holidays takes away exactly the Fridays
-- before and the Mondays after a fixed holiday on a weekend.
import Relocation.Proofs.HolidayDates

namespace Relocation

/-- The days of the year that are holidays on whatever day of the week they fall, by month
and day. -/
def FederalCalendar.fixedDays : List (Nat × Nat) := [(1, 1), (7, 4), (11, 11), (12, 25)]

/-- The date is one of the fixed holidays of a year. -/
def Date.IsFixedHoliday (d : Date) : Prop :=
  ∃ year, ∃ day ∈ FederalCalendar.fixedDays, ofYmd? year day.1 day.2 = some d

/-- The date is the Friday before a fixed holiday or the Monday after one. -/
def Date.AdjoinsFixedHoliday (d : Date) : Prop :=
  (d.isOn .friday = true ∧ ∃ e, d.succ? = some e ∧ e.IsFixedHoliday) ∨
    (d.isOn .monday = true ∧ ∃ e, d.pred? = some e ∧ e.IsFixedHoliday)

namespace FederalCalendar

variable {c : FederalCalendar} {year : Int} {d e : Date}

/-! ## Workdays of any setting -/

theorem isHoliday_iff : c.isHoliday d = true ↔ d ∈ c.closures ∨ ∃ year, d ∈ c.holidays year := by
  unfold isHoliday
  simp only [Bool.or_eq_true, List.contains_iff_mem, or_assoc]
  refine or_congr_right ⟨fun h => h.elim (⟨_, ·⟩) (⟨_, ·⟩), fun ⟨year, h⟩ => ?_⟩
  obtain rfl | rfl := year_of_holiday h
  · exact .inl h
  · exact .inr h

theorem isWorkday_iff : c.calendar.isWorkday d = true ↔
    d.isWeekend = false ∧ d ∉ c.closures ∧ ¬ ∃ year, d ∈ c.holidays year := by
  rw [isWorkday_calendar, ← Bool.not_eq_true (c.isHoliday d), isHoliday_iff, not_or]

theorem mem_holidays_iff : d ∈ c.holidays year ↔
    ∃ rule ∈ Rule.federal, rule.date? c year = some d := by
  rw [holidays_eq_filterMap, List.mem_filterMap]

theorem fixed_mem_federal {month day : Nat} :
    .fixed month day ∈ Rule.federal ↔ (month, day) ∈ fixedDays := by
  simp [Rule.federal, fixedDays]

/-! ## Shifted holidays -/

theorem number_shift_cases (e : Date) :
    (e.isOn .saturday = true ∧ (shift e).number = e.number - 1) ∨
      (e.isOn .sunday = true ∧ (shift e).number = e.number + 1) ∨
      (e.isWeekend = false ∧ (shift e).number = e.number) := by
  unfold shift
  by_cases hsaturday : e.isOn .saturday = true
  · obtain ⟨x, hx⟩ := exists_pred?_of_saturday hsaturday
    rw [if_pos hsaturday, hx, Option.getD_some]
    exact .inl ⟨hsaturday, Date.addDays?_eq_some_iff.mp hx⟩
  · rw [if_neg hsaturday]
    by_cases hsunday : e.isOn .sunday = true
    · obtain ⟨x, hx⟩ := exists_succ?_of_sunday hsunday
      rw [if_pos hsunday, hx, Option.getD_some]
      exact .inr (.inl ⟨hsunday, Date.addDays?_eq_some_iff.mp hx⟩)
    · rw [if_neg hsunday]
      exact .inr (.inr ⟨by simp [Date.isWeekend, hsaturday, hsunday], rfl⟩)

/-- A weekday is where a date is shifted to exactly if it is that date, or the Friday before
it, or the Monday after it. -/
theorem shift_eq_iff (hd : d.isWeekend = false) : shift e = d ↔
    e = d ∨ (d.isOn .friday = true ∧ d.succ? = some e) ∨
      (d.isOn .monday = true ∧ d.pred? = some e) := by
  have heq : ∀ x y : Date, x = y ↔ x.number = y.number :=
    fun x y => ⟨congrArg Date.number, Date.eq_of_number⟩
  have hcases := number_shift_cases e
  simp only [heq, isWeekend_eq_false, Date.isOn_iff, Weekday.number, Date.succ?, Date.pred?,
    Date.addDays?_eq_some_iff] at *
  omega

/-- The weekdays that are holidays where shifted ones are observed are those that are holidays
anyway, and those next to a fixed holiday on a weekend. -/
theorem observed_iff (hd : d.isWeekend = false) (closures closures' : List Date) :
    (∃ year, d ∈ (mk true closures).holidays year) ↔
      (∃ year, d ∈ (mk false closures').holidays year) ∨ d.AdjoinsFixedHoliday := by
  simp only [mem_holidays_iff]
  constructor
  · rintro ⟨year, rule, hrule, hdate⟩
    cases rule with
    | fixed month day =>
      obtain ⟨e, he, hshift⟩ := Option.map_eq_some_iff.mp hdate
      rcases (shift_eq_iff hd).mp hshift with rfl | ⟨hfriday, hsucc⟩ | ⟨hmonday, hpred⟩
      · exact .inl ⟨year, _, hrule, by rw [Rule.date?, fixed?, he]; rfl⟩
      · exact .inr (.inl ⟨hfriday, e, hsucc, year, _, fixed_mem_federal.mp hrule, he⟩)
      · exact .inr (.inr ⟨hmonday, e, hpred, year, _, fixed_mem_federal.mp hrule, he⟩)
    | nth n w month => exact .inl ⟨year, _, hrule, hdate⟩
    | last w month => exact .inl ⟨year, _, hrule, hdate⟩
  · have hfixed : ∀ {e}, e.IsFixedHoliday → shift e = d →
        ∃ year, ∃ rule ∈ Rule.federal, rule.date? (mk true closures) year = some d := by
      rintro e ⟨year, ⟨month, day⟩, hday, he⟩ hshift
      refine ⟨year, _, fixed_mem_federal.mpr hday, ?_⟩
      rw [Rule.date?, fixed?, he, Option.map_some, if_pos rfl, hshift]
    rintro (⟨year, rule, hrule, hdate⟩ | ⟨hfriday, e, hsucc, he⟩ | ⟨hmonday, e, hpred, he⟩)
    · cases rule with
      | fixed month day =>
        obtain ⟨e, he, rfl⟩ := Option.map_eq_some_iff.mp hdate
        exact hfixed ⟨year, _, fixed_mem_federal.mp hrule, he⟩ ((shift_eq_iff hd).mpr (.inl rfl))
      | nth n w month => exact ⟨year, _, hrule, hdate⟩
      | last w month => exact ⟨year, _, hrule, hdate⟩
    · exact hfixed he ((shift_eq_iff hd).mpr (.inr (.inl ⟨hfriday, hsucc⟩)))
    · exact hfixed he ((shift_eq_iff hd).mpr (.inr (.inr ⟨hmonday, hpred⟩)))

/-- Closures and the observance of shifted holidays only take workdays away. The observance
takes the Fridays before and the Mondays after a fixed holiday, and no others. -/
theorem settings_only_take_workdays_away (d : Date) :
    (∀ few many : List Date, few ⊆ many →
      (mk true many).calendar.isWorkday d = true →
        ∀ shifted, (mk shifted few).calendar.isWorkday d = true) ∧
    ∀ closures : List Date, (mk false closures).calendar.isWorkday d = true →
      ((mk true closures).calendar.isWorkday d = false ↔ d.AdjoinsFixedHoliday) := by
  constructor
  · intro few many hsub hopen shifted
    rw [isWorkday_iff] at hopen ⊢
    obtain ⟨hd, hclosures, hholidays⟩ := hopen
    refine ⟨hd, fun h => hclosures (hsub h), fun h => hholidays ?_⟩
    cases shifted with
    | false => exact (observed_iff hd many few).mpr (.inl h)
    | true => exact h
  · intro closures hopen
    obtain ⟨hd, hclosures, hholidays⟩ := isWorkday_iff.mp hopen
    rw [← Bool.not_eq_true, isWorkday_iff, observed_iff hd closures closures]
    constructor
    · intro hclosed
      by_contra hnext
      exact hclosed ⟨hd, hclosures, fun h => h.elim hholidays hnext⟩
    · exact fun hnext hworks => hworks.2.2 (.inr hnext)

/-- New Year's Day of 2022 is a Saturday, which takes the Friday before it. On the Monday after
it the offices are open, whatever the setting. -/
theorem new_year_2022_takes_a_friday :
    let friday : Date := ⟨738155, by decide, by decide⟩
    let monday : Date := ⟨738158, by decide, by decide⟩
    unshifted.calendar.isWorkday friday = true ∧ standard.calendar.isWorkday friday = false ∧
      ∀ shifted, (mk shifted []).calendar.isWorkday monday = true := by
  intro friday monday
  have hopen : unshifted.calendar.isWorkday friday = true := by decide +kernel
  refine ⟨hopen, ((settings_only_take_workdays_away friday).2 [] hopen).mpr (.inl ?_), ?_⟩
  · exact ⟨by decide, ⟨738156, by decide, by decide⟩, rfl, 2022, (1, 1), by decide, rfl⟩
  · exact (settings_only_take_workdays_away monday).1 [] [friday] (List.nil_subset _)
      (by decide +kernel)

end FederalCalendar

end Relocation
