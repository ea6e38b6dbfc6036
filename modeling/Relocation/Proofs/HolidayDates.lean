-- Which dates the holidays of a year are: each of ten rules gives one of them.
-- A holiday that is observed in the year before its own is found as well, so a
-- search through the year of a date and the next one misses none.
import Relocation.Proofs.DateLists
import Relocation.Proofs.Holidays

namespace Relocation

/-! ## Holidays by their rules -/

/-- Where each member of a list gives something, as many things come of it. -/
theorem forall₂_filterMap {α β : Type} {f : α → Option β} {P : α → β → Prop} {l : List α}
    (h : ∀ a ∈ l, ∃ b, f a = some b ∧ P a b) : List.Forall₂ P l (l.filterMap f) := by
  induction l with
  | nil => exact .nil
  | cons a l ih =>
    obtain ⟨b, hb, hab⟩ := h a List.mem_cons_self
    rw [List.filterMap_cons_some hb]
    exact .cons hab (ih fun a' ha' => h a' (List.mem_cons_of_mem a ha'))

namespace FederalCalendar

variable {c : FederalCalendar} {year : Int} {d kept : Date}

/-- What makes a date of a year a holiday. -/
inductive Rule where
  /-- A day of a month, as it is kept. -/
  | fixed (month day : Nat)
  /-- The `n`th date of a month on a day of the week, counted from 1. -/
  | nth (n : Nat) (w : Weekday) (month : Nat)
  /-- The last date of a month on a day of the week. -/
  | last (w : Weekday) (month : Nat)

/-- A fixed holiday on a weekend is kept on the weekday next to it, if shifted ones are
observed, and any other one on its own date. -/
def KeptOn (c : FederalCalendar) (d kept : Date) : Prop :=
  if c.observesShifted ∧ d.isOn .saturday then d.pred? = some kept
  else if c.observesShifted ∧ d.isOn .sunday then d.succ? = some kept
  else kept = d

namespace Rule

/-- The rule makes the date a holiday of the year. -/
def Gives (c : FederalCalendar) (year : Int) : Rule → Date → Prop
  | .fixed month day, kept => ∃ d, Date.ofYmd? year month day = some d ∧ c.KeptOn d kept
  | .nth n w month, d => (Date.weekdaysOf year month w)[n - 1]? = some d
  | .last w month, d => (Date.weekdaysOf year month w).getLast? = some d

/-- The rules of the federal offices, by the time of the year. -/
def federal : List Rule :=
  [.fixed 1 1, .nth 3 .monday 1, .nth 3 .monday 2, .last .monday 5, .fixed 7 4,
    .nth 1 .monday 9, .nth 2 .monday 10, .fixed 11 11, .nth 4 .thursday 11, .fixed 12 25]

/-- The date that the rule makes a holiday of the year, if there is one. -/
def date? (c : FederalCalendar) (year : Int) : Rule → Option Date
  | .fixed month day => c.fixed? year month day
  | .nth n w month => Date.nthWeekday? year month w n
  | .last w month => Date.lastWeekday? year month w

/-- In every year of the range the rule names a date. Days of the week are not on a weekend. -/
def Sound : Rule → Prop
  | .fixed month day => (1 ≤ month ∧ month ≤ 12) ∧ 1 ≤ day ∧ day ≤ 28
  | .nth n w month => (1 ≤ month ∧ month ≤ 12) ∧ (1 ≤ n ∧ n ≤ 4) ∧ w.number < 5
  | .last w month => (1 ≤ month ∧ month ≤ 12) ∧ w.number < 5

theorem sound_federal : ∀ rule ∈ federal, rule.Sound := by
  simp [federal, Sound, Weekday.number]

end Rule

theorem holidays_eq_filterMap (c : FederalCalendar) (year : Int) :
    c.holidays year = Rule.federal.filterMap (Rule.date? c year) := by
  rw [← Function.id_comp (f := Rule.date? c year), ← List.filterMap_map]
  rfl

/-! ## Shifted holidays -/

/-- The range begins on a Thursday, so each Saturday has a day before it. -/
theorem exists_pred?_of_saturday (h : d.isOn .saturday = true) : ∃ e, d.pred? = some e := by
  have hfirst := d.first_le
  have hlast := d.le_last
  simp only [Date.isOn_iff, Weekday.number] at h
  apply Date.exists_addDays? <;> simp only [Date.first, Date.last] <;> omega

/-- The range ends on a Monday, so each Sunday has a day after it. -/
theorem exists_succ?_of_sunday (h : d.isOn .sunday = true) : ∃ e, d.succ? = some e := by
  have hfirst := d.first_le
  have hlast := d.le_last
  simp only [Date.isOn_iff, Weekday.number] at h
  apply Date.exists_addDays? <;> simp only [Date.first, Date.last] <;> omega

theorem keptOn_shift (c : FederalCalendar) (d : Date) :
    c.KeptOn d (if c.observesShifted then shift d else d) := by
  unfold KeptOn shift
  cases c.observesShifted with
  | false => simp
  | true =>
    by_cases hsaturday : d.isOn .saturday = true
    · obtain ⟨e, he⟩ := exists_pred?_of_saturday hsaturday
      simp [hsaturday, he]
    · by_cases hsunday : d.isOn .sunday = true
      · obtain ⟨e, he⟩ := exists_succ?_of_sunday hsunday
        simp [hsaturday, hsunday, he]
      · simp [hsaturday, hsunday]

/-- Where shifted holidays are observed, none is kept on a weekend. -/
theorem isWeekend_of_keptOn (hshifted : c.observesShifted = true) (h : c.KeptOn d kept) :
    kept.isWeekend = false := by
  unfold KeptOn at h
  rw [isWeekend_eq_false]
  by_cases hsaturday : d.isOn .saturday = true
  · rw [if_pos ⟨hshifted, hsaturday⟩, Date.pred?, Date.addDays?_eq_some_iff] at h
    simp only [Date.isOn_iff, Weekday.number] at hsaturday
    omega
  · rw [if_neg fun h => hsaturday h.2] at h
    by_cases hsunday : d.isOn .sunday = true
    · rw [if_pos ⟨hshifted, hsunday⟩, Date.succ?, Date.addDays?_eq_some_iff] at h
      simp only [Date.isOn_iff, Weekday.number] at hsunday
      omega
    · rw [if_neg fun h => hsunday h.2] at h
      subst h
      simp only [Date.isOn_iff, Weekday.number] at hsaturday hsunday
      omega

/-! ## The holidays of a year -/

namespace Rule

variable {rule : Rule}

/-- In the range, each sound rule gives one holiday. -/
theorem exists_date? (hyear : -262143 ≤ year ∧ year ≤ 262142) (h : rule.Sound) :
    ∃ d, rule.date? c year = some d ∧ rule.Gives c year d := by
  cases rule with
  | fixed month day =>
    obtain ⟨hmonth, hday, hday'⟩ := h
    obtain ⟨-, hlength, -⟩ := month_within_year (isLeapYear year) hmonth
    obtain ⟨d, hd⟩ := Date.exists_ofYmd? hyear hmonth day (by omega)
    refine ⟨_, ?_, d, hd, c.keptOn_shift d⟩
    rw [date?, fixed?, hd, Option.map_some]
  | nth n w month =>
    obtain ⟨hmonth, hn, -⟩ := h
    obtain ⟨d, hd⟩ := Date.exists_nthWeekday? (w := w) hyear hmonth hn
    refine ⟨d, hd, ?_⟩
    rw [Gives, Date.getElem?_weekdaysOf hyear hmonth hn, hd]
  | last w month =>
    obtain ⟨hmonth, -⟩ := h
    obtain ⟨first, second, third, fourth, -, -, -, hfourth, -⟩ :=
      Date.exists_weekdaysOf (w := w) hyear hmonth
    obtain ⟨d, hd⟩ : ∃ d, Date.lastWeekday? year month w = some d := by
      rw [Date.lastWeekday?, hfourth]
      cases Date.nthWeekday? year month w 5 with
      | none => exact ⟨fourth, rfl⟩
      | some fifth => exact ⟨fifth, rfl⟩
    refine ⟨d, hd, ?_⟩
    rw [Gives, Date.getLast?_weekdaysOf hyear hmonth, hd]

/-- Out of the range there are no holidays. -/
theorem date?_eq_none (hyear : year < -262143 ∨ 262142 < year) : rule.date? c year = none := by
  have hnone : ∀ month day, Date.ofYmd? year month day = none := by
    intro month day
    rw [Option.eq_none_iff_forall_ne_some]
    intro d hd
    obtain ⟨hafter, hupTo⟩ := Date.number_of_ofYmd? hd
    have := Date.year_in_range hafter hupTo
    omega
  have hnth : ∀ month w n, Date.nthWeekday? year month w n = none := by
    intro month w n
    rw [Date.nthWeekday?, hnone]
    rfl
  cases rule with
  | fixed month day => rw [date?, fixed?, hnone, Option.map_none]
  | nth n w month => rw [date?, hnth]
  | last w month => rw [date?, Date.lastWeekday?, hnth, hnth, Option.or_none]

theorem isWeekend_of_gives (hshifted : c.observesShifted = true) (hsound : rule.Sound)
    (h : rule.Gives c year d) : d.isWeekend = false := by
  have hweekday : ∀ {w month}, w.number < 5 → d ∈ Date.weekdaysOf year month w →
      d.isWeekend = false := by
    intro w month hw hd
    have hon := Date.isOn_iff.mp (Date.mem_weekdaysOf.mp hd).2
    rw [isWeekend_eq_false]
    omega
  cases rule with
  | fixed month day =>
    obtain ⟨e, -, hkept⟩ := h
    exact isWeekend_of_keptOn hshifted hkept
  | nth n w month => exact hweekday hsound.2.2 (List.mem_of_getElem? h)
  | last w month => exact hweekday hsound.2 (List.mem_of_getLast? h)

end Rule

/-- A year of the range has ten holidays in ascending order, one by each rule: the fixed
ones as they are kept, and the others on the days of the week that they are named for.
Where shifted holidays are observed, all ten are from Monday to Friday. Any other year
has none. -/
theorem a_year_has_ten_holidays (c : FederalCalendar) (year : Int) :
    (-262143 ≤ year ∧ year ≤ 262142 →
      List.Forall₂ (Rule.Gives c year) Rule.federal (c.holidays year) ∧
        (c.holidays year).length = 10 ∧ (c.holidays year).Pairwise (· < ·) ∧
        (c.observesShifted = true → ∀ d ∈ c.holidays year, d.isWeekend = false)) ∧
      (year < -262143 ∨ 262142 < year → c.holidays year = []) := by
  rw [holidays_eq_filterMap]
  constructor
  · intro hyear
    have hgives := forall₂_filterMap fun rule hrule =>
      Rule.exists_date? (c := c) hyear (Rule.sound_federal rule hrule)
    refine ⟨hgives, hgives.length_eq.symm, ?_, ?_⟩
    · rw [← holidays_eq_filterMap]
      exact (holidays_apart c year).imp fun {d e} h => show d.number < e.number by omega
    · intro hshifted d hd
      obtain ⟨rule, hrule, hdate⟩ := List.mem_filterMap.mp hd
      obtain ⟨e, he, hgives⟩ := Rule.exists_date? (c := c) hyear (Rule.sound_federal rule hrule)
      obtain rfl : d = e := Option.some.inj (hdate.symm.trans he)
      exact Rule.isWeekend_of_gives hshifted (Rule.sound_federal rule hrule) hgives
  · intro hyear
    rw [List.filterMap_eq_nil_iff]
    exact fun rule _ => Rule.date?_eq_none hyear

/-- New Year's Day of 2022 is a Saturday and kept on the last day of 2021. The year after the
last of the range has no holidays. -/
theorem new_year_2022_is_kept_in_2021 :
    List.Forall₂ (Rule.Gives standard 2022) Rule.federal (standard.holidays 2022) ∧
      (standard.holidays 2022).head? = Date.ofYmd? 2021 12 31 ∧
      (∀ d ∈ standard.holidays 2022, d.isWeekend = false) ∧ standard.holidays 262143 = [] := by
  obtain ⟨hgives, -, -, hopen⟩ := (a_year_has_ten_holidays standard 2022).1 (by decide)
  refine ⟨hgives, by decide +kernel, hopen rfl, ?_⟩
  exact (a_year_has_ten_holidays standard 262143).2 (by decide)

/-! ## Holidays found by their date -/

/-- A holiday of any year is one of the year of its date or of the next year. -/
theorem year_of_holiday (h : d ∈ c.holidays year) : year = d.year ∨ year = d.year + 1 := by
  obtain ⟨hfrom, hends⟩ := holiday_within_year h
  obtain ⟨hafter, hupTo⟩ := d.number_in_year
  have hbefore : ¬ year + 1 ≤ d.year := fun hle => by
    have := daysBeforeYear_le hle
    omega
  have hbeyond : ¬ d.year + 2 ≤ year := fun hle => by
    have := daysBeforeYear_le hle
    unfold daysBeforeYear at *
    omega
  omega

/-- No holiday is missed by a search in the year of a date and the next one: those that are
found are the closures and the holidays of all years of 32 bits. -/
theorem every_holiday_is_found (c : FederalCalendar) (d : Date) :
    c.isHoliday d = true ↔
      d ∈ c.closures ∨
        ∃ year : Int, (-2147483648 ≤ year ∧ year ≤ 2147483647) ∧ d ∈ c.holidays year := by
  have hrange := Date.year_in_range d.number_in_year.1 d.number_in_year.2
  unfold isHoliday
  simp only [Bool.or_eq_true, List.contains_iff_mem, or_assoc]
  refine or_congr_right ?_
  constructor
  · rintro (h | h)
    · exact ⟨d.year, by omega, h⟩
    · exact ⟨d.year + 1, by omega, h⟩
  · rintro ⟨year, -, h⟩
    obtain rfl | rfl := year_of_holiday h
    · exact .inl h
    · exact .inr h

end FederalCalendar

end Relocation
