-- Lists of dates in ascending order. The days from a date on, and the dates of a
-- month that fall on a day of the week: the first to the fourth are always there,
-- and the last is the fifth or the fourth.
import Mathlib.Data.List.Sort
import Relocation.Time.Date

namespace Relocation

namespace Date

variable {year : Int} {month day n count : Nat} {w : Weekday} {d e : Date}

/-! ## Dates in ascending order -/

instance : Std.Asymm (fun a b : Date => a < b) := ⟨fun _ _ => Int.lt_asymm⟩

/-- Two ascending lists of the same dates are one. -/
theorem eq_of_ascending {l l' : List Date} (h : l.Pairwise (· < ·)) (h' : l'.Pairwise (· < ·))
    (hmem : ∀ d, d ∈ l ↔ d ∈ l') : l = l' :=
  h.eq_of_mem_iff h' hmem

theorem ascending_filterMap_range {f : Nat → Option Date}
    (h : ∀ m n, m < n → ∀ d e, f m = some d → f n = some e → d.number < e.number) :
    ((List.range count).filterMap f).Pairwise (· < ·) := by
  rw [List.pairwise_filterMap]
  exact List.pairwise_lt_range.imp fun {m n} hmn d hd e he => h m n hmn d e hd he

/-! ## Days in a row -/

/-- The days from `d` on, as many as the count says and the range has. -/
def daysFrom (d : Date) (count : Nat) : List Date :=
  (List.range count).filterMap fun n : Nat => d.addDays? n

/-- The days from `d` on that come before `e`. -/
def daysTo (d e : Date) : List Date := d.daysFrom (e.number - d.number).toNat

theorem mem_daysFrom : e ∈ d.daysFrom count ↔ d ≤ e ∧ e.number < d.number + count := by
  unfold daysFrom
  simp only [List.mem_filterMap, List.mem_range, addDays?_eq_some_iff, le_iff]
  constructor
  · rintro ⟨n, hn, he⟩
    omega
  · rintro ⟨hle, hlt⟩
    exact ⟨(e.number - d.number).toNat, by omega, by omega⟩

theorem ascending_daysFrom (d : Date) (count : Nat) : (d.daysFrom count).Pairwise (· < ·) := by
  apply ascending_filterMap_range
  intro m n hmn x y hx hy
  rw [addDays?_eq_some_iff] at hx hy
  omega

theorem mem_daysTo {x : Date} : x ∈ d.daysTo e ↔ d ≤ x ∧ x < e := by
  unfold daysTo
  rw [mem_daysFrom, le_iff, lt_iff]
  omega

/-! ## Years in the range -/

/-- A date of a month lies in its year. -/
theorem number_of_ofYmd? (h : ofYmd? year month day = some d) :
    daysBeforeYear year < d.number ∧ d.number ≤ daysBeforeYear (year + 1) := by
  obtain ⟨⟨hmonth, hmonth', hday, hday'⟩, hnumber⟩ := ofYmd?_eq_some_iff.mp h
  obtain ⟨hbefore, -, hwithin⟩ := month_within_year (isLeapYear year) ⟨hmonth, hmonth'⟩
  rw [daysBeforeYear_succ]
  unfold monthLength at hday'
  omega

/-- A year with a date is in the range. -/
theorem year_in_range (hafter : daysBeforeYear year < d.number)
    (hupTo : d.number ≤ daysBeforeYear (year + 1)) : -262143 ≤ year ∧ year ≤ 262142 := by
  have hfirst := d.first_le
  have hlast := d.le_last
  have hnumberFirst := number_first
  have hnumberLast := number_last
  simp only [first, last] at hnumberFirst hnumberLast
  constructor
  · refine Int.not_lt.mp fun hlt => ?_
    have := daysBeforeYear_le (by omega : year + 1 ≤ -262143)
    omega
  · refine Int.not_lt.mp fun hlt => ?_
    have := daysBeforeYear_le (by omega : 262143 ≤ year)
    omega

/-- Each day of a month in the range is a date. -/
theorem exists_ofYmd? (hyear : -262143 ≤ year ∧ year ≤ 262142) (hmonth : 1 ≤ month ∧ month ≤ 12)
    (day : Nat) (hday : 1 ≤ day ∧ (day : Int) ≤ monthLength (isLeapYear year) month) :
    ∃ d, ofYmd? year month day = some d := by
  obtain ⟨hbefore, -, hwithin⟩ := month_within_year (isLeapYear year) hmonth
  have hfirst := daysBeforeYear_le hyear.1
  have hlast := daysBeforeYear_le (by omega : year + 1 ≤ 262143)
  have hnumberFirst := number_first
  have hnumberLast := number_last
  have hsucc := daysBeforeYear_succ year
  have hlength := hday.2
  unfold monthLength at hlength
  obtain ⟨d, hd⟩ := exists_between (a := first) (b := last)
    (n := daysBeforeYear year + daysBeforeMonth (isLeapYear year) month + day)
    (by omega) (by omega)
  exact ⟨d, ofYmd?_eq_some_iff.mpr ⟨⟨hmonth.1, hmonth.2, hday⟩, hd⟩⟩

/-! ## Days of the week in a month -/

/-- The dates of a month, in ascending order. -/
def ofMonth (year : Int) (month : Nat) : List Date :=
  (List.range 31).filterMap fun n => ofYmd? year month (n + 1)

/-- The dates of a month that fall on the day of the week, in ascending order. -/
def weekdaysOf (year : Int) (month : Nat) (w : Weekday) : List Date :=
  (ofMonth year month).filter (·.isOn w)

theorem mem_weekdaysOf :
    d ∈ weekdaysOf year month w ↔ (∃ day, ofYmd? year month day = some d) ∧ d.isOn w = true := by
  unfold weekdaysOf ofMonth
  rw [List.mem_filter, List.mem_filterMap]
  refine and_congr_left fun _ => ?_
  constructor
  · rintro ⟨n, -, hn⟩
    exact ⟨n + 1, hn⟩
  · rintro ⟨day, hday⟩
    obtain ⟨-, -, hpos, hle⟩ := (ofYmd?_eq_some_iff.mp hday).1
    have hlength := monthLength_le (isLeapYear year) month
    refine ⟨day - 1, List.mem_range.mpr (by omega), ?_⟩
    rwa [Nat.sub_add_cancel hpos]

theorem ascending_weekdaysOf (year : Int) (month : Nat) (w : Weekday) :
    (weekdaysOf year month w).Pairwise (· < ·) := by
  unfold weekdaysOf ofMonth
  apply List.Pairwise.filter
  apply ascending_filterMap_range
  intro m n hmn d e hd he
  have hdNumber := (ofYmd?_eq_some_iff.mp hd).2
  have heNumber := (ofYmd?_eq_some_iff.mp he).2
  omega

/-- The `n`th date on a day of the week is the one in the `n`th seven days of the month. -/
theorem nthWeekday?_eq_some_iff : nthWeekday? year month w n = some d ↔
    ∃ day, ofYmd? year month day = some d ∧ d.isOn w = true ∧
      7 * (n - 1) < day ∧ day ≤ 7 * (n - 1) + 7 := by
  have hw := w.number_bounds
  unfold nthWeekday?
  simp only [Option.bind_eq_some_iff, isOn_iff]
  constructor
  · rintro ⟨start, hstart, hd⟩
    refine ⟨_, hd, ?_⟩
    have hstartNumber := (ofYmd?_eq_some_iff.mp hstart).2
    have hdNumber := (ofYmd?_eq_some_iff.mp hd).2
    omega
  · rintro ⟨day, hd, hon, hafter, hupTo⟩
    obtain ⟨⟨hmonth, hmonth', -⟩, hdNumber⟩ := ofYmd?_eq_some_iff.mp hd
    obtain ⟨hyear, hyear'⟩ := number_of_ofYmd? hd
    obtain ⟨-, hlength, -⟩ := month_within_year (isLeapYear year) ⟨hmonth, hmonth'⟩
    obtain ⟨start, hstart⟩ := exists_ofYmd? (year_in_range hyear hyear') ⟨hmonth, hmonth'⟩
      1 (by omega)
    refine ⟨start, hstart, ?_⟩
    have hstartNumber := (ofYmd?_eq_some_iff.mp hstart).2
    rw [← hd]
    congr 1
    omega

theorem exists_nthWeekday? (hyear : -262143 ≤ year ∧ year ≤ 262142)
    (hmonth : 1 ≤ month ∧ month ≤ 12) (hn : 1 ≤ n ∧ n ≤ 4) :
    ∃ d, nthWeekday? year month w n = some d := by
  obtain ⟨-, hlength, -⟩ := month_within_year (isLeapYear year) hmonth
  obtain ⟨start, hstart⟩ := exists_ofYmd? hyear hmonth 1 (by omega)
  obtain ⟨d, hd⟩ := exists_ofYmd? hyear hmonth
    (1 + ((w.number - (start.number - 1)) % 7).toNat + 7 * (n - 1)) (by omega)
  refine ⟨d, ?_⟩
  unfold nthWeekday?
  rw [hstart]
  exact hd

/-- The dates of a month on a day of the week are the first to the fourth, and the fifth if
there is one. -/
theorem weekdaysOf_eq (year : Int) (month : Nat) (w : Weekday) :
    weekdaysOf year month w =
      (List.range 5).filterMap fun n => nthWeekday? year month w (n + 1) := by
  refine eq_of_ascending (ascending_weekdaysOf year month w) ?_ fun d => ?_
  · apply ascending_filterMap_range
    intro m n hmn d e hd he
    have hdNumber := number_nthWeekday? hd
    have heNumber := number_nthWeekday? he
    omega
  · rw [mem_weekdaysOf, List.mem_filterMap]
    constructor
    · rintro ⟨⟨day, hday⟩, hon⟩
      obtain ⟨-, -, hpos, hle⟩ := (ofYmd?_eq_some_iff.mp hday).1
      have hlength := monthLength_le (isLeapYear year) month
      refine ⟨(day - 1) / 7, List.mem_range.mpr (by omega), ?_⟩
      exact nthWeekday?_eq_some_iff.mpr ⟨day, hday, hon, by omega, by omega⟩
    · rintro ⟨n, -, hn⟩
      obtain ⟨day, hday, hon, -⟩ := nthWeekday?_eq_some_iff.mp hn
      exact ⟨⟨day, hday⟩, hon⟩

/-- In each month of the range there are four dates on a day of the week, and maybe a fifth. -/
theorem exists_weekdaysOf (hyear : -262143 ≤ year ∧ year ≤ 262142)
    (hmonth : 1 ≤ month ∧ month ≤ 12) : ∃ first second third fourth,
      nthWeekday? year month w 1 = some first ∧ nthWeekday? year month w 2 = some second ∧
      nthWeekday? year month w 3 = some third ∧ nthWeekday? year month w 4 = some fourth ∧
      weekdaysOf year month w =
        [first, second, third, fourth] ++ (nthWeekday? year month w 5).toList := by
  obtain ⟨first, hfirst⟩ := exists_nthWeekday? (w := w) hyear hmonth (n := 1) (by decide)
  obtain ⟨second, hsecond⟩ := exists_nthWeekday? (w := w) hyear hmonth (n := 2) (by decide)
  obtain ⟨third, hthird⟩ := exists_nthWeekday? (w := w) hyear hmonth (n := 3) (by decide)
  obtain ⟨fourth, hfourth⟩ := exists_nthWeekday? (w := w) hyear hmonth (n := 4) (by decide)
  refine ⟨first, second, third, fourth, hfirst, hsecond, hthird, hfourth, ?_⟩
  have hrange : List.range 5 = [0, 1, 2, 3, 4] := rfl
  rw [weekdaysOf_eq, hrange]
  simp only [List.filterMap_cons, List.filterMap_nil, hfirst, hsecond, hthird, hfourth,
    List.cons_append, List.nil_append, Nat.reduceAdd]
  cases nthWeekday? year month w 5 <;> rfl

theorem getElem?_weekdaysOf (hyear : -262143 ≤ year ∧ year ≤ 262142)
    (hmonth : 1 ≤ month ∧ month ≤ 12) (hn : 1 ≤ n ∧ n ≤ 4) :
    (weekdaysOf year month w)[n - 1]? = nthWeekday? year month w n := by
  obtain ⟨first, second, third, fourth, hfirst, hsecond, hthird, hfourth, hdays⟩ :=
    exists_weekdaysOf (w := w) hyear hmonth
  obtain rfl | rfl | rfl | rfl : n = 1 ∨ n = 2 ∨ n = 3 ∨ n = 4 := by omega
  · rw [hdays, hfirst]
    rfl
  · rw [hdays, hsecond]
    rfl
  · rw [hdays, hthird]
    rfl
  · rw [hdays, hfourth]
    rfl

/-- The last of the dates is the fifth or else the fourth. -/
theorem getLast?_weekdaysOf (hyear : -262143 ≤ year ∧ year ≤ 262142)
    (hmonth : 1 ≤ month ∧ month ≤ 12) :
    (weekdaysOf year month w).getLast? = lastWeekday? year month w := by
  obtain ⟨first, second, third, fourth, -, -, -, hfourth, hdays⟩ :=
    exists_weekdaysOf (w := w) hyear hmonth
  rw [hdays, lastWeekday?, hfourth]
  cases nthWeekday? year month w 5 <;> rfl

end Date

end Relocation
