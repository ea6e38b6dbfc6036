-- The federal offices are never closed for four days in a row. A walk over their
-- calendar that passes over three closed days therefore gives up only at the end of
-- the range of dates, and only when too few days are left up to there.
import Relocation.Proofs.Holidays
import Relocation.Proofs.WalkOutcomes

namespace Relocation

/-! ## Days ahead, counted from the start -/

namespace Direction

variable {dir : Direction} {d e : Date}

theorem number_of_getElem?_ahead {n : Nat} (h : (dir.ahead d)[n]? = some e) :
    e.number = dir.beyond d.number n := by
  refine (beyond_of_distance ?_).symm
  induction n generalizing d with
  | zero =>
    rw [ahead_eq_cons, List.getElem?_cons_zero, Option.some.injEq] at h
    rw [h, distance_self]
    rfl
  | succ n ih =>
    cases hnext : dir.next? d with
    | none =>
      rw [ahead_of_next?_eq_none hnext] at h
      cases h
    | some next =>
      rw [ahead_of_next? hnext, List.getElem?_cons_succ] at h
      have hsum := dir.distance_add d.number next.number e.number
      have hone := next?_eq_some_iff.mp hnext
      have hrest := ih h
      omega

/-- Days in a row among those ahead: each lies as far from the first as its place says. -/
theorem distance_of_infix {days : List Date} {i : Nat} (h : days <:+: dir.ahead d)
    (hfirst : days[0]? = some e) {x : Date} (hx : days[i]? = some x) :
    dir.distance e.number x.number = i := by
  obtain ⟨before, after, happend⟩ := h
  have hplace : ∀ {j : Nat} {y : Date}, days[j]? = some y →
      y.number = dir.beyond d.number (before.length + j) := by
    intro j y hy
    refine number_of_getElem?_ahead ?_
    have hlt : j < days.length := (List.getElem?_eq_some_iff.mp hy).1
    rw [← happend, List.append_assoc, List.getElem?_append_right (Nat.le_add_right _ _),
      Nat.add_sub_cancel_left, List.getElem?_append_left hlt, hy]
  have hsum := dir.distance_add d.number e.number x.number
  rw [hplace hfirst, hplace hx, distance_beyond, distance_beyond] at hsum
  rw [hplace hfirst, hplace hx]
  omega

end Direction

/-! ## Calendars that open often enough -/

section

variable {c : Calendar} {gap limit count : Nat} {dir : Direction} {start : Date} {anyDay : Bool}
  {accepts : Date → Bool} {days : List Date}

/-- Between two days that are `gap` days in a row with those between them, there is a workday. -/
theorem Calendar.OpensWithin.along (h : c.OpensWithin gap Date.first.number Date.last.number)
    {d e : Date} (hgap : dir.distance d.number e.number + 1 = gap) :
    ∃ x, c.isWorkday x = true ∧ 0 ≤ dir.distance d.number x.number ∧
      dir.distance d.number x.number < gap := by
  have hdFirst : Date.first.number ≤ d.number := d.first_le
  have heFirst : Date.first.number ≤ e.number := e.first_le
  have hdLast : d.number ≤ Date.last.number := d.le_last
  have heLast : e.number ≤ Date.last.number := e.le_last
  cases dir with
  | forward =>
    simp only [Direction.distance] at *
    obtain ⟨x, hx, hfrom, hbefore⟩ := h d.number hdFirst (by omega)
    exact ⟨x, hx, by omega, by omega⟩
  | backward =>
    simp only [Direction.distance] at *
    obtain ⟨x, hx, hfrom, hbefore⟩ := h e.number heFirst (by omega)
    exact ⟨x, hx, by omega, by omega⟩

theorem Tires.of_le (h : Tires accepts limit days) (hle : gap ≤ limit) :
    Tires accepts gap days := by
  obtain ⟨refused, hrefused, hlength, hall⟩ := h
  refine ⟨refused.take gap, ?_, ?_, fun d hd => hall d (List.mem_of_mem_take hd)⟩
  · exact (List.take_prefix gap refused).isInfix.trans hrefused
  · exact List.length_take_of_le (hlength ▸ hle)

/-- Where of any `gap` days in a row one is a workday, no walk has to refuse as many. -/
theorem Calendar.OpensWithin.not_tires (h : c.OpensWithin gap Date.first.number Date.last.number)
    (hpos : 0 < gap) : ¬ Tires (c.accepts anyDay) gap (dir.ahead start) := by
  rintro ⟨refused, hrefused, hlength, hall⟩
  obtain ⟨d, hd⟩ : ∃ d, refused[0]? = some d := ⟨_, List.getElem?_eq_getElem (by omega)⟩
  obtain ⟨e, he⟩ : ∃ e, refused[gap - 1]? = some e := ⟨_, List.getElem?_eq_getElem (by omega)⟩
  have hspan := Direction.distance_of_infix hrefused hd he
  have hgap : dir.distance d.number e.number + 1 = gap := by omega
  obtain ⟨x, hopen, hfrom, hbefore⟩ := h.along hgap
  -- The workday has its place in the row, so it would have been accepted.
  obtain ⟨y, hy⟩ : ∃ y, refused[(dir.distance d.number x.number).toNat]? = some y :=
    ⟨_, List.getElem?_eq_getElem (by omega)⟩
  have hplace := Direction.distance_of_infix hrefused hd hy
  have hsum := dir.distance_add d.number x.number y.number
  obtain rfl : x = y := dir.eq_of_distance (by omega)
  exact hall x (List.mem_of_getElem? hy) (by simp [accepts, hopen])

/-! ## Walks that can cross every gap -/

/-- Where there are enough accepted days, some beginning holds just enough of them. -/
theorem exists_suffices (h : count ≤ days.countP accepts) :
    ∃ beginning, Suffices accepts count days beginning := by
  induction days generalizing count with
  | nil =>
    obtain rfl : count = 0 := Nat.le_zero.mp h
    exact ⟨[], suffices_zero_iff.mpr rfl⟩
  | cons d days ih =>
    cases count with
    | zero => exact ⟨[], suffices_zero_iff.mpr rfl⟩
    | succ more =>
      rw [List.countP_cons] at h
      by_cases haccepts : accepts d = true
      · rw [if_pos haccepts] at h
        obtain ⟨rest, hrest⟩ := ih (Nat.le_of_succ_le_succ h)
        exact ⟨d :: rest, (suffices_cons_iff (by rw [if_pos haccepts]) (Nat.succ_pos more)).mpr
          ⟨rest, rfl, hrest⟩⟩
      · rw [if_neg haccepts] at h
        obtain ⟨rest, hrest⟩ := ih h
        exact ⟨d :: rest, (suffices_cons_iff (by rw [if_neg haccepts]) (Nat.succ_pos more)).mpr
          ⟨rest, rfl, hrest⟩⟩

theorem Suffices.le_countP {beginning : List Date} (h : Suffices accepts count days beginning) :
    count ≤ days.countP accepts := by
  rw [← h.holds]
  exact h.begins.sublist.countP_le

/-- A walk that never tires fails exactly if there are too few accepted days ahead, and tells
how many days the range ends with that were refused. -/
theorem Calendar.walk_eq_error_of_not_tires (hcount : count ≤ limit)
    (hpatient : ¬ Tires (c.accepts anyDay) limit (dir.ahead start)) {failure : Failure} :
    c.walk start dir count anyDay limit = .error failure ↔
      (dir.ahead start).countP (c.accepts anyDay) < count ∧
        failure = .noWorkday start (trailing (c.accepts anyDay) (dir.ahead start)) := by
  cases count with
  | zero => simp [walk]
  | succ more =>
    have hrun : 0 < limit := Nat.lt_of_lt_of_le (Nat.succ_pos more) hcount
    rw [walk_of_le hcount, collect_eq_search, ← List.length_nil]
    by_cases henough : more + 1 ≤ (dir.ahead start).countP (c.accepts anyDay)
    · obtain ⟨beginning, hsuffices⟩ := exists_suffices henough
      rw [search_of_suffices (List.forall_mem_nil _) hrun hsuffices
        fun htires => hpatient (htires.mono hsuffices.begins.isInfix)]
      simp [Nat.not_lt.mpr henough]
    · rw [(search_of_tires (List.forall_mem_nil _) hrun
        fun beginning hsuffices => absurd hsuffices.le_countP henough).2 hpatient]
      simp [Nat.not_le.mp henough, eq_comm]

end

namespace FederalCalendar

/-- Without closures of their own, the federal offices are open on one of any four days in a
row. A walk over their calendar that may pass over three days fails exactly if the range of
dates ends before it has its days, and then at most the last three days were refused. -/
theorem federal_offices_open_within_four_days (c : FederalCalendar) (hclosures : c.closures = []) :
    c.calendar.OpensWithin 4 Date.first.number Date.last.number ∧
      ∀ (start : Date) (dir : Direction) (anyDay : Bool) (count limit : Nat),
        4 ≤ limit → count ≤ limit →
        let accepts := c.calendar.accepts anyDay
        let days := dir.ahead start
        (∀ failure, c.calendar.walk start dir count anyDay limit = .error failure ↔
          days.countP accepts < count ∧ failure = .noWorkday start (trailing accepts days)) ∧
        trailing accepts days ≤ 3 := by
  have hopen := opensWithin_four hclosures
  refine ⟨hopen, fun start dir anyDay count limit hlimit hcount => ?_⟩
  have hpatient : ¬ Tires (c.calendar.accepts anyDay) 4 (dir.ahead start) :=
    hopen.not_tires (by decide)
  refine ⟨fun failure => ?_, Nat.le_of_lt_succ (trailing_lt hpatient)⟩
  exact Calendar.walk_eq_error_of_not_tires hcount fun htires => hpatient (htires.of_le hlimit)

/-- From 4 July 2025, a Friday, the offices are open again within four days. The range of dates
begins on a New Year's Day, where a walk to earlier days finds none to work on. -/
theorem the_range_begins_on_a_closed_day :
    (∃ d : Date, standard.calendar.isWorkday d = true ∧ 739436 ≤ d.number ∧ d.number < 739440) ∧
      standard.calendar.walk Date.first .backward 1 false 4 =
        .error (.noWorkday Date.first 1) := by
  obtain ⟨hopen, hwalks⟩ := federal_offices_open_within_four_days standard rfl
  refine ⟨hopen 739436 (by decide) (by decide), ?_⟩
  obtain ⟨hfails, -⟩ := hwalks Date.first .backward false 1 4 (by decide) (by decide)
  exact (hfails _).mpr ⟨by decide +kernel, by decide +kernel⟩

end FederalCalendar

end Relocation
