-- On which days no move can be booked: on the closed days of the window and on
-- its first five workdays. The list of them keeps count while it is made, and
-- here the count is told from the days alone, and from a walk over the workdays.
import Relocation.Proofs.DateLists
import Relocation.Proofs.WalkOutcomes

namespace Relocation

open Sample (july)

/-! ## The window -/

section

variable {c : Calendar} {start d : Date} {left : Nat} {days : List Date}

/-- The ninety days from the start on, but for the last date of the range. -/
structure InWindow (start d : Date) : Prop where
  start_le : start ≤ d
  near : d.number ≤ start.number + 89
  before_last : d < Date.last

theorem windowFrom_eq (start : Date) :
    windowFrom start = (start.daysFrom bookingWindow).filter (· < Date.last) := rfl

theorem mem_windowFrom : d ∈ windowFrom start ↔ InWindow start d := by
  rw [windowFrom_eq, List.mem_filter, Date.mem_daysFrom, decide_eq_true_iff, bookingWindow]
  constructor
  · rintro ⟨⟨hstart, hnear⟩, hlast⟩
    exact ⟨hstart, by omega, hlast⟩
  · rintro ⟨hstart, hnear, hlast⟩
    exact ⟨⟨hstart, by omega⟩, hlast⟩

theorem ascending_windowFrom (start : Date) : (windowFrom start).Pairwise (· < ·) := by
  rw [windowFrom_eq]
  exact (start.ascending_daysFrom _).filter _

/-- The window holds all days before one of its days. -/
theorem filter_windowFrom (h : InWindow start d) :
    (windowFrom start).filter (· < d) = start.daysTo d := by
  refine Date.eq_of_ascending ((ascending_windowFrom start).filter _)
    (start.ascending_daysFrom _) fun e => ?_
  rw [List.mem_filter, mem_windowFrom, Date.mem_daysTo, decide_eq_true_iff]
  constructor
  · rintro ⟨he, hlt⟩
    exact ⟨he.start_le, hlt⟩
  · rintro ⟨hstart, hlt⟩
    have hnear : e.number ≤ start.number + 89 :=
      Int.le_trans (Int.le_of_lt hlt) h.near
    exact ⟨⟨hstart, hnear, Int.lt_trans hlt h.before_last⟩, hlt⟩

/-! ## Days that are kept back -/

theorem unavailableOf_sublist (c : Calendar) (left : Nat) (days : List Date) :
    (unavailableOf c left days).Sublist days := by
  induction days generalizing left with
  | nil => exact .slnil
  | cons e days ih =>
    unfold unavailableOf
    split
    · cases left with
      | zero => exact (ih 0).cons e
      | succ left => exact (ih left).cons_cons e
    · exact (ih left).cons_cons e

/-- No day comes before the first of an ascending list. -/
theorem countP_before_first {first : Date} (h : ∀ d ∈ days, first < d) :
    (first :: days).countP (fun e => decide (e < first) && c.isWorkday e) = 0 := by
  rw [List.countP_eq_zero]
  intro e he hlt
  simp only [Bool.and_eq_true, decide_eq_true_eq] at hlt
  rcases List.mem_cons.mp he with rfl | he
  · exact Int.lt_irrefl _ hlt.1
  · exact Int.lt_asymm (h e he) hlt.1

/-- The first of an ascending list comes before all others. -/
theorem countP_before_later {first : Date} (h : ∀ d ∈ days, first < d) (hd : d ∈ days) :
    (first :: days).countP (fun e => decide (e < d) && c.isWorkday e) =
      days.countP (fun e => decide (e < d) && c.isWorkday e) +
        if c.isWorkday first then 1 else 0 := by
  simp [List.countP_cons, h d hd]

/-- A day is kept back if it is closed, or if too few workdays come before it. -/
theorem mem_unavailableOf (h : days.Pairwise (· < ·)) : d ∈ unavailableOf c left days ↔
    d ∈ days ∧ (c.isWorkday d = false ∨
      days.countP (fun e => decide (e < d) && c.isWorkday e) < left) := by
  induction days generalizing left with
  | nil => simp [unavailableOf]
  | cons e days ih =>
    obtain ⟨hbefore, hdays⟩ := List.pairwise_cons.mp h
    have hfirst := countP_before_first (c := c) hbefore
    have hrest := fun hd : d ∈ days => countP_before_later (c := c) hbefore hd
    unfold unavailableOf
    cases hopen : c.isWorkday e with
    | false =>
      simp only [Bool.false_eq_true, if_false, List.mem_cons, ih hdays]
      constructor
      · rintro (rfl | ⟨hd, hkept⟩)
        · exact ⟨.inl rfl, .inl hopen⟩
        · rw [hrest hd, hopen]
          exact ⟨.inr hd, hkept⟩
      · rintro ⟨rfl | hd, hkept⟩
        · exact .inl rfl
        · rw [hrest hd, hopen] at hkept
          exact .inr ⟨hd, hkept⟩
    | true =>
      cases left with
      | zero =>
        simp only [if_true, List.mem_cons, ih hdays, Nat.not_lt_zero, or_false]
        constructor
        · rintro ⟨hd, hclosed⟩
          exact ⟨.inr hd, hclosed⟩
        · rintro ⟨rfl | hd, hclosed⟩
          · simp [hopen] at hclosed
          · exact ⟨hd, hclosed⟩
      | succ left =>
        simp only [if_true, List.mem_cons, ih hdays]
        constructor
        · rintro (rfl | ⟨hd, hkept⟩)
          · exact ⟨.inl rfl, .inr (by rw [hfirst]; exact Nat.succ_pos left)⟩
          · rw [hrest hd, hopen]
            exact ⟨.inr hd, hkept.imp_right Nat.succ_lt_succ⟩
        · rintro ⟨rfl | hd, hkept⟩
          · exact .inl rfl
          · rw [hrest hd, hopen] at hkept
            exact .inr ⟨hd, hkept.imp_right Nat.lt_of_succ_lt_succ⟩

/-! ## Walks over the workdays -/

/-- Before the day that a walk over the workdays takes at index `i` come `i` workdays. -/
theorem countP_daysTo_of_walk {n limit i : Nat}
    (h : c.walk start .forward n false limit = .ok days) (hi : days[i]? = some d) :
    (start.daysTo d).countP c.isWorkday = i := by
  obtain ⟨-, hascending, haccepted, hcomplete⟩ := Calendar.gapless_of_walk h
  obtain ⟨hlt, hd⟩ := List.getElem?_eq_some_iff.mp hi
  have hbefore := List.pairwise_iff_getElem.mp hascending
  have htake : (start.daysTo d).filter c.isWorkday = days.take i := by
    refine Date.eq_of_ascending ((start.ascending_daysFrom _).filter _)
      (hascending.sublist (days.take_sublist i)) fun e => ?_
    rw [List.mem_filter, Date.mem_daysTo, List.mem_take_iff_getElem]
    constructor
    · rintro ⟨⟨hstart, hed⟩, hopen⟩
      have he := hcomplete d (List.mem_of_getElem? hi) e hopen (Int.sub_nonneg_of_le hstart)
        (Int.sub_nonneg_of_le (Int.le_of_lt hed))
      obtain ⟨j, hj, rfl⟩ := List.getElem_of_mem he
      refine ⟨j, ?_, rfl⟩
      -- A day at a later index would not come before `d`.
      refine Nat.lt_min.mpr ⟨Nat.not_le.mp fun hij => ?_, hj⟩
      subst hd
      rcases Nat.lt_or_eq_of_le hij with hij | rfl
      · exact Int.lt_asymm hed (hbefore i j hlt hj hij)
      · exact Int.lt_irrefl _ hed
    · rintro ⟨j, hj, rfl⟩
      obtain ⟨hji, hj⟩ := Nat.lt_min.mp hj
      obtain ⟨hopen, hstart⟩ := haccepted _ (List.getElem_mem hj)
      subst hd
      exact ⟨⟨Int.le_of_sub_nonneg hstart, hbefore j i hj hlt hji⟩, hopen⟩
  rw [List.countP_eq_length_filter, htake, List.length_take_of_le (Nat.le_of_lt hlt)]

theorem ascending_unavailable (c : Calendar) (start : Date) :
    (c.unavailable start).Pairwise (· < ·) :=
  (ascending_windowFrom start).sublist (unavailableOf_sublist c shortFuse _)

theorem mem_unavailable : d ∈ c.unavailable start ↔ InWindow start d ∧
    (c.isWorkday d = false ∨ (start.daysTo d).countP c.isWorkday < 5) := by
  unfold Calendar.unavailable
  rw [mem_unavailableOf (ascending_windowFrom start), mem_windowFrom, shortFuse]
  refine and_congr_right fun hd => ?_
  rw [← filter_windowFrom hd, List.countP_filter]
  simp only [Bool.and_comm]

end

/-- No move can be booked on the closed days of the window, nor on the days with fewer than
five workdays before them. A walk over the workdays from the same start tells the latter by
the index at which it takes them. -/
theorem unavailable_days_are_closed_or_too_close (c : Calendar) (start : Date) :
    (c.unavailable start).Pairwise (· < ·) ∧
      (∀ d, d ∈ c.unavailable start ↔ InWindow start d ∧
        (c.isWorkday d = false ∨ (start.daysTo d).countP c.isWorkday < 5)) ∧
      ∀ (n limit : Nat) (days : List Date), c.walk start .forward n false limit = .ok days →
        (∀ (i : Nat) (d : Date), days[i]? = some d → InWindow start d →
          (d ∈ c.unavailable start ↔ i < 5)) ∧
        ∀ last, days.getLast? = some last → ∀ d ∈ c.unavailable start, c.isWorkday d = true →
          d ≤ last → ∃ i < 5, days[i]? = some d := by
  refine ⟨ascending_unavailable c start, fun d => mem_unavailable, fun n limit days hwalk => ?_⟩
  obtain ⟨-, -, haccepted, hcomplete⟩ := Calendar.gapless_of_walk hwalk
  have hindex : ∀ (i : Nat) (d : Date), days[i]? = some d → c.isWorkday d = true →
      (d ∈ c.unavailable start ↔ InWindow start d ∧ i < 5) := by
    intro i d hi hopen
    rw [mem_unavailable, countP_daysTo_of_walk hwalk hi, hopen]
    simp
  constructor
  · intro i d hi hwindow
    rw [hindex i d hi (haccepted d (List.mem_of_getElem? hi)).1]
    exact and_iff_right hwindow
  · intro last hlast d hd hopen hle
    have hstart := (mem_unavailable.mp hd).1.start_le
    have hmem := hcomplete last (List.mem_of_getLast? hlast) d hopen
      (Int.sub_nonneg_of_le hstart) (Int.sub_nonneg_of_le hle)
    obtain ⟨i, hi, rfl⟩ := List.getElem_of_mem hmem
    have hat := List.getElem?_eq_getElem hi
    exact ⟨i, ((hindex i _ hat hopen).mp hd).2, hat⟩

/-- From Tuesday, 1 July 2025, with the holiday on Friday, the short notice ends with Tuesday,
8 July. A walk takes that day as its fifth. -/
theorem a_week_of_short_notice :
    let c := Sample.weekdays [july 4]
    let days := [july 1, july 2, july 3, july 7, july 8, july 9]
    c.walk (july 1) .forward 6 false defaultLimit = .ok days ∧
      july 8 ∈ c.unavailable (july 1) ∧ july 9 ∉ c.unavailable (july 1) ∧
      ∃ i < 5, days[i]? = some (july 7) := by
  intro c days
  have hwalk : c.walk (july 1) .forward 6 false defaultLimit = .ok days := by decide +kernel
  obtain ⟨hindex, hearly⟩ :=
    (unavailable_days_are_closed_or_too_close c (july 1)).2.2 6 defaultLimit days hwalk
  have hmonday := (hindex 3 (july 7) rfl ⟨by decide, by decide, by decide⟩).mpr (by decide)
  have htuesday := hindex 4 (july 8) rfl ⟨by decide, by decide, by decide⟩
  have hwednesday := hindex 5 (july 9) rfl ⟨by decide, by decide, by decide⟩
  refine ⟨hwalk, htuesday.mpr (by decide), ?_, ?_⟩
  · exact fun h => absurd (hwednesday.mp h) (by decide)
  · exact hearly (july 9) rfl (july 7) hmonday (by decide) (by decide)

end Relocation
