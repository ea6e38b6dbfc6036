-- The standard schedule never refuses a move. The federal offices are open on
-- one of any four days in a row and the tables ask for few days, so a move has
-- its windows if the range of dates goes on long enough on both sides.
import Relocation.Proofs.Holidays

namespace Relocation

/-! ## Where days are found -/

section

variable {c : Calendar} {gap limit : Nat} {m : Int}

/-- There are days one after the other as far as the range of dates goes. -/
theorem exists_days {d : Date} {count : Nat} (h : d.number + count ≤ Date.last.number) :
    ∃ days : List Date, days.length = count ∧
      ∀ (i : Nat) (e : Date), days[i]? = some e → e.number = d.number + 1 + i := by
  have hfirst : Date.first.number ≤ d.number := d.first_le
  have hsteps : ∃ days : List Date, days.length = count ∧
      Steps (fun _ => true) .forward 1 d.number days := by
    refine exists_steps (Nat.le_refl 1) (fun n hn hroom => ?_) count
      (Nat.le_of_eq (Nat.one_mul count))
    simp only [Direction.distance] at *
    obtain ⟨e, he⟩ := Date.exists_between (by omega : d.number ≤ n + 1)
      (by omega : n + 1 ≤ Date.last.number)
    exact ⟨e, trivial, by omega, by omega⟩
  obtain ⟨days, hlength, hdays⟩ := hsteps
  exact ⟨days, hlength, (steps_every_day (fun _ => rfl) (Nat.le_refl 1) (by omega)).mp hdays⟩

/-- A calendar that opens has a next workday. -/
theorem exists_next_workday (hopen : c.OpensWithin gap Date.first.number Date.last.number)
    (hgap : gap ≤ limit) (hfirst : Date.first.number ≤ m + 1)
    (hlast : m + gap ≤ Date.last.number) :
    ∃ d, Next c.isWorkday .forward limit m d ∧ d.number ≤ m + gap := by
  obtain ⟨d, hd, hafter, hwithin⟩ := hopen (m + 1) hfirst (by omega)
  have hnext : ∃ e, Next c.isWorkday .forward limit m e := by
    refine exists_next ⟨d, hd, ?_, ?_⟩ <;> simp only [Direction.distance] <;> omega
  obtain ⟨e, he⟩ := hnext
  have hle := he.first d hd (by simp only [Direction.distance]; omega)
  simp only [Direction.distance] at hle
  exact ⟨e, he, by omega⟩

/-- A calendar that opens has workdays before a day. -/
theorem exists_workdays_before (hopen : c.OpensWithin gap Date.first.number Date.last.number)
    (hgap : gap ≤ limit) {anchor : Date} {count : Nat}
    (hfirst : Date.first.number + gap * count ≤ anchor.number) :
    ∃ days, days.length = count ∧ Steps c.isWorkday .backward limit anchor.number days := by
  have hlast : anchor.number ≤ Date.last.number := anchor.le_last
  refine exists_steps hgap (fun n hn hroom => ?_) count (Nat.le_refl (gap * count))
  simp only [Direction.distance] at *
  obtain ⟨d, hd, hafter, hwithin⟩ := hopen (n - gap) (by omega) (by omega)
  exact ⟨d, hd, by omega, by omega⟩

end

namespace Scheduler

/-- Where a calendar opens within `gap` days, a move has its windows. -/
theorem exists_windows {s : Scheduler} {gap packCount transitCount : Nat} {anchor : Date}
    (hopen : s.calendar.OpensWithin gap Date.first.number Date.last.number)
    (hgap : 1 ≤ gap ∧ gap ≤ s.limit) (hpack : packCount ≤ s.limit)
    (htransit : transitCount ≤ s.limit)
    (hbefore : Date.first.number + gap * packCount < anchor.number)
    (hafter : anchor.number + transitCount + 2 * gap ≤ Date.last.number) (report : List Date) :
    ∃ w, s.windows anchor packCount transitCount report = .ok w := by
  obtain ⟨packed, hpacked, hpackSteps⟩ :=
    exists_workdays_before hopen hgap.2 (Int.le_of_lt hbefore)
  have hfirst : Date.first.number ≤ anchor.number := anchor.first_le
  obtain ⟨pickupDay, hpickup, hpickupNear⟩ :=
    exists_next_workday (m := anchor.number - 1) hopen hgap.2 (by omega) (by omega)
  have hpickupFirst : Date.first.number ≤ pickupDay.number := pickupDay.first_le
  obtain ⟨transit, htravelled, hdays⟩ :=
    exists_days (by omega : pickupDay.number + transitCount ≤ Date.last.number)
  obtain ⟨deliveryDay, hdelivery, -⟩ :=
    exists_next_workday (m := pickupDay.number + transitCount) hopen hgap.2 (by omega) (by omega)
  have hroom : 0 ≤ (gap : Int) * packCount :=
    Int.mul_nonneg (Int.natCast_nonneg gap) (Int.natCast_nonneg packCount)
  obtain ⟨before, hpredecessor⟩ := Date.exists_between
    (by omega : Date.first.number ≤ anchor.number - 1) (by omega : _ ≤ anchor.number)
  exact ⟨⟨packed.reverse, [pickupDay], transit, [deliveryDay], report⟩, windows_eq_ok.mpr
    ⟨pickupDay, deliveryDay, {
      admits := ⟨Nat.le_trans hgap.1 hgap.2, hpack, htransit,
        Option.isSome_of_eq_some (Date.addDays?_eq_some_iff.mpr hpredecessor)⟩
      packed := by rw [List.length_reverse, hpacked]
      pack := by rwa [List.reverse_reverse]
      pickup := rfl
      pickedUp := hpickup
      travelled := htravelled
      transit := hdays
      delivery := rfl
      delivered := hdelivery
      report := rfl }⟩⟩

/-- The standard schedule over the federal calendar, without closures of the installation's own. -/
def federal (observesShifted : Bool) (limit : Nat) : Scheduler :=
  ⟨(FederalCalendar.mk observesShifted []).calendar, .standard, limit⟩

theorem exists_federal_windows {observesShifted : Bool} {limit : Nat} (hlimit : 38 ≤ limit)
    {moveDate : Date} (hfirst : Date.first.number + 60 ≤ moveDate.number)
    (hlast : moveDate.number + 60 ≤ Date.last.number) {packCount transitCount : Nat}
    (hpack : packCount ≤ 3) (htransit : transitCount ≤ 38) (report : List Date) :
    ∃ w, (federal observesShifted limit).windows moveDate packCount transitCount report = .ok w := by
  have hopen : (federal observesShifted limit).calendar.OpensWithin 4 Date.first.number
      Date.last.number := FederalCalendar.opensWithin_four rfl
  have hsame : (federal observesShifted limit).limit = limit := rfl
  exact exists_windows hopen (by omega) (by omega) (by omega) (by omega) (by omega) report

/-- Whatever the rank and the weight, a move that the transit table reaches has its windows. -/
theorem standard_moves_are_never_refused (observesShifted : Bool) (limit : Nat)
    (hlimit : 38 ≤ limit) (moveDate : Date)
    (hfirst : Date.first.number + 60 ≤ moveDate.number)
    (hlast : moveDate.number + 60 ≤ Date.last.number) (distance : Miles)
    (hdistance : 1 ≤ distance.value ∧ distance.value ≤ 3800) :
    (∀ orders : Orders,
      ∃ w, (federal observesShifted limit).forOrders orders distance moveDate = .ok w) ∧
      ∀ (weight : Pounds) (reportBy : Date), 0 ≤ weight.value →
        ∃ w, (federal observesShifted limit).forWeight weight distance moveDate reportBy = .ok w := by
  have hweights : ∀ (weight : Pounds) (reportBy : Date), 0 ≤ weight.value →
      ∃ w, (federal observesShifted limit).forWeight weight distance moveDate reportBy = .ok w := by
    intro weight reportBy hweight
    obtain ⟨days, hdays, htransit⟩ :=
      exists_transitDays hweight (Nat.ne_of_gt hdistance.1) hdistance.2
    rw [forWeight_of_transitDays (s := federal observesShifted limit) htransit]
    exact exists_federal_windows hlimit hfirst hlast (packDays_le weight) hdays [reportBy]
  exact ⟨fun orders => hweights _ _ (Rank.weight_nonneg _ _ _), hweights⟩

/-- The longest way, at the tightest limit: a family moves on 3 July 2025, and
something light goes along. -/
theorem longest_moves_are_scheduled :
    let moveDate : Date := ⟨739435, by decide, by decide⟩
    let s := federal true 38
    (∃ w, s.forOrders ⟨.e6, true, true, moveDate⟩ ⟨3800⟩ moveDate = .ok w) ∧
      ∃ w, s.forWeight ⟨0⟩ ⟨3800⟩ moveDate moveDate = .ok w := by
  intro moveDate s
  have h := standard_moves_are_never_refused true 38 (by decide) moveDate (by decide) (by decide)
    ⟨3800⟩ (by decide)
  exact ⟨h.1 _, h.2 _ _ (by decide)⟩

end Scheduler

end Relocation
