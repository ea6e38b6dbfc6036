-- The windows of a move are exactly what they are named for, over any
-- calendar. A schedule gives them if they exist, unless a search for a workday
-- meets as many closed days in a row as the limit.
import Relocation.Proofs.Walks
import Relocation.Schedule

namespace Relocation

/-! ## What the windows are -/

namespace Calendar

/-- The first workday with `p`. -/
structure FirstWorkday (c : Calendar) (p : Date → Prop) (d : Date) : Prop where
  workday : c.isWorkday d = true
  holds : p d
  first : ∀ e, c.isWorkday e = true → p e → d ≤ e

/-- The last workdays with `p`, in ascending order. -/
structure LastWorkdays (c : Calendar) (p : Date → Prop) (days : List Date) : Prop where
  ascending : days.Pairwise (· < ·)
  workday : ∀ d ∈ days, c.isWorkday d = true ∧ p d
  last : ∀ d ∈ days, ∀ e, c.isWorkday e = true → p e → d < e → e ∈ days

/-- The windows of a move around `anchor` with the given days of pickup and delivery. -/
structure Windows (c : Calendar) (anchor : Date) (packCount transitCount : Nat)
    (report : List Date) (pickupDay deliveryDay : Date) (w : MoveDates) : Prop where
  packed : w.pack.length = packCount
  pack : c.LastWorkdays (· < anchor) w.pack
  pickup : w.pickup = [pickupDay]
  pickedUp : c.FirstWorkday (anchor ≤ ·) pickupDay
  travelled : w.transit.length = transitCount
  transit : ∀ (i : Nat) (d : Date), w.transit[i]? = some d → d.number = pickupDay.number + 1 + i
  delivery : w.delivery = [deliveryDay]
  delivered : c.FirstWorkday (w.transit.getLast?.getD pickupDay < ·) deliveryDay
  report : w.report = report

/-- Of any `m` days in a row from `lo` to `hi`, one is a workday. -/
def OpensWithin (c : Calendar) (m : Nat) (lo hi : Int) : Prop :=
  ∀ n, lo ≤ n → n + m ≤ hi + 1 →
    ∃ d : Date, c.isWorkday d = true ∧ n ≤ d.number ∧ d.number < n + m

/-- The three searches for workdays, from where they start to the last day
that they find, never meet `limit` closed days in a row. -/
structure Searchable (c : Calendar) (limit : Nat) (anchor pickupDay deliveryDay : Date)
    (w : MoveDates) : Prop where
  pack : c.OpensWithin limit (w.pack.head?.getD anchor).number (anchor.number - 1)
  pickup : c.OpensWithin limit anchor.number pickupDay.number
  delivery :
    c.OpensWithin limit ((w.transit.getLast?.getD pickupDay).number + 1) deliveryDay.number

end Calendar

/-- The limit of a schedule allows the counts, and the anchor has a day before it. -/
structure Scheduler.Admits (s : Scheduler) (anchor : Date) (packCount transitCount : Nat) :
    Prop where
  one : 1 ≤ s.limit
  pack : packCount ≤ s.limit
  transit : transitCount ≤ s.limit
  predecessor : anchor.pred?.isSome = true

/-! ## Windows step by step -/

/-- What the walks of a schedule find. -/
structure Scheduler.Finds (s : Scheduler) (anchor : Date) (packCount transitCount : Nat)
    (report : List Date) (pickupDay deliveryDay : Date) (w : MoveDates) : Prop where
  admits : s.Admits anchor packCount transitCount
  packed : w.pack.length = packCount
  pack : Steps s.calendar.isWorkday .backward s.limit anchor.number w.pack.reverse
  pickup : w.pickup = [pickupDay]
  pickedUp : Next s.calendar.isWorkday .forward s.limit (anchor.number - 1) pickupDay
  travelled : w.transit.length = transitCount
  transit : ∀ (i : Nat) (d : Date), w.transit[i]? = some d → d.number = pickupDay.number + 1 + i
  delivery : w.delivery = [deliveryDay]
  delivered : Next s.calendar.isWorkday .forward s.limit (pickupDay.number + transitCount)
    deliveryDay
  report : w.report = report

/-- Where every day is taken, each is the day after the one before it. -/
theorem steps_every_day {accepts : Date → Bool} {limit : Nat} {m : Int} {days : List Date}
    (hall : ∀ d, accepts d = true) (hlimit : 1 ≤ limit) (hm : Date.first.number ≤ m + 1) :
    Steps accepts .forward limit m days ↔
      ∀ (i : Nat) (d : Date), days[i]? = some d → d.number = m + 1 + i := by
  have hnext : ∀ {m : Int} {d : Date}, Date.first.number ≤ m + 1 →
      (Next accepts .forward limit m d ↔ d.number = m + 1) := by
    intro m d hm
    constructor
    · intro h
      have hbeyond := h.beyond
      simp only [Direction.distance] at hbeyond
      obtain ⟨e, he⟩ := Date.exists_between hm (by omega : m + 1 ≤ d.number)
      have hfirst := h.first e (hall e)
      simp only [Direction.distance] at hfirst
      omega
    · intro h
      refine ⟨hall d, ?_, ?_, fun e _ he => ?_⟩ <;> simp only [Direction.distance] at * <;> omega
  induction days generalizing m with
  | nil => simp [Steps]
  | cons d days ih =>
    rw [Steps, hnext hm]
    constructor
    · rintro ⟨hd, hdays⟩ i e he
      have hrest := (ih (by omega)).mp hdays
      cases i with
      | zero =>
        obtain rfl : d = e := by simpa using he
        omega
      | succ i =>
        have := hrest i e (by simpa using he)
        omega
    · intro h
      have hd := h 0 d rfl
      refine ⟨by omega, (ih (by omega)).mpr fun i e he => ?_⟩
      have := h (i + 1) e (by simpa using he)
      omega

/-- The last of the days after `m` is day number `m + days.length`. -/
theorem number_getLast {days : List Date} {d : Date}
    (h : ∀ (i : Nat) (e : Date), days[i]? = some e → e.number = d.number + 1 + i) :
    (days.getLast?.getD d).number = d.number + days.length := by
  rcases hlast : days.getLast? with _ | e
  · obtain rfl := List.getLast?_eq_none_iff.mp hlast
    simp
  · rw [List.getLast?_eq_getElem?] at hlast
    have hlt := (List.getElem?_eq_some_iff.mp hlast).1
    have := h _ e hlast
    rw [Option.getD_some]
    omega

namespace Scheduler

variable {s : Scheduler} {anchor pickupDay deliveryDay : Date} {packCount transitCount : Nat}
  {report : List Date} {w : MoveDates}

theorem step_eq_ok {dir : Direction} {d e : Date} :
    step dir d = .ok e ↔ dir.distance d.number e.number = 1 := by
  rw [← Direction.next?_eq_some_iff]
  unfold step
  split <;> simp_all

theorem forward_one_eq_ok {start : Date} {days : List Date} :
    s.forward start 1 false = .ok days ↔ 1 ≤ s.limit ∧
      ∃ d, days = [d] ∧ Next s.calendar.isWorkday .forward s.limit (start.number - 1) d := by
  refine Calendar.walk_eq_ok.trans ⟨?_, ?_⟩
  · rintro ⟨hlength, hlimit, hsteps⟩
    obtain ⟨d, rfl⟩ := List.length_eq_one_iff.mp hlength
    exact ⟨hlimit, d, rfl, hsteps.1⟩
  · rintro ⟨hlimit, d, rfl, hd⟩
    exact ⟨rfl, hlimit, hd, trivial⟩

theorem forward_every_day_eq_ok {start : Date} {count : Nat} {days : List Date}
    (hlimit : 1 ≤ s.limit) : s.forward start count true = .ok days ↔ days.length = count ∧
      count ≤ s.limit ∧ ∀ (i : Nat) (d : Date), days[i]? = some d → d.number = start.number + i := by
  refine Calendar.walk_eq_ok.trans ?_
  have hstart : Date.first.number ≤ start.number - 1 + 1 := by
    have := start.first_le
    simp only [Date.first]
    omega
  have hsteps : Steps (s.calendar.accepts true) .forward s.limit (start.number - 1) days ↔ _ :=
    steps_every_day (fun _ => rfl) hlimit hstart
  simp only [Int.sub_add_cancel] at hsteps
  exact and_congr_right fun _ => and_congr_right fun _ => hsteps

theorem backward_eq_ok {start : Date} {count : Nat} {days : List Date} :
    s.backward start count false = .ok days ↔ days.length = count ∧ count ≤ s.limit ∧
      Steps s.calendar.isWorkday .backward s.limit (start.number + 1) days.reverse :=
  Calendar.walk_eq_ok

/-- The day on which the search for a delivery day starts. -/
def arrival (departure : Date) (transit : List Date) : Except Failure Date :=
  match transit.getLast? with
  | some d => step .forward d
  | none => .ok departure

theorem arrival_eq_ok {departure day : Date} {transit : List Date}
    (h : ∀ (i : Nat) (d : Date), transit[i]? = some d → d.number = departure.number + i) :
    arrival departure transit = .ok day ↔ day.number = departure.number + transit.length := by
  unfold arrival
  rcases hlast : transit.getLast? with _ | e
  · obtain rfl := List.getLast?_eq_none_iff.mp hlast
    simp only [Except.ok.injEq, List.length_nil]
    constructor
    · rintro rfl
      simp
    · exact fun hday => Date.eq_of_number (by omega)
  · rw [List.getLast?_eq_getElem?] at hlast
    have hlt := (List.getElem?_eq_some_iff.mp hlast).1
    have he := h _ e hlast
    simp only [step_eq_ok, Direction.distance]
    omega

theorem windows_eq : s.windows anchor packCount transitCount report = (do
    let beforePickup ← step .backward anchor
    let pack ← s.backward beforePickup packCount false
    let pickup ← s.forward anchor 1 false
    let departure ← step .forward (pickup.getLast?.getD anchor)
    let transit ← s.forward departure transitCount true
    let day ← arrival departure transit
    let delivery ← s.forward day 1 false
    .ok { pack, pickup, transit, delivery, report }) := by
  unfold windows arrival
  refine bind_congr fun _ => bind_congr fun _ => bind_congr fun _ => bind_congr fun _ =>
    bind_congr fun transit => ?_
  cases transit.getLast? <;> rfl

/-- Exactly what the walks find is given. -/
theorem windows_eq_ok : s.windows anchor packCount transitCount report = .ok w ↔
    ∃ pickupDay deliveryDay,
      s.Finds anchor packCount transitCount report pickupDay deliveryDay w := by
  simp only [windows_eq, bind_eq_ok, step_eq_ok, Except.ok.injEq, forward_one_eq_ok,
    backward_eq_ok]
  constructor
  · rintro ⟨before, hbefore, pack, ⟨hpacked, hpackLimit, hpack⟩, pickup,
      ⟨hlimit, pickupDay, rfl, hpickedUp⟩, departure, hdeparture, transit, htransit, day, hday,
      delivery, ⟨-, deliveryDay, rfl, hdelivered⟩, rfl⟩
    obtain ⟨htravelled, htransitLimit, hdays⟩ := (forward_every_day_eq_ok hlimit).mp htransit
    have harrival := (arrival_eq_ok hdays).mp hday
    have hpred := Direction.next?_eq_some_iff.mpr hbefore
    simp only [Direction.distance, List.getLast?_singleton, Option.getD_some] at hbefore hdeparture
    refine ⟨pickupDay, deliveryDay, ?_⟩
    exact {
      admits := ⟨hlimit, hpackLimit, htransitLimit, Option.isSome_of_eq_some hpred⟩
      packed := hpacked
      pack := by rwa [show before.number + 1 = anchor.number by omega] at hpack
      pickup := rfl
      pickedUp := hpickedUp
      travelled := htravelled
      transit := fun i d hd => by
        have := hdays i d hd
        omega
      delivery := rfl
      delivered := by
        rwa [show day.number - 1 = pickupDay.number + transitCount by omega] at hdelivered
      report := rfl }
  · rintro ⟨pickupDay, deliveryDay, h⟩
    obtain ⟨before, hpred⟩ := Option.isSome_iff_exists.mp h.admits.predecessor
    have hbefore : Direction.backward.distance anchor.number before.number = 1 :=
      Direction.next?_eq_some_iff.mp hpred
    have hbeyond := h.delivered.beyond
    simp only [Direction.distance] at hbefore hbeyond
    obtain ⟨departure, hdeparture⟩ := Date.exists_between
      (by omega : pickupDay.number ≤ pickupDay.number + 1) (by omega : _ ≤ deliveryDay.number)
    obtain ⟨day, hday⟩ := Date.exists_between
      (by omega : pickupDay.number ≤ pickupDay.number + transitCount + 1)
      (by omega : _ ≤ deliveryDay.number)
    have hdays : ∀ (i : Nat) (d : Date), w.transit[i]? = some d →
        d.number = departure.number + i := by
      intro i d hd
      have := h.transit i d hd
      omega
    have htravelled := h.travelled
    refine ⟨before, by simp only [Direction.distance]; omega, w.pack,
      ⟨h.packed, h.admits.pack, ?_⟩, w.pickup, ⟨h.admits.one, pickupDay, h.pickup, h.pickedUp⟩,
      departure, ?_, w.transit,
      (forward_every_day_eq_ok h.admits.one).mpr
        ⟨h.travelled, h.admits.transit, hdays⟩,
      day, (arrival_eq_ok hdays).mpr (by omega), w.delivery,
      ⟨h.admits.one, deliveryDay, h.delivery, ?_⟩, ?_⟩
    · rw [show before.number + 1 = anchor.number by omega]
      exact h.pack
    · simp only [h.pickup, Direction.distance, List.getLast?_singleton, Option.getD_some]
      omega
    · rw [show day.number - 1 = pickupDay.number + transitCount by omega]
      exact h.delivered
    · rw [← h.report]

end Scheduler

/-! ## Windows without steps -/

section

variable {c : Calendar} {limit : Nat} {m : Int} {anchor d : Date} {days : List Date}

theorem leading_one_iff :
    Leading c.isWorkday .forward m [d] ↔ c.FirstWorkday (fun e => m < e.number) d := by
  constructor
  · intro h
    obtain ⟨hd, hbeyond⟩ := h.accepted d (List.mem_singleton_self d)
    simp only [Direction.distance] at hbeyond
    refine ⟨hd, by omega, fun e he hme => ?_⟩
    refine Int.not_lt.mp fun hlt => ?_
    have hmem := h.complete d (List.mem_singleton_self d) e he
      (by simp only [Direction.distance]; omega) (by simp only [Direction.distance]; omega)
    rw [List.mem_singleton.mp hmem] at hlt
    omega
  · intro h
    have hfirst : ∀ e, c.isWorkday e = true → m < e.number → d.number ≤ e.number := h.first
    have hholds := h.holds
    refine ⟨List.pairwise_singleton _ _, ?_, ?_⟩
    · intro e he
      rw [List.mem_singleton.mp he]
      exact ⟨h.workday, by simp only [Direction.distance]; omega⟩
    · intro x hx e he hme hex
      rw [List.mem_singleton.mp hx] at hex
      simp only [Direction.distance] at hme hex
      have := hfirst e he (by omega)
      omega

theorem leading_reverse_iff : Leading c.isWorkday .backward anchor.number days.reverse ↔
    c.LastWorkdays (· < anchor) days := by
  have hlt : ∀ a b : Date, a < b ↔ 0 < Direction.backward.distance b.number a.number := by
    intro a b
    exact Int.sub_pos.symm
  constructor
  · rintro ⟨hordered, haccepted, hcomplete⟩
    simp only [List.mem_reverse, ← hlt] at haccepted hcomplete
    refine ⟨?_, haccepted, ?_⟩
    · rw [List.pairwise_reverse] at hordered
      exact hordered.imp (hlt _ _).mpr
    · exact hcomplete
  · rintro ⟨hascending, hworkday, hlast⟩
    refine ⟨?_, ?_, ?_⟩
    · rw [List.pairwise_reverse]
      exact hascending.imp (hlt _ _).mp
    · simp only [List.mem_reverse, ← hlt]
      exact hworkday
    · simp only [List.mem_reverse, ← hlt]
      exact hlast

theorem unbroken_one_iff :
    Unbroken c.isWorkday .forward limit m [d] ↔ c.OpensWithin limit (m + 1) d.number := by
  simp only [Unbroken, List.forall_mem_singleton, Direction.distance, Calendar.OpensWithin]
  constructor
  · intro h n hlo hhi
    obtain ⟨e, he, hafter, hwithin⟩ := h (n - 1) (by omega) (by omega)
    exact ⟨e, he, by omega, by omega⟩
  · intro h n hlo hhi
    obtain ⟨e, he, hfrom, hwithin⟩ := h (n + 1) (by omega) (by omega)
    exact ⟨e, he, by omega, by omega⟩

theorem unbroken_reverse_iff (hlimit : 0 < limit) (hascending : days.Pairwise (· < ·)) :
    Unbroken c.isWorkday .backward limit anchor.number days.reverse ↔
      c.OpensWithin limit (days.head?.getD anchor).number (anchor.number - 1) := by
  simp only [Unbroken, List.mem_reverse, Direction.distance, Calendar.OpensWithin]
  constructor
  · intro h n hlo hhi
    -- Without days the range is empty, and no `limit` days in a row lie in it.
    rcases days with _ | ⟨d, days⟩
    · simp only [List.head?_nil, Option.getD_none] at hlo
      omega
    · obtain ⟨e, he, hbefore, hwithin⟩ :=
        h d List.mem_cons_self (n + limit) (by omega) (by simp at hlo; omega)
      exact ⟨e, he, by omega, by omega⟩
  · intro h d hd n hlo hhi
    have hhead : (days.head?.getD anchor).number ≤ d.number := by
      rcases days with _ | ⟨head, days⟩
      · cases hd
      · rcases List.mem_cons.mp hd with rfl | hd
        · exact Int.le_refl _
        · exact Int.le_of_lt ((List.pairwise_cons.mp hascending).1 d hd)
    obtain ⟨e, he, hfrom, hwithin⟩ := h (n - limit) (by omega) (by omega)
    exact ⟨e, he, by omega, by omega⟩

/-- The next workday is the first one, found by a search that never met too many closed days. -/
theorem next_workday_iff (hlimit : 0 < limit) : Next c.isWorkday .forward limit m d ↔
    c.FirstWorkday (fun e => m < e.number) d ∧ c.OpensWithin limit (m + 1) d.number := by
  have hsteps : Next c.isWorkday .forward limit m d ↔ Steps c.isWorkday .forward limit m [d] :=
    (and_iff_left trivial).symm
  rw [hsteps, steps_iff hlimit, leading_one_iff, unbroken_one_iff]

/-- Steps back from the anchor lead to the last workdays before it. -/
theorem workdays_back_iff (hlimit : 0 < limit) :
    Steps c.isWorkday .backward limit anchor.number days.reverse ↔
      c.LastWorkdays (· < anchor) days ∧
        c.OpensWithin limit (days.head?.getD anchor).number (anchor.number - 1) := by
  rw [steps_iff hlimit, leading_reverse_iff]
  exact and_congr_right fun h => unbroken_reverse_iff hlimit h.ascending

end

namespace Scheduler

variable {s : Scheduler} {anchor pickupDay deliveryDay : Date} {packCount transitCount : Nat}
  {report : List Date} {w : MoveDates}

/-- The walks find the windows if every search for a workday comes to its end. -/
theorem finds_iff : s.Finds anchor packCount transitCount report pickupDay deliveryDay w ↔
    s.Admits anchor packCount transitCount ∧
      s.calendar.Windows anchor packCount transitCount report pickupDay deliveryDay w ∧
      s.calendar.Searchable s.limit anchor pickupDay deliveryDay w := by
  have hpickup : (fun e : Date => anchor.number - 1 < e.number) = (anchor ≤ ·) :=
    funext fun _ => propext Int.sub_one_lt_iff
  have hdelivery : w.transit.length = transitCount →
      (∀ (i : Nat) (d : Date), w.transit[i]? = some d → d.number = pickupDay.number + 1 + i) →
      pickupDay.number + transitCount = (w.transit.getLast?.getD pickupDay).number := by
    rintro rfl hdays
    exact (number_getLast hdays).symm
  constructor
  · intro h
    obtain ⟨hpack, hpackOpen⟩ := (workdays_back_iff h.admits.one).mp h.pack
    obtain ⟨hpickedUp, hpickupOpen⟩ := (next_workday_iff h.admits.one).mp h.pickedUp
    obtain ⟨hdelivered, hdeliveryOpen⟩ := (next_workday_iff h.admits.one).mp h.delivered
    rw [hpickup] at hpickedUp
    rw [Int.sub_add_cancel] at hpickupOpen
    rw [hdelivery h.travelled h.transit] at hdelivered hdeliveryOpen
    exact ⟨h.admits, ⟨h.packed, hpack, h.pickup, hpickedUp, h.travelled, h.transit, h.delivery,
      hdelivered, h.report⟩, ⟨hpackOpen, hpickupOpen, hdeliveryOpen⟩⟩
  · rintro ⟨hadmits, h, hopen⟩
    refine ⟨hadmits, h.packed, ?_, h.pickup, ?_, h.travelled, h.transit, h.delivery, ?_, h.report⟩
    · exact (workdays_back_iff hadmits.one).mpr ⟨h.pack, hopen.pack⟩
    · refine (next_workday_iff hadmits.one).mpr ⟨?_, ?_⟩
      · rw [hpickup]
        exact h.pickedUp
      · rw [Int.sub_add_cancel]
        exact hopen.pickup
    · refine (next_workday_iff hadmits.one).mpr ?_
      rw [hdelivery h.travelled h.transit]
      exact ⟨h.delivered, hopen.delivery⟩

end Scheduler

/-- The days of the windows follow on one another. -/
theorem Calendar.Windows.ascending {c : Calendar} {anchor pickupDay deliveryDay : Date}
    {packCount transitCount : Nat} {report : List Date} {w : MoveDates}
    (h : c.Windows anchor packCount transitCount report pickupDay deliveryDay w) :
    (w.pack ++ w.pickup ++ w.transit ++ w.delivery).Pairwise (· < ·) := by
  have hpickup : anchor ≤ pickupDay := h.pickedUp.holds
  have hdelivery : (w.transit.getLast?.getD pickupDay).number < deliveryDay.number :=
    h.delivered.holds
  rw [number_getLast h.transit] at hdelivery
  have hpack : ∀ d ∈ w.pack, d.number < pickupDay.number := fun d hd =>
    Int.lt_of_lt_of_le (h.pack.workday d hd).2 hpickup
  have htransit : ∀ d ∈ w.transit, pickupDay.number < d.number ∧ d.number < deliveryDay.number := by
    intro d hd
    obtain ⟨i, hi, hat⟩ := List.getElem_of_mem hd
    have hnumber := h.transit i d (by rw [List.getElem?_eq_getElem hi, hat])
    omega
  have hconsecutive : w.transit.Pairwise (· < ·) := by
    refine List.pairwise_iff_getElem.mpr fun i j hi hj hij => ?_
    have hfirst := h.transit i _ (List.getElem?_eq_getElem hi)
    have hsecond := h.transit j _ (List.getElem?_eq_getElem hj)
    exact show w.transit[i].number < w.transit[j].number by omega
  have hdays : pickupDay.number < deliveryDay.number := by omega
  rw [h.pickup, h.delivery]
  simp only [List.pairwise_append, List.pairwise_singleton, List.mem_append, List.mem_singleton]
  refine ⟨⟨⟨h.pack.ascending, trivial, ?_⟩, hconsecutive, ?_⟩, trivial, ?_⟩
  · rintro d hd _ rfl
    exact hpack d hd
  · rintro d (hd | rfl) e he
    · exact Int.lt_trans (hpack d hd) (htransit e he).1
    · exact (htransit e he).1
  · rintro d ((hd | rfl) | hd) _ rfl
    · exact Int.lt_trans (hpack d hd) hdays
    · exact hdays
    · exact (htransit d hd).2

namespace Scheduler

theorem forWeight_of_transitDays {s : Scheduler} {weight : Pounds} {distance : Miles}
    {anchor reportBy : Date} {transitCount : Nat}
    (h : s.entitlements.transitDays weight distance = .ok transitCount) :
    s.forWeight weight distance anchor reportBy =
      s.windows anchor (s.entitlements.packDays weight) transitCount [reportBy] := by
  unfold forWeight
  rw [h]
  rfl

theorem forWeight_eq_ok {s : Scheduler} {weight : Pounds} {distance : Miles}
    {anchor reportBy : Date} {w : MoveDates} :
    s.forWeight weight distance anchor reportBy = .ok w ↔
      ∃ transitCount, s.entitlements.transitDays weight distance = .ok transitCount ∧
        ∃ pickupDay deliveryDay, s.Finds anchor (s.entitlements.packDays weight) transitCount
          [reportBy] pickupDay deliveryDay w := by
  unfold forWeight
  simp only [bind_eq_ok, windows_eq_ok]

/-- A move has windows exactly if the days exist, the limit allows their counts,
and no search for a workday meets as many closed days in a row as the limit. -/
theorem moves_have_exact_windows (s : Scheduler) (weight : Pounds) (distance : Miles)
    (anchor reportBy : Date) (transitCount : Nat)
    (htransit : s.entitlements.transitDays weight distance = .ok transitCount) (w : MoveDates) :
    (s.forWeight weight distance anchor reportBy = .ok w ↔ ∃ pickupDay deliveryDay,
      s.Admits anchor (s.entitlements.packDays weight) transitCount ∧
        s.calendar.Windows anchor (s.entitlements.packDays weight) transitCount [reportBy]
          pickupDay deliveryDay w ∧
        s.calendar.Searchable s.limit anchor pickupDay deliveryDay w) ∧
      (s.forWeight weight distance anchor reportBy = .ok w →
        (w.pack ++ w.pickup ++ w.transit ++ w.delivery).Pairwise (· < ·)) := by
  rw [forWeight_of_transitDays htransit]
  have hiff : s.windows anchor (s.entitlements.packDays weight) transitCount [reportBy] = .ok w ↔
      _ := windows_eq_ok
  simp only [finds_iff] at hiff
  refine ⟨hiff, fun hw => ?_⟩
  obtain ⟨_, _, _, hwindows, _⟩ := hiff.mp hw
  exact hwindows.ascending

/-- A move on 4 July 2025, a Friday and a holiday, is packed on the two days
before and picked up on the Monday after. -/
theorem windows_around_a_holiday :
    let closed : Date := ⟨739436, by decide, by decide⟩
    let s : Scheduler :=
      ⟨.weekly [.monday, .tuesday, .wednesday, .thursday, .friday] [closed], .standard, 366⟩
    let w := s.forWeight ⟨5000⟩ ⟨500⟩ closed closed
    s.entitlements.transitDays ⟨5000⟩ ⟨500⟩ = .ok 9 ∧
      ∃ dates pickupDay deliveryDay, w = .ok dates ∧
        s.calendar.Windows closed 2 9 [closed] pickupDay deliveryDay dates ∧
        (dates.pack ++ dates.pickup ++ dates.transit ++ dates.delivery).map (·.number) =
          [739434, 739435, 739439, 739440, 739441, 739442, 739443, 739444, 739445, 739446,
            739447, 739448, 739449] := by
  intro closed s w
  have htransit : s.entitlements.transitDays ⟨5000⟩ ⟨500⟩ = .ok 9 := rfl
  have hdays : w.toOption.map (fun dates =>
      (dates.pack ++ dates.pickup ++ dates.transit ++ dates.delivery).map (·.number)) =
      some [739434, 739435, 739439, 739440, 739441, 739442, 739443, 739444, 739445, 739446,
        739447, 739448, 739449] := by
    decide +kernel
  obtain ⟨dates, hdates, hdays⟩ := Option.map_eq_some_iff.mp hdays
  have hw : w = .ok dates := by
    cases hresult : w with
    | error f =>
      rw [hresult] at hdates
      cases hdates
    | ok found =>
      rw [hresult] at hdates
      cases hdates
      rfl
  obtain ⟨pickupDay, deliveryDay, _, hwindows, _⟩ :=
    (moves_have_exact_windows s ⟨5000⟩ ⟨500⟩ closed closed 9 htransit dates).1.mp hw
  exact ⟨htransit, dates, pickupDay, deliveryDay, hw, hwindows, hdays⟩

end Scheduler

end Relocation
