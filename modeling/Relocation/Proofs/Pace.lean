-- Two walks side by side. A walk that starts no further on, over a calendar with no
-- fewer workdays, is day by day no further on than the other. So closed days only
-- delay moves, and later or longer moves have later windows.
import Mathlib.Data.List.Forall2
import Relocation.Proofs.Windows

namespace Relocation

open Sample (july)

/-! ## Days seen in a direction -/

namespace Direction

/-- The day `d` lies no further on than `e`. -/
def NoFurther : Direction → (d e : Date) → Prop
  | .forward, d, e => d ≤ e
  | .backward, d, e => d ≥ e

theorem noFurther_iff {dir : Direction} {d e : Date} :
    dir.NoFurther d e ↔ 0 ≤ dir.distance d.number e.number := by
  cases dir <;> exact Int.sub_nonneg.symm

theorem forall₂_along (dir : Direction) {R : Date → Date → Prop} {xs ys : List Date} :
    List.Forall₂ R (dir.along xs) (dir.along ys) ↔ List.Forall₂ R xs ys := by
  cases dir
  · rfl
  · exact List.forall₂_reverse_iff

end Direction

/-! ## Steps side by side -/

section

variable {accepts accepts' : Date → Bool} {dir : Direction} {limit limit' : Nat} {m m' : Int}
  {d d' : Date} {days days' : List Date}

/-- From no further on, and with no fewer days accepted, the next day is no further on. -/
theorem Next.noFurther (hmore : ∀ d, accepts d = true → accepts' d = true)
    (hm : 0 ≤ dir.distance m' m) (h : Next accepts dir limit m d)
    (h' : Next accepts' dir limit' m' d') : dir.NoFurther d' d := by
  have hbeyond := h.beyond
  have hsum := dir.distance_add m' m d.number
  exact Direction.noFurther_iff.mpr (h'.first d (hmore d h.accepted) (by omega))

theorem Steps.noFurther (hmore : ∀ d, accepts d = true → accepts' d = true)
    (hlength : days'.length = days.length) (hm : 0 ≤ dir.distance m' m)
    (h : Steps accepts dir limit m days) (h' : Steps accepts' dir limit' m' days') :
    List.Forall₂ dir.NoFurther days' days := by
  induction days generalizing m m' days' with
  | nil =>
    obtain rfl := List.length_eq_zero_iff.mp hlength
    exact .nil
  | cons d days ih =>
    match days', hlength, h' with
    | d' :: days', hlength, ⟨hd', hdays'⟩ =>
      obtain ⟨hd, hdays⟩ := h
      have hle := hd.noFurther hmore hm hd'
      rw [List.length_cons, List.length_cons, Nat.add_right_cancel_iff] at hlength
      exact .cons hle (ih hlength (Direction.noFurther_iff.mp hle) hdays hdays')

/-! ## Days that can be crossed -/

/-- From each day from the day number `m` up to `n`, an accepted day lies at most `limit` days
beyond. -/
def Crossable (accepts : Date → Bool) (dir : Direction) (limit : Nat) (m n : Int) : Prop :=
  ∀ k, 0 ≤ dir.distance m k → 0 < dir.distance k n →
    ∃ e, accepts e = true ∧ 0 < dir.distance k e.number ∧ dir.distance k e.number ≤ limit

theorem crossable_self : Crossable accepts dir limit m m := by
  intro k hmk hkm
  have hswap := dir.distance_swap m k
  omega

theorem Crossable.further {k n : Int} (h : Crossable accepts dir limit m n)
    (hk : 0 ≤ dir.distance m k) : Crossable accepts dir limit k n := by
  intro l hkl
  have hsum := dir.distance_add m k l
  exact h l (by omega)

/-- The days up to the next one can be crossed, as it is near enough to all from `m` on. -/
theorem Crossable.upToNext (hmore : ∀ d, accepts d = true → accepts' d = true)
    (h : Crossable accepts' dir limit m' m) (hd : Next accepts dir limit m d) :
    Crossable accepts' dir limit m' d.number := by
  intro k hk hkd
  by_cases hkm : 0 < dir.distance k m
  · exact h k hk hkm
  · have hsum := dir.distance_add k m d.number
    have hnear := hd.near
    exact ⟨d, hmore d hd.accepted, hkd, by omega⟩

theorem Crossable.exists_next {n : Int} (h : Crossable accepts dir limit m n)
    (hn : 0 < dir.distance m n) : ∃ e, Next accepts dir limit m e :=
  Relocation.exists_next (h m (Int.le_of_eq (dir.distance_self m).symm) hn)

/-- Where steps can be taken from `m`, they can be taken as well from no further on and with no
fewer days accepted, if the days up to `m` can be crossed. -/
theorem Steps.exists_of_more (hmore : ∀ d, accepts d = true → accepts' d = true)
    (hm : 0 ≤ dir.distance m' m) (hcross : Crossable accepts' dir limit m' m)
    (h : Steps accepts dir limit m days) :
    ∃ days', days'.length = days.length ∧ Steps accepts' dir limit m' days' := by
  -- The two walks get out of step, so the limit of the one says nothing of the next step of
  -- the other. What the induction carries is that the days between the two can be crossed.
  induction days generalizing m m' with
  | nil => exact ⟨[], rfl, trivial⟩
  | cons d days ih =>
    obtain ⟨hd, hdays⟩ := h
    have hcrossNext := hcross.upToNext hmore hd
    have hbeyond := hd.beyond
    have hsum := dir.distance_add m' m d.number
    obtain ⟨d', hd'⟩ := hcrossNext.exists_next (by omega)
    have hle := Direction.noFurther_iff.mp (hd.noFurther hmore hm hd')
    obtain ⟨days', hlength, hdays'⟩ :=
      ih hle (hcrossNext.further (Int.le_of_lt hd'.beyond)) hdays
    exact ⟨d' :: days', by rw [List.length_cons, List.length_cons, hlength], hd', hdays'⟩

end

/-! ## Walks over two calendars -/

theorem Calendar.accepts_of_more {c₁ c₂ : Calendar}
    (hmore : ∀ d, c₁.isWorkday d = true → c₂.isWorkday d = true) (anyDay : Bool) (d : Date)
    (h : c₁.accepts anyDay d = true) : c₂.accepts anyDay d = true := by
  unfold Calendar.accepts at *
  cases anyDay
  · exact hmore d h
  · rfl

/-- Over a calendar with no fewer workdays a walk comes to its end as well, and no further on. -/
theorem Calendar.walk_of_more {c₁ c₂ : Calendar}
    (hmore : ∀ d, c₁.isWorkday d = true → c₂.isWorkday d = true) {start : Date} {dir : Direction}
    {count : Nat} {anyDay : Bool} {limit : Nat} {days₁ : List Date}
    (h : c₁.walk start dir count anyDay limit = .ok days₁) :
    ∃ days₂, c₂.walk start dir count anyDay limit = .ok days₂ ∧
      List.Forall₂ dir.NoFurther days₂ days₁ := by
  obtain ⟨hlength, hlimit, hsteps⟩ := walk_eq_ok.mp h
  have haccepts := accepts_of_more hmore anyDay
  have hsame : 0 ≤ dir.distance (dir.before start.number) (dir.before start.number) :=
    Int.le_of_eq (dir.distance_self _).symm
  obtain ⟨taken, htaken, hsteps'⟩ := hsteps.exists_of_more haccepts hsame crossable_self
  refine ⟨dir.along taken, walk_eq_ok.mpr ⟨?_, hlimit, by simpa using hsteps'⟩, ?_⟩
  · simpa [hlength] using htaken
  · rw [← dir.forall₂_along, Direction.along_along]
    exact hsteps.noFurther haccepts htaken hsame hsteps'

/-! ## Windows side by side -/

/-- From the pickup on, the windows of `w` are no later than those of `v`. -/
structure MoveDates.NoLater (w v : MoveDates) : Prop where
  pickup : ∃ d e, w.pickup = [d] ∧ v.pickup = [e] ∧ d ≤ e
  shorter : w.transit.length ≤ v.transit.length
  transit : ∀ (i : Nat) (d e : Date), w.transit[i]? = some d → v.transit[i]? = some e → d ≤ e
  delivery : ∃ d e, w.delivery = [d] ∧ v.delivery = [e] ∧ d ≤ e

namespace Scheduler

variable {s₁ s₂ : Scheduler} {anchor₁ anchor₂ pickupDay₁ pickupDay₂ : Date}
  {deliveryDay₁ deliveryDay₂ : Date} {packCount transitCount₁ transitCount₂ : Nat}
  {report₁ report₂ : List Date} {w₁ w₂ : MoveDates}

/-- With no fewer workdays, no later anchor and no more transit days, all from the pickup on
is no later. -/
theorem Finds.noLater
    (hmore : ∀ d, s₂.calendar.isWorkday d = true → s₁.calendar.isWorkday d = true)
    (hanchor : anchor₁ ≤ anchor₂) (hcount : transitCount₁ ≤ transitCount₂)
    (h₁ : s₁.Finds anchor₁ packCount transitCount₁ report₁ pickupDay₁ deliveryDay₁ w₁)
    (h₂ : s₂.Finds anchor₂ packCount transitCount₂ report₂ pickupDay₂ deliveryDay₂ w₂) :
    w₁.NoLater w₂ := by
  have hanchors : anchor₁.number ≤ anchor₂.number := hanchor
  have hpickup : pickupDay₁ ≤ pickupDay₂ := h₂.pickedUp.noFurther hmore
    (by simp only [Direction.distance]; omega) h₁.pickedUp
  have hpickups : pickupDay₁.number ≤ pickupDay₂.number := hpickup
  have hdelivery : deliveryDay₁ ≤ deliveryDay₂ := h₂.delivered.noFurther hmore
    (by simp only [Direction.distance]; omega) h₁.delivered
  refine ⟨⟨_, _, h₁.pickup, h₂.pickup, hpickup⟩, ?_, fun i d e hd he => ?_,
    ⟨_, _, h₁.delivery, h₂.delivery, hdelivery⟩⟩
  · rw [h₁.travelled, h₂.travelled]
    exact hcount
  · have hd := h₁.transit i d hd
    have he := h₂.transit i e he
    exact show d.number ≤ e.number by omega

/-- With no fewer workdays and no earlier anchor, all days of packing are no earlier. -/
theorem Finds.pack_noEarlier
    (hmore : ∀ d, s₂.calendar.isWorkday d = true → s₁.calendar.isWorkday d = true)
    (hanchor : anchor₂ ≤ anchor₁)
    (h₁ : s₁.Finds anchor₁ packCount transitCount₁ report₁ pickupDay₁ deliveryDay₁ w₁)
    (h₂ : s₂.Finds anchor₂ packCount transitCount₂ report₂ pickupDay₂ deliveryDay₂ w₂) :
    List.Forall₂ (· ≥ ·) w₁.pack w₂.pack := by
  have hlength : w₁.pack.reverse.length = w₂.pack.reverse.length := by
    rw [List.length_reverse, List.length_reverse, h₁.packed, h₂.packed]
  have hbehind : 0 ≤ Direction.backward.distance anchor₁.number anchor₂.number :=
    Int.sub_nonneg.mpr hanchor
  exact List.forall₂_reverse_iff.mp (h₂.pack.noFurther hmore hlength hbehind h₁.pack)

end Scheduler

/-- Over a calendar with more workdays, whatever walk came to its end still does, and each of
its days is no further on. A move that has windows over both is then packed no earlier, and
picked up, on the road and delivered no later. -/
theorem closed_days_only_delay (c₁ c₂ : Calendar)
    (hmore : ∀ d, c₁.isWorkday d = true → c₂.isWorkday d = true) :
    (∀ (start : Date) (count : Nat) (anyDay : Bool) (limit : Nat) (days₁ : List Date),
      (c₁.walk start .forward count anyDay limit = .ok days₁ →
        ∃ days₂, c₂.walk start .forward count anyDay limit = .ok days₂ ∧
          List.Forall₂ (· ≤ ·) days₂ days₁) ∧
      (c₁.walk start .backward count anyDay limit = .ok days₁ →
        ∃ days₂, c₂.walk start .backward count anyDay limit = .ok days₂ ∧
          List.Forall₂ (· ≥ ·) days₂ days₁)) ∧
    ∀ (entitlements : Entitlements) (limit : Nat) (weight : Pounds) (distance : Miles)
      (moveDate reportBy₁ reportBy₂ : Date) (w₁ w₂ : MoveDates),
      (Scheduler.mk c₁ entitlements limit).forWeight weight distance moveDate reportBy₁ = .ok w₁ →
      (Scheduler.mk c₂ entitlements limit).forWeight weight distance moveDate reportBy₂ = .ok w₂ →
      List.Forall₂ (· ≥ ·) w₂.pack w₁.pack ∧ w₂.NoLater w₁ ∧
        w₂.transit.length = w₁.transit.length := by
  refine ⟨fun start count anyDay limit days₁ =>
    ⟨Calendar.walk_of_more hmore, Calendar.walk_of_more hmore⟩, ?_⟩
  intro entitlements limit weight distance moveDate reportBy₁ reportBy₂ w₁ w₂ h₁ h₂
  obtain ⟨count₁, hcount₁, _, _, hfinds₁⟩ := Scheduler.forWeight_eq_ok.mp h₁
  obtain ⟨count₂, hcount₂, _, _, hfinds₂⟩ := Scheduler.forWeight_eq_ok.mp h₂
  obtain rfl : count₁ = count₂ := Except.ok.inj (hcount₁.symm.trans hcount₂)
  have hsame : moveDate ≤ moveDate := Int.le_refl _
  refine ⟨hfinds₂.pack_noEarlier hmore hsame hfinds₁,
    hfinds₂.noLater hmore hsame (Nat.le_refl _) hfinds₁, ?_⟩
  rw [hfinds₁.travelled, hfinds₂.travelled]

/-- With Thursday 3 and Friday 4 July 2025 closed, a walk on from Thursday, a walk back from
Monday and a move on Friday, against the same with both days open. -/
theorem a_closed_weekend_delays :
    let c₁ := Sample.weekdays [july 3, july 4]
    let c₂ := Sample.weekdays []
    let transit₁ := [july 8, july 9, july 10, july 11, july 12, july 13]
    let transit₂ := [july 5, july 6, july 7, july 8, july 9, july 10]
    let w₁ : MoveDates := ⟨[july 2], [july 7], transit₁, [july 14], [july 31]⟩
    let w₂ : MoveDates := ⟨[july 3], [july 4], transit₂, [july 11], [july 31]⟩
    (∀ d, c₁.isWorkday d = true → c₂.isWorkday d = true) ∧
      c₁.walk (july 3) .forward 2 false 6 = .ok [july 7, july 8] ∧
      (∃ days₂, c₂.walk (july 3) .forward 2 false 6 = .ok days₂ ∧
        List.Forall₂ (· ≤ ·) days₂ [july 7, july 8]) ∧
      c₁.walk (july 7) .backward 2 false 6 = .ok [july 2, july 7] ∧
      (∃ days₂, c₂.walk (july 7) .backward 2 false 6 = .ok days₂ ∧
        List.Forall₂ (· ≥ ·) days₂ [july 2, july 7]) ∧
      (Scheduler.mk c₁ .standard 6).forWeight ⟨3000⟩ ⟨250⟩ (july 4) (july 31) = .ok w₁ ∧
      (Scheduler.mk c₂ .standard 6).forWeight ⟨3000⟩ ⟨250⟩ (july 4) (july 31) = .ok w₂ ∧
      List.Forall₂ (· ≥ ·) w₂.pack w₁.pack ∧ w₂.NoLater w₁ ∧
      w₂.transit.length = w₁.transit.length := by
  intro c₁ c₂ transit₁ transit₂ w₁ w₂
  have hmore : ∀ d, c₁.isWorkday d = true → c₂.isWorkday d = true := by
    intro d h
    simp only [c₁, c₂, Sample.weekdays, Calendar.weekly, Bool.and_eq_true] at h ⊢
    exact ⟨h.1, rfl⟩
  have hon : c₁.walk (july 3) .forward 2 false 6 = .ok [july 7, july 8] := by decide +kernel
  have hback : c₁.walk (july 7) .backward 2 false 6 = .ok [july 2, july 7] := by decide +kernel
  have hw₁ : (Scheduler.mk c₁ .standard 6).forWeight ⟨3000⟩ ⟨250⟩ (july 4) (july 31) = .ok w₁ := by
    decide +kernel
  have hw₂ : (Scheduler.mk c₂ .standard 6).forWeight ⟨3000⟩ ⟨250⟩ (july 4) (july 31) = .ok w₂ := by
    decide +kernel
  obtain ⟨hwalks, hmoves⟩ := closed_days_only_delay c₁ c₂ hmore
  exact ⟨hmore, hon, (hwalks _ _ _ _ _).1 hon, hback, (hwalks _ _ _ _ _).2 hback, hw₁, hw₂,
    hmoves .standard 6 _ _ _ _ _ w₁ w₂ hw₁ hw₂⟩

/-- Of two moves of one weight by the standard tables, the one that is no later and goes no
further has no later day in any window, and is no longer on the road. -/
theorem later_and_longer_moves_end_later (c : Calendar) (limit : Nat) (weight : Pounds)
    (near far : Miles) (hdistance : near.value ≤ far.value) (early late : Date)
    (hdate : early ≤ late) (reportBy reportBy' : Date) (w v : MoveDates)
    (hw : (Scheduler.mk c .standard limit).forWeight weight near early reportBy = .ok w)
    (hv : (Scheduler.mk c .standard limit).forWeight weight far late reportBy' = .ok v) :
    List.Forall₂ (· ≤ ·) w.pack v.pack ∧ w.NoLater v := by
  obtain ⟨days, hdays, _, _, hfinds⟩ := Scheduler.forWeight_eq_ok.mp hw
  obtain ⟨days', hdays', _, _, hfinds'⟩ := Scheduler.forWeight_eq_ok.mp hv
  have hcount : days ≤ days' := transitDays_mono hdistance hdays hdays'
  exact ⟨(hfinds'.pack_noEarlier (fun _ hd => hd) hdate hfinds).flip,
    hfinds.noLater (fun _ hd => hd) hdate hcount hfinds'⟩

/-- Before 4 July 2025, a holiday, over the longest way of the first band, and on it over the
shortest of the second. -/
theorem a_move_on_a_holiday_ends_later :
    let c := Sample.weekdays [july 4]
    let transit := [july 4, july 5, july 6, july 7, july 8, july 9]
    let transit' := [july 8, july 9, july 10, july 11, july 12, july 13, july 14, july 15, july 16]
    let w : MoveDates := ⟨[july 1, july 2], [july 3], transit, [july 10], [july 31]⟩
    let v : MoveDates := ⟨[july 2, july 3], [july 7], transit', [july 17], [july 30]⟩
    (250 ≤ 251 ∧ july 3 ≤ july 4) ∧
      (Scheduler.mk c .standard 9).forWeight ⟨5000⟩ ⟨250⟩ (july 3) (july 31) = .ok w ∧
      (Scheduler.mk c .standard 9).forWeight ⟨5000⟩ ⟨251⟩ (july 4) (july 30) = .ok v ∧
      List.Forall₂ (· ≤ ·) w.pack v.pack ∧ w.NoLater v := by
  intro c transit transit' w v
  have hdates : july 3 ≤ july 4 := by decide
  have hw : (Scheduler.mk c .standard 9).forWeight ⟨5000⟩ ⟨250⟩ (july 3) (july 31) = .ok w := by
    decide +kernel
  have hv : (Scheduler.mk c .standard 9).forWeight ⟨5000⟩ ⟨251⟩ (july 4) (july 30) = .ok v := by
    decide +kernel
  exact ⟨⟨by decide, hdates⟩, hw, hv, later_and_longer_moves_end_later c 9 ⟨5000⟩ ⟨250⟩ ⟨251⟩
    (by decide) (july 3) (july 4) hdates (july 31) (july 30) w v hw hv⟩

end Relocation
