-- Walks told without their loop. A walk that comes to its end has taken the
-- next accepted day again and again, and no two days that it took one after
-- the other are further apart than the limit. Days are counted along the
-- direction of the walk, so that both directions are one.
import Relocation.Walk

namespace Relocation

/-! ## Days beyond a day -/

namespace Direction

/-- How far the day number `n` lies beyond `m` in the direction. -/
def distance : Direction → (m n : Int) → Int
  | .forward, m, n => n - m
  | .backward, m, n => m - n

/-- The number of the day before a day, seen in the direction. -/
def before : Direction → Int → Int
  | .forward, n => n - 1
  | .backward, n => n + 1

@[simp] theorem distance_before (dir : Direction) (n : Int) : dir.distance (dir.before n) n = 1 := by
  cases dir <;> simp only [distance, before] <;> omega

@[simp] theorem distance_self (dir : Direction) (n : Int) : dir.distance n n = 0 := by
  cases dir <;> simp only [distance] <;> omega

theorem distance_swap (dir : Direction) (m n : Int) : dir.distance n m = -dir.distance m n := by
  cases dir <;> simp only [distance] <;> omega

theorem distance_add (dir : Direction) (l m n : Int) :
    dir.distance l m + dir.distance m n = dir.distance l n := by
  cases dir <;> simp only [distance] <;> omega

theorem eq_of_distance (dir : Direction) {d e : Date}
    (h : dir.distance d.number e.number = 0) : d = e := by
  refine Date.eq_of_number ?_
  cases dir <;> simp only [distance] at h <;> omega

theorem next?_eq_some_iff {dir : Direction} {d e : Date} :
    dir.next? d = some e ↔ dir.distance d.number e.number = 1 := by
  cases dir
  · rw [next?, Date.succ?, Date.addDays?_eq_some_iff, distance]
    omega
  · rw [next?, Date.pred?, Date.addDays?_eq_some_iff, distance]
    omega

/-- Where there is no next day, no day lies beyond. -/
theorem distance_le_of_next?_eq_none {dir : Direction} {d : Date} (h : dir.next? d = none)
    (e : Date) : dir.distance d.number e.number ≤ 0 := by
  have hfirst := e.first_le
  have hlast := e.le_last
  cases dir
  · rw [next?, Date.succ?, Date.addDays?, Date.ofNumber?_eq_none_iff] at h
    have := d.first_le
    simp only [distance, Date.first, Date.last] at *
    omega
  · rw [next?, Date.pred?, Date.addDays?, Date.ofNumber?_eq_none_iff] at h
    have := d.le_last
    simp only [distance, Date.first, Date.last] at *
    omega

end Direction

/-! ## Steps from one accepted day to the next -/

/-- `e` is the first accepted day beyond the day number `m`, and it is at most
`limit` days beyond. -/
structure Next (accepts : Date → Bool) (dir : Direction) (limit : Nat) (m : Int) (e : Date) :
    Prop where
  accepted : accepts e = true
  beyond : 0 < dir.distance m e.number
  near : dir.distance m e.number ≤ limit
  first : ∀ d, accepts d = true → 0 < dir.distance m d.number →
    0 ≤ dir.distance e.number d.number

/-- Each of the days is the next one, the first of them beyond the day number `m`. -/
def Steps (accepts : Date → Bool) (dir : Direction) (limit : Nat) : (m : Int) → List Date → Prop
  | _, [] => True
  | m, d :: days => Next accepts dir limit m d ∧ Steps accepts dir limit d.number days

section

variable {accepts : Date → Bool} {dir : Direction} {limit : Nat} {m : Int} {d e : Date}
  {days : List Date}

/-- There is only one next day. -/
theorem Next.unique (h : Next accepts dir limit m d) (h' : Next accepts dir limit m e) : d = e := by
  have hle := h.first e h'.accepted h'.beyond
  have hge := h'.first d h.accepted h.beyond
  refine dir.eq_of_distance ?_
  cases dir <;> simp only [Direction.distance] at * <;> omega

/-- A walk that looks for the next day beyond `m` has come to `day`, and has
refused the `run` days before it. -/
structure PassedOver (accepts : Date → Bool) (dir : Direction) (m : Int) (run : Nat)
    (day : Date) : Prop where
  distance : dir.distance m day.number = run + 1
  refused : ∀ d, accepts d = true → 0 < dir.distance m d.number →
    0 ≤ dir.distance day.number d.number

/-- On the day after `m`, no day has been passed over. -/
theorem PassedOver.of_distance (h : dir.distance m d.number = 1) :
    PassedOver accepts dir m 0 d := by
  refine ⟨by omega, fun e _ he => ?_⟩
  have hsum := dir.distance_add m d.number e.number
  omega

theorem PassedOver.next_iff {run : Nat} (h : PassedOver accepts dir m run d) (hrun : run < limit)
    (haccepts : accepts d = true) : Next accepts dir limit m e ↔ e = d := by
  have hnext : Next accepts dir limit m d :=
    ⟨haccepts, by have := h.distance; omega, by have := h.distance; omega, h.refused⟩
  constructor
  · exact fun he => he.unique hnext
  · rintro rfl
    exact hnext

/-- Beyond a day that is refused lie all that are accepted. -/
theorem PassedOver.beyond {run : Nat} (h : PassedOver accepts dir m run d)
    (hrefuses : ¬ accepts d = true) (haccepts : accepts e = true)
    (he : 0 < dir.distance m e.number) : 0 < dir.distance d.number e.number := by
  have hle := h.refused e haccepts he
  have hne : dir.distance d.number e.number ≠ 0 := by
    intro hzero
    obtain rfl := dir.eq_of_distance hzero
    exact hrefuses haccepts
  omega

/-- A day that is refused is passed over. -/
theorem PassedOver.of_refused {run : Nat} (h : PassedOver accepts dir m run d)
    (hrefuses : ¬ accepts d = true) (hone : dir.distance d.number e.number = 1) :
    PassedOver accepts dir m (run + 1) e := by
  refine ⟨?_, fun x haccepts hx => ?_⟩
  · have hsum := dir.distance_add m d.number e.number
    have := h.distance
    omega
  · have hbeyond := h.beyond hrefuses haccepts hx
    have hsum := dir.distance_add d.number e.number x.number
    omega

/-- `collect` comes to its end exactly by steps from one accepted day to the next. -/
theorem collect_eq_ok {day : Date} {run more : Nat} (hrun : run < limit)
    (hpassed : PassedOver accepts dir m run day) :
    collect accepts dir limit day run more = .ok days ↔
      days.length = more + 1 ∧ Steps accepts dir limit m days := by
  fun_induction collect accepts dir limit day run more generalizing m days with
  | case1 day run haccepts =>
    have hiff : ∀ e, Next accepts dir limit m e ↔ e = day :=
      fun e => hpassed.next_iff hrun haccepts
    constructor
    · rintro ⟨⟩
      exact ⟨rfl, (hiff day).mpr rfl, trivial⟩
    · rintro ⟨hlength, hsteps⟩
      obtain ⟨e, rfl⟩ := List.length_eq_one_iff.mp hlength
      rw [(hiff e).mp hsteps.1]
  | case2 day run haccepts more hnone =>
    simp only [reduceCtorEq, false_iff]
    rintro ⟨hlength, hsteps⟩
    match days, hlength, hsteps with
    | d :: e :: _, _, ⟨hd, he, _⟩ =>
      obtain rfl := (hpassed.next_iff hrun haccepts).mp hd
      have hbeyond := he.beyond
      have hend := Direction.distance_le_of_next?_eq_none hnone e
      omega
  | case3 day run haccepts more next hnext hroom ih =>
    have hpassed' : PassedOver accepts dir day.number 0 next :=
      .of_distance (Direction.next?_eq_some_iff.mp hnext)
    have hrest : ∀ rest, collect accepts dir limit next 0 more = .ok rest ↔ _ :=
      fun rest => ih (by omega) hpassed'
    constructor
    · intro h
      rcases hcollect : collect accepts dir limit next 0 more with failure | rest
      · rw [hcollect] at h
        cases h
      · rw [hcollect] at h
        cases h
        obtain ⟨hlength, hsteps⟩ := (hrest rest).mp hcollect
        exact ⟨by rw [List.length_cons, hlength],
          (hpassed.next_iff hrun haccepts).mpr rfl, hsteps⟩
    · rintro ⟨hlength, hsteps⟩
      match days, hlength, hsteps with
      | d :: rest, hlength, ⟨hd, hsteps⟩ =>
        obtain rfl := (hpassed.next_iff hrun haccepts).mp hd
        rw [(hrest rest).mpr ⟨by simpa using hlength, hsteps⟩]
        rfl
  | case4 day run more hrefuses hlimit =>
    simp only [reduceCtorEq, false_iff]
    rintro ⟨hlength, hsteps⟩
    match days, hlength, hsteps with
    | e :: _, _, ⟨he, _⟩ =>
      have hbeyond := hpassed.beyond hrefuses he.accepted he.beyond
      have hsum := dir.distance_add m day.number e.number
      have hnear := he.near
      have := hpassed.distance
      omega
  | case5 day run more hrefuses hlimit hnone =>
    simp only [reduceCtorEq, false_iff]
    rintro ⟨hlength, hsteps⟩
    match days, hlength, hsteps with
    | e :: _, _, ⟨he, _⟩ =>
      have hbeyond := hpassed.beyond hrefuses he.accepted he.beyond
      have hend := Direction.distance_le_of_next?_eq_none hnone e
      omega
  | case6 day run more hrefuses hlimit next hnext hroom ih =>
    exact ih (by omega) (hpassed.of_refused hrefuses (Direction.next?_eq_some_iff.mp hnext))

end

/-! ## Walks over a calendar -/

/-- The days of an ascending list, in the order in which a walk takes them. -/
def Direction.along : Direction → List Date → List Date
  | .forward, days => days
  | .backward, days => days.reverse

@[simp] theorem Direction.along_along (dir : Direction) (days : List Date) :
    dir.along (dir.along days) = days := by
  cases dir
  · rfl
  · exact List.reverse_reverse days

@[simp] theorem Direction.length_along (dir : Direction) (days : List Date) :
    (dir.along days).length = days.length := by
  cases dir
  · rfl
  · exact List.length_reverse

/-- What a walk looks for. -/
def Calendar.accepts (c : Calendar) (anyDay : Bool) : Date → Bool :=
  fun d => anyDay || c.isWorkday d

theorem Calendar.walk_of_le {c : Calendar} {start : Date} {dir : Direction} {more : Nat}
    {anyDay : Bool} {limit : Nat} (h : more + 1 ≤ limit) :
    c.walk start dir (more + 1) anyDay limit =
      match collect (c.accepts anyDay) dir limit start 0 more with
      | .error searched => .error (.noWorkday start searched)
      | .ok taken => .ok (dir.along taken) := by
  rw [walk, if_neg (by omega)]
  cases dir <;> rfl

/-- A walk comes to its end exactly by steps from one accepted day to the next. -/
theorem Calendar.walk_eq_ok {c : Calendar} {start : Date} {dir : Direction} {count : Nat}
    {anyDay : Bool} {limit : Nat} {days : List Date} :
    c.walk start dir count anyDay limit = .ok days ↔ days.length = count ∧ count ≤ limit ∧
      Steps (c.accepts anyDay) dir limit (dir.before start.number) (dir.along days) := by
  cases count with
  | zero =>
    rw [walk, Except.ok.injEq, eq_comm, List.length_eq_zero_iff]
    constructor
    · rintro rfl
      exact ⟨rfl, Nat.zero_le _, by cases dir <;> trivial⟩
    · exact fun h => h.1
  | succ more =>
    by_cases hlimit : more + 1 ≤ limit
    · have hpassed : PassedOver (c.accepts anyDay) dir (dir.before start.number) 0 start :=
        .of_distance (Direction.distance_before dir start.number)
      have hcollect : ∀ taken, collect (c.accepts anyDay) dir limit start 0 more = .ok taken ↔ _ :=
        fun taken => collect_eq_ok (by omega) hpassed
      rw [walk_of_le hlimit]
      constructor
      · intro h
        split at h
        · cases h
        · rename_i taken htaken
          cases h
          obtain ⟨hlength, hsteps⟩ := (hcollect taken).mp htaken
          exact ⟨by simpa using hlength, hlimit, by simpa using hsteps⟩
      · rintro ⟨hlength, -, hsteps⟩
        rw [(hcollect (dir.along days)).mpr ⟨by simpa using hlength, hsteps⟩]
        simp
    · rw [walk, if_pos (by omega)]
      simp [hlimit]

section

variable {accepts : Date → Bool} {dir : Direction} {limit : Nat} {m : Int} {d e : Date}
  {days : List Date}

/-! ## What the steps pass over -/

/-- The days are the first accepted ones beyond the day number `m`, in the
order of the direction. -/
structure Leading (accepts : Date → Bool) (dir : Direction) (m : Int) (days : List Date) : Prop where
  ordered : days.Pairwise fun d e => 0 < dir.distance d.number e.number
  accepted : ∀ d ∈ days, accepts d = true ∧ 0 < dir.distance m d.number
  complete : ∀ d ∈ days, ∀ e, accepts e = true → 0 < dir.distance m e.number →
    0 < dir.distance e.number d.number → e ∈ days

theorem Steps.leading (h : Steps accepts dir limit m days) : Leading accepts dir m days := by
  induction days generalizing m with
  | nil => exact ⟨.nil, by simp, by simp⟩
  | cons d days ih =>
    obtain ⟨hd, hdays⟩ := h
    obtain ⟨hordered, haccepted, hcomplete⟩ := ih hdays
    refine ⟨List.pairwise_cons.mpr ⟨fun e he => (haccepted e he).2, hordered⟩, ?_, ?_⟩
    · intro e he
      rcases List.mem_cons.mp he with rfl | he
      · exact ⟨hd.accepted, hd.beyond⟩
      · obtain ⟨he, hbeyond⟩ := haccepted e he
        have hsum := dir.distance_add m d.number e.number
        have hd := hd.beyond
        exact ⟨he, by omega⟩
    · intro x hx e he hme hex
      have hde := hd.first e he hme
      by_cases hzero : dir.distance d.number e.number = 0
      · rw [← dir.eq_of_distance hzero]
        exact List.mem_cons_self
      · rcases List.mem_cons.mp hx with rfl | hx
        · have hswap := dir.distance_swap x.number e.number
          omega
        · exact List.mem_cons_of_mem d (hcomplete x hx e he (by omega) hex)

/-- Of any `limit` days in a row beyond `m`, up to a day that is taken, one is accepted. -/
def Unbroken (accepts : Date → Bool) (dir : Direction) (limit : Nat) (m : Int)
    (days : List Date) : Prop :=
  ∀ d ∈ days, ∀ n, 0 ≤ dir.distance m n → limit ≤ dir.distance n d.number →
    ∃ e, accepts e = true ∧ 0 < dir.distance n e.number ∧ dir.distance n e.number ≤ limit

theorem Steps.unbroken (hlimit : 0 < limit) (h : Steps accepts dir limit m days) :
    Unbroken accepts dir limit m days := by
  induction days generalizing m with
  | nil => exact fun d hd => absurd hd (by simp)
  | cons d days ih =>
    obtain ⟨hd, hdays⟩ := h
    intro x hx n hmn hnx
    have hsum := dir.distance_add m n d.number
    by_cases hnd : 0 < dir.distance n d.number
    · have hnear := hd.near
      exact ⟨d, hd.accepted, hnd, by omega⟩
    · have hswap := dir.distance_swap n d.number
      rcases List.mem_cons.mp hx with rfl | hx
      · omega
      · exact ih hdays x hx n (by omega) hnx

theorem Leading.steps (h : Leading accepts dir m days)
    (hunbroken : Unbroken accepts dir limit m days) : Steps accepts dir limit m days := by
  induction days generalizing m with
  | nil => trivial
  | cons d days ih =>
    obtain ⟨hordered, haccepted, hcomplete⟩ := h
    obtain ⟨hbefore, hordered⟩ := List.pairwise_cons.mp hordered
    obtain ⟨hd, hbeyond⟩ := haccepted d List.mem_cons_self
    have hfirst : ∀ e, accepts e = true → 0 < dir.distance m e.number →
        0 ≤ dir.distance d.number e.number := by
      intro e he hme
      refine Int.not_lt.mp fun hlt => ?_
      have hswap := dir.distance_swap d.number e.number
      have hmem := hcomplete d List.mem_cons_self e he hme (by omega)
      rcases List.mem_cons.mp hmem with rfl | hmem
      · omega
      · have hlater := hbefore e hmem
        omega
    refine ⟨⟨hd, hbeyond, ?_, hfirst⟩, ih ⟨hordered, ?_, ?_⟩ ?_⟩
    · refine Int.not_lt.mp fun hfar => ?_
      obtain ⟨e, he, hme, hnear⟩ := hunbroken d List.mem_cons_self m (by simp) (by omega)
      have hsum := dir.distance_add m d.number e.number
      have hle := hfirst e he hme
      omega
    · exact fun e he => ⟨(haccepted e (List.mem_cons_of_mem d he)).1, hbefore e he⟩
    · intro x hx e he hde hex
      have hsum := dir.distance_add m d.number e.number
      have hmem := hcomplete x (List.mem_cons_of_mem d hx) e he (by omega) hex
      rcases List.mem_cons.mp hmem with rfl | hmem
      · rw [Direction.distance_self] at hde
        omega
      · exact hmem
    · intro x hx n hdn hnx
      have hsum := dir.distance_add m d.number n
      exact hunbroken x (List.mem_cons_of_mem d hx) n (by omega) hnx

/-- Walks told without their steps. -/
theorem steps_iff (hlimit : 0 < limit) : Steps accepts dir limit m days ↔
    Leading accepts dir m days ∧ Unbroken accepts dir limit m days :=
  ⟨fun h => ⟨h.leading, h.unbroken hlimit⟩, fun h => h.1.steps h.2⟩

/-! ## Where there are steps -/

/-- The nearest of the accepted days is the next one. -/
theorem exists_next (h : ∃ d, accepts d = true ∧ 0 < dir.distance m d.number ∧
    dir.distance m d.number ≤ limit) : ∃ e, Next accepts dir limit m e := by
  obtain ⟨d, hd, hbeyond, hnear⟩ := h
  obtain ⟨k, hk⟩ := Int.eq_ofNat_of_zero_le (Int.le_of_lt hbeyond)
  induction k using Nat.strongRecOn generalizing d with
  | ind k ih =>
    by_cases hnearer : ∃ e, accepts e = true ∧ 0 < dir.distance m e.number ∧
        dir.distance d.number e.number < 0
    · obtain ⟨e, he, hme, hde⟩ := hnearer
      have hsum := dir.distance_add m d.number e.number
      exact ih (dir.distance m e.number).toNat (by omega) e he hme (by omega) (by omega)
    · refine ⟨d, hd, hbeyond, hnear, fun e he hme => Int.not_lt.mp fun hlt => ?_⟩
      exact hnearer ⟨e, he, hme, hlt⟩

/-- Where of any `gap` days in a row one is accepted, there are as many steps
as the days have room for. -/
theorem exists_steps {gap room : Nat} (hgap : gap ≤ limit)
    (hopen : ∀ n, 0 ≤ dir.distance m n → dir.distance m n + gap ≤ room →
      ∃ d, accepts d = true ∧ 0 < dir.distance n d.number ∧ dir.distance n d.number ≤ gap)
    (count : Nat) (hroom : gap * count ≤ room) :
    ∃ days, days.length = count ∧ Steps accepts dir limit m days := by
  induction count generalizing m room with
  | zero => exact ⟨[], rfl, trivial⟩
  | succ count ih =>
    rw [Nat.mul_succ] at hroom
    have hself := dir.distance_self m
    obtain ⟨d, haccepted, hbeyond, hnear, hfirst⟩ := exists_next (hopen m (by omega) (by omega))
    have hrest : ∀ n, 0 ≤ dir.distance d.number n →
        dir.distance d.number n + gap ≤ (room - gap : Nat) →
        ∃ e, accepts e = true ∧ 0 < dir.distance n e.number ∧ dir.distance n e.number ≤ gap := by
      intro n hdn hn
      have hsum := dir.distance_add m d.number n
      exact hopen n (by omega) (by omega)
    obtain ⟨days, hlength, hdays⟩ := ih hrest (by omega)
    exact ⟨d :: days, by rw [List.length_cons, hlength],
      ⟨haccepted, hbeyond, by omega, hfirst⟩, hdays⟩

end

/-! ## A month to walk over -/

namespace Sample

/-- The days of July 2025 by number. The 4th is a Friday. -/
def july (n : Fin 32) : Date := ⟨739432 + n.val, by omega, by omega⟩

/-- Open from Monday to Friday, but for the closed days. -/
def weekdays (closed : List Date) : Calendar :=
  .weekly [.monday, .tuesday, .wednesday, .thursday, .friday] closed

end Sample

end Relocation
