-- A walk can be gone back, and it can be taken in parts. From its last day the
-- walk back finds the same days, and a walk that stops after some days and goes
-- on from the next finds what it would have found without a stop.
import Mathlib.Control.Monad.Basic
import Relocation.Proofs.Walks

namespace Relocation

open Sample (july)

/-! ## The other direction -/

namespace Direction

def opposite : Direction → Direction
  | .forward => .backward
  | .backward => .forward

theorem distance_opposite (dir : Direction) (m n : Int) :
    dir.opposite.distance m n = dir.distance n m := by
  cases dir <;> rfl

theorem along_opposite (dir : Direction) (days : List Date) :
    dir.opposite.along days = (dir.along days).reverse := by
  cases dir
  · rfl
  · exact (List.reverse_reverse days).symm

theorem before_of_next? {dir : Direction} {d e : Date} (h : dir.next? d = some e) :
    dir.before e.number = d.number := by
  have hone := next?_eq_some_iff.mp h
  cases dir <;> simp only [distance, before] at * <;> omega

/-- Where a day lies beyond, there is a next one. -/
theorem exists_next? {dir : Direction} {d e : Date} (h : 0 < dir.distance d.number e.number) :
    ∃ f, dir.next? d = some f := by
  rcases hnext : dir.next? d with _ | f
  · have hend := distance_le_of_next?_eq_none hnext e
    omega
  · exact ⟨f, rfl⟩

end Direction

/-! ## Steps back, and steps in two parts -/

section

variable {accepts : Date → Bool} {dir : Direction} {limit : Nat} {m : Int} {d e : Date}
  {days more : List Date}

/-- A walk that starts on an accepted day takes it. -/
theorem Next.here (hlimit : 0 < limit) (hd : accepts d = true) :
    Next accepts dir limit (dir.before d.number) d := by
  have hone := dir.distance_before d.number
  refine ⟨hd, by omega, by omega, fun e _ he => ?_⟩
  have hsum := dir.distance_add (dir.before d.number) d.number e.number
  omega

/-- Seen from the next accepted day, the one before it is the next one back. -/
theorem Next.back (hd : accepts d = true) (h : Next accepts dir limit d.number e) :
    Next accepts dir.opposite limit e.number d := by
  obtain ⟨-, hbeyond, hnear, hfirst⟩ := h
  refine ⟨hd, ?_, ?_, fun x hx hex => ?_⟩
  · rwa [Direction.distance_opposite]
  · rwa [Direction.distance_opposite]
  · rw [Direction.distance_opposite] at hex ⊢
    -- An accepted day between the two would have been the next one.
    refine Int.not_lt.mp fun hlt => ?_
    have hdx := dir.distance_swap x.number d.number
    have hxe := dir.distance_swap x.number e.number
    have hle := hfirst x hx (by omega)
    omega

/-- Steps over two lists go on from the last day of the first. -/
theorem steps_append (hlast : days.getLast? = some d) :
    Steps accepts dir limit m (days ++ more) ↔
      Steps accepts dir limit m days ∧ Steps accepts dir limit d.number more := by
  induction days generalizing m with
  | nil => cases hlast
  | cons e days ih =>
    rw [List.cons_append, Steps, Steps, and_assoc]
    refine and_congr_right fun _ => ?_
    cases days with
    | nil =>
      obtain rfl : e = d := by simpa using hlast
      exact (and_iff_right trivial).symm
    | cons f days =>
      rw [List.getLast?_cons_cons] at hlast
      exact ih hlast

/-- Steps are the first `n` of them, and the others from the day that these come to. -/
theorem steps_split {n k : Nat} (hn : 1 ≤ n) :
    days.length = n + k ∧ Steps accepts dir limit m days ↔ ∃ first last second,
      days = first ++ second ∧ first.getLast? = some last ∧
        (first.length = n ∧ Steps accepts dir limit m first) ∧
        (second.length = k ∧ Steps accepts dir limit last.number second) := by
  constructor
  · rintro ⟨hlength, hsteps⟩
    have hfirst : (days.take n).length = n := List.length_take_of_le (by omega)
    have hsecond : (days.drop n).length = k := by
      rw [List.length_drop]
      omega
    have hlast : (days.take n).getLast? = some _ :=
      List.getLast?_eq_some_getLast (List.ne_nil_of_length_pos (by omega))
    have hsplit := List.take_append_drop n days
    rw [← hsplit, steps_append hlast] at hsteps
    exact ⟨_, _, _, hsplit.symm, hlast, ⟨hfirst, hsteps.1⟩, hsecond, hsteps.2⟩
  · rintro ⟨first, last, second, rfl, hlast, ⟨rfl, hfirst⟩, rfl, hsecond⟩
    exact ⟨List.length_append, (steps_append hlast).mpr ⟨hfirst, hsecond⟩⟩

/-- Steps from day to day are steps back from the last of the days. -/
theorem Steps.back (hlimit : 0 < limit) (hlast : days.getLast? = some e)
    (h : Steps accepts dir limit m days) :
    Steps accepts dir.opposite limit (dir.opposite.before e.number) days.reverse := by
  -- The first of the days is the last step back, from the second.
  induction days generalizing m with
  | nil => cases hlast
  | cons d days ih =>
    obtain ⟨hd, hdays⟩ := h
    cases days with
    | nil =>
      obtain rfl : d = e := by simpa using hlast
      exact ⟨.here hlimit hd.accepted, trivial⟩
    | cons f days =>
      rw [List.getLast?_cons_cons] at hlast
      have hfirst : (f :: days).reverse.getLast? = some f := by simp
      rw [List.reverse_cons, steps_append hfirst]
      exact ⟨ih hlast hdays, hdays.1.back hd.accepted, trivial⟩

end

/-! ## Walks gone back -/

namespace Calendar

variable {c : Calendar} {start last : Date} {dir : Direction} {count n m : Nat} {anyDay : Bool}
  {limit : Nat} {days : List Date}

/-- A walk of at least one day has a last one. -/
theorem exists_getLast?_of_walk (hcount : 1 ≤ count)
    (h : c.walk start dir count anyDay limit = .ok days) :
    ∃ last, (dir.along days).getLast? = some last := by
  have hlength := (walk_eq_ok.mp h).1
  rw [← Direction.length_along dir] at hlength
  exact ⟨_, List.getLast?_eq_some_getLast (List.ne_nil_of_length_pos (by omega))⟩

theorem walk_opposite (hcount : 1 ≤ count) (hlast : (dir.along days).getLast? = some last)
    (h : c.walk start dir count anyDay limit = .ok days) :
    c.walk last dir.opposite count anyDay limit = .ok days := by
  obtain ⟨hlength, hlimit, hsteps⟩ := walk_eq_ok.mp h
  refine walk_eq_ok.mpr ⟨hlength, hlimit, ?_⟩
  rw [Direction.along_opposite]
  exact hsteps.back (by omega) hlast

/-- The walk back from the last day of a walk, and the walk on from the first day of a walk
back, find the same days again, under the same limit. -/
theorem walks_can_be_retraced (c : Calendar) (start : Date) (count : Nat) (hcount : 1 ≤ count)
    (anyDay : Bool) (limit : Nat) (days : List Date) :
    (c.walk start .forward count anyDay limit = .ok days → ∃ last, days.getLast? = some last ∧
      c.walk last .backward count anyDay limit = .ok days) ∧
    (c.walk start .backward count anyDay limit = .ok days → ∃ first, days.head? = some first ∧
      c.walk first .forward count anyDay limit = .ok days) := by
  constructor
  · intro h
    obtain ⟨last, hlast⟩ := exists_getLast?_of_walk hcount h
    exact ⟨last, hlast, walk_opposite hcount hlast h⟩
  · intro h
    obtain ⟨first, hfirst⟩ := exists_getLast?_of_walk hcount h
    refine ⟨first, ?_, walk_opposite hcount hfirst h⟩
    rwa [Direction.along, List.getLast?_reverse] at hfirst

/-- Around 4 July 2025, a holiday and a Friday, with the tightest limit for the three closed
days: on from Thursday and back from the Tuesday after, and back from Sunday and on again. -/
theorem a_holiday_is_crossed_both_ways :
    let c := Sample.weekdays [july 4]
    let days := [july 3, july 7, july 8]
    c.walk (july 3) .forward 3 false 4 = .ok days ∧ c.walk (july 8) .backward 3 false 4 = .ok days ∧
      c.walk (july 6) .backward 1 false 4 = .ok [july 3] ∧
      c.walk (july 3) .forward 1 false 4 = .ok [july 3] := by
  intro c days
  have hon : c.walk (july 3) .forward 3 false 4 = .ok days := by decide +kernel
  have hback : c.walk (july 6) .backward 1 false 4 = .ok [july 3] := by decide +kernel
  obtain ⟨last, hlast, hagain⟩ :=
    (walks_can_be_retraced c (july 3) 3 (by decide) false 4 days).1 hon
  obtain rfl : july 8 = last := Option.some.inj hlast
  obtain ⟨first, hfirst, honAgain⟩ :=
    (walks_can_be_retraced c (july 6) 1 (by decide) false 4 [july 3]).2 hback
  obtain rfl : july 3 = first := Option.some.inj hfirst
  exact ⟨hon, hagain, hback, honAgain⟩

/-! ## Walks in two parts -/

/-- A walk from the day after `last` takes the steps that lead on from `last`. -/
theorem walk_after {next : Date} (hnext : dir.next? last = some next) :
    c.walk next dir count anyDay limit = .ok days ↔ days.length = count ∧ count ≤ limit ∧
      Steps (c.accepts anyDay) dir limit last.number (dir.along days) := by
  rw [walk_eq_ok, Direction.before_of_next? hnext]

/-- A walk of `n + m` days is one of `n` days and one of `m` from the day after them. -/
theorem walk_add (hn : 1 ≤ n) (hm : 1 ≤ m) (hlimit : n + m ≤ limit) :
    c.walk start dir (n + m) anyDay limit = .ok days ↔ ∃ first last next second,
      c.walk start dir n anyDay limit = .ok first ∧ (dir.along first).getLast? = some last ∧
        dir.next? last = some next ∧ c.walk next dir m anyDay limit = .ok second ∧
        dir.along days = dir.along first ++ dir.along second := by
  constructor
  · intro h
    obtain ⟨hlength, -, hsteps⟩ := walk_eq_ok.mp h
    rw [← Direction.length_along dir] at hlength
    obtain ⟨first, last, second, hdays, hlast, ⟨hfirst, hbefore⟩, hsecond, hafter⟩ :=
      (steps_split hn).mp ⟨hlength, hsteps⟩
    -- The second part is not empty, so the range does not end at the stop.
    obtain ⟨next, hnext⟩ : ∃ next, dir.next? last = some next := by
      obtain ⟨e, rest, rfl⟩ := List.exists_cons_of_length_pos (by omega : 0 < second.length)
      exact Direction.exists_next? hafter.1.beyond
    refine ⟨dir.along first, last, next, dir.along second, ?_, by simpa using hlast, hnext, ?_,
      by simpa using hdays⟩
    · exact walk_eq_ok.mpr ⟨by simpa using hfirst, by omega, by simpa using hbefore⟩
    · exact (walk_after hnext).mpr ⟨by simpa using hsecond, by omega, by simpa using hafter⟩
  · rintro ⟨first, last, next, second, hfirst, hlast, hnext, hsecond, hdays⟩
    obtain ⟨hfirst, -, hbefore⟩ := walk_eq_ok.mp hfirst
    obtain ⟨hsecond, -, hafter⟩ := (walk_after hnext).mp hsecond
    obtain ⟨hlength, hsteps⟩ := (steps_split hn).mpr ⟨dir.along first, last, dir.along second,
      hdays, hlast, ⟨by simpa using hfirst, hbefore⟩, by simpa using hsecond, hafter⟩
    exact walk_eq_ok.mpr ⟨by simpa using hlength, hlimit, hsteps⟩

/-- A walk may stop after any of its days and go on from the next: it comes to its end exactly
if both parts do, and has their days. -/
theorem walks_can_be_resumed (c : Calendar) (start : Date) (n m : Nat) (hn : 1 ≤ n) (hm : 1 ≤ m)
    (anyDay : Bool) (limit : Nat) (hlimit : n + m ≤ limit) (days : List Date) :
    (c.walk start .forward (n + m) anyDay limit = .ok days ↔ ∃ first last next second,
      c.walk start .forward n anyDay limit = .ok first ∧ first.getLast? = some last ∧
        last.succ? = some next ∧ c.walk next .forward m anyDay limit = .ok second ∧
        days = first ++ second) ∧
    (c.walk start .backward (n + m) anyDay limit = .ok days ↔ ∃ first last next second,
      c.walk start .backward n anyDay limit = .ok first ∧ first.head? = some last ∧
        last.pred? = some next ∧ c.walk next .backward m anyDay limit = .ok second ∧
        days = second ++ first) := by
  refine ⟨walk_add hn hm hlimit, (walk_add hn hm hlimit).trans ?_⟩
  have hreverse : ∀ first second : List Date,
      Direction.backward.along days = Direction.backward.along first ++
        Direction.backward.along second ↔ days = second ++ first := by
    intro first second
    rw [Direction.along, Direction.along, Direction.along, ← List.reverse_append,
      List.reverse_inj]
  have hhead : ∀ first : List Date, (Direction.backward.along first).getLast? = first.head? :=
    fun _ => List.getLast?_reverse
  simp only [hreverse, hhead, Direction.next?]

/-- Over the same holiday and with the same limit: a stop after Thursday on the way on, and
after Monday on the way back. -/
theorem a_walk_stops_before_a_holiday :
    let c := Sample.weekdays [july 4]
    (∃ first last next second, c.walk (july 3) .forward 1 false 4 = .ok first ∧
      first.getLast? = some last ∧ last.succ? = some next ∧
      c.walk next .forward 2 false 4 = .ok second ∧
      [july 3, july 7, july 8] = first ++ second) ∧
    c.walk (july 8) .backward (2 + 1) false 4 = .ok [july 3, july 7, july 8] := by
  intro c
  have hon : c.walk (july 3) .forward (1 + 2) false 4 = .ok [july 3, july 7, july 8] := by
    decide +kernel
  have hmonday : c.walk (july 8) .backward 2 false 4 = .ok [july 7, july 8] := by decide +kernel
  have hthursday : c.walk (july 6) .backward 1 false 4 = .ok [july 3] := by decide +kernel
  have honwards := (walks_can_be_resumed c (july 3) 1 2 (by decide) (by decide) false 4 (by decide)
    [july 3, july 7, july 8]).1
  have hbackwards := (walks_can_be_resumed c (july 8) 2 1 (by decide) (by decide) false 4
    (by decide) [july 3, july 7, july 8]).2
  exact ⟨honwards.mp hon,
    hbackwards.mpr ⟨_, july 7, july 6, _, hmonday, rfl, rfl, hthursday, rfl⟩⟩

end Calendar

end Relocation
