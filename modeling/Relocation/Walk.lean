-- Walks over a calendar: from a start, day by day in one direction, until
-- enough days have been taken. A walk gives up when too many days in a row
-- are refused, or when the range of dates ends.
import Relocation.Calendar.Basic
import Relocation.Failure

namespace Relocation

/-! ## Directions -/

inductive Direction where
  /-- Towards later dates. -/
  | forward
  /-- Towards earlier dates. -/
  | backward
deriving DecidableEq

namespace Direction

/-- The next day in the direction. -/
def next? : Direction → Date → Option Date
  | .forward, d => d.succ?
  | .backward, d => d.pred?

/-- How many days lie beyond a date in the direction. -/
def room : Direction → Date → Nat
  | .forward, d => (Date.last.number - d.number).toNat
  | .backward, d => (d.number - Date.first.number).toNat

/-- Each step leaves less room. -/
theorem room_lt {dir : Direction} {d e : Date} (h : dir.next? d = some e) :
    dir.room e < dir.room d := by
  have hd := d.first_le
  have hd' := d.le_last
  have he := e.first_le
  have he' := e.le_last
  cases dir <;>
    · simp only [next?, Date.succ?, Date.pred?, Date.addDays?, Date.ofNumber?] at h
      split at h
      · cases h
        simp only [room, Date.first, Date.last] at *
        omega
      · cases h

end Direction

/-! ## Walks -/

/-- Takes accepted days from `day` on, `more` of them after the first. The
last `run` days before `day` were refused. The error is how many days in a
row were refused when the walk gave up. -/
def collect (accepts : Date → Bool) (dir : Direction) (limit : Nat) (day : Date)
    (run more : Nat) : Except Nat (List Date) :=
  if accepts day then
    match more with
    | 0 => .ok [day]
    | more + 1 =>
      match h : dir.next? day with
      | none => .error 0
      | some next =>
        have := Direction.room_lt h
        (collect accepts dir limit next 0 more).map (day :: ·)
  else if limit ≤ run + 1 then .error (run + 1)
  else
    match h : dir.next? day with
    | none => .error (run + 1)
    | some next =>
      have := Direction.room_lt h
      collect accepts dir limit next (run + 1) more
termination_by dir.room day

/-- How many days in a row a walk refuses at most, unless it is told otherwise. -/
def defaultLimit : Nat := 366

/-- The first `count` workdays, or days of any kind, from `start` on, in
ascending order. `limit` bounds both the count and the days refused in a row. -/
def Calendar.walk (calendar : Calendar) (start : Date) (dir : Direction) (count : Nat)
    (anyDay : Bool) (limit : Nat) : Except Failure (List Date) :=
  match count with
  | 0 => .ok []
  | more + 1 =>
    if limit < more + 1 then
      .error (.onField "count"
        (toString (more + 1) ++ " is more than the " ++ toString limit ++ " day walk limit"))
    else
      match collect (fun d => anyDay || calendar.isWorkday d) dir limit start 0 more with
      | .error searched => .error (.noWorkday start searched)
      | .ok days => .ok (if dir = .backward then days.reverse else days)

/-! ## Days on which no move can be booked -/

/-- How many days from the start are looked at. -/
def bookingWindow : Nat := 90

/-- How many workdays from the start on are too close to book. -/
def shortFuse : Nat := 5

/-- The days of the window. The last date of the range is never one of them. -/
def windowFrom (start : Date) : List Date :=
  ((List.range bookingWindow).filterMap fun n : Nat => start.addDays? n).filter (· < Date.last)

/-- The days that are not workdays, and the first `left` workdays. -/
def unavailableOf (calendar : Calendar) : (left : Nat) → List Date → List Date
  | _, [] => []
  | left, d :: ds =>
    if calendar.isWorkday d then
      match left with
      | 0 => unavailableOf calendar 0 ds
      | left + 1 => d :: unavailableOf calendar left ds
    else d :: unavailableOf calendar left ds

/-- The days from `start` on, within the window, on which no move can be booked. -/
def Calendar.unavailable (calendar : Calendar) (start : Date) : List Date :=
  unavailableOf calendar shortFuse (windowFrom start)

end Relocation
