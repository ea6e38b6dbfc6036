-- The versions of records. A version counts the changes of its record in 64 bits. How
-- the program is built decides what becomes of a count that does not fit.
import Relocation.Failure

namespace Relocation

/-- How the program is built. -/
class Build where
  /-- Whether a sum that does not fit panics. Otherwise the bits that do not fit are lost. -/
  checked : Bool

/-- Where no build is named, sums are checked, and what overflows comes to no end. -/
instance (priority := low) Build.withChecks : Build := ⟨true⟩

namespace Version

/-- How many versions there are. -/
def count : Nat := 18446744073709551616

section

variable [Build] {v : Nat}

/-- Whether a record of version `v` can be changed once more without a panic. -/
def HasNext (v : Nat) : Prop := v + 1 < count ∨ Build.checked = false

instance (v : Nat) : Decidable (HasNext v) := inferInstanceAs (Decidable (_ ∨ _))

/-- The version after `v`, if there is one. Without checks the last is followed by 0. -/
def next (v : Nat) : Except Failure Nat :=
  if HasNext v then .ok ((v + 1) % count) else .error .overflow

theorem next_of_hasNext (h : HasNext v) : next v = .ok ((v + 1) % count) := if_pos h

theorem next_of_not_hasNext (h : ¬ HasNext v) : next v = .error .overflow := if_neg h

/-- Whether a record of version `v` can be changed `n` times more without a panic. -/
def HasRoom (v n : Nat) : Prop := v + n < count ∨ Build.checked = false

theorem hasNext_of_hasRoom {n : Nat} (h : HasRoom v (n + 1)) : HasNext v :=
  h.imp_left fun hlt => by omega

theorem hasRoom_succ {n : Nat} (h : HasRoom v (n + 1)) : HasRoom ((v + 1) % count) n := by
  refine h.imp_left fun hlt => ?_
  rw [Nat.mod_eq_of_lt (by omega)]
  omega

/-- The version that `n` counts lead to from 0. With checks they end at the last version,
where each further one panics. Without checks they start again at 0. -/
def ofCount (n : Nat) : Nat := if Build.checked then min n (count - 1) else n % count

theorem ofCount_of_lt {n : Nat} (h : n < count) : ofCount n = n := by
  unfold ofCount
  split
  · exact Nat.min_eq_left (Nat.le_sub_one_of_lt h)
  · exact Nat.mod_eq_of_lt h

theorem ofCount_lt (n : Nat) : ofCount n < count := by
  unfold ofCount count
  split <;> omega

/-- One count more. -/
theorem ofCount_succ (n : Nat) : ofCount (n + 1) =
    if HasNext (ofCount n) then (ofCount n + 1) % count else ofCount n := by
  by_cases h : Build.checked = true
  · simp only [ofCount, HasNext, count, h, if_true, Bool.true_eq_false, or_false]
    split <;> omega
  · simp [ofCount, HasNext, Bool.eq_false_iff.mpr h]

end

/-- With checks no version comes again. -/
theorem succ_eq_of_hasNext {v : Nat} (h : HasNext v) : (v + 1) % count = v + 1 := by
  rcases h with h | h
  · exact Nat.mod_eq_of_lt h
  · cases h

end Version

/-! ## Changes in place

An operation on a record in place answers, and leaves the record as it is afterwards,
also where the answer is a failure. -/

/-- The record afterwards, if the operation does not fail. -/
def afterwards {α ρ : Type} : Except Failure α × ρ → Except Failure ρ
  | (.ok _, record) => .ok record
  | (.error failure, _) => .error failure

end Relocation
