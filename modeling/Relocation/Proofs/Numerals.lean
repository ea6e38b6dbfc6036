-- Numbers in text are read back: hexadecimal digits of a fixed count, and decimal
-- digits with zeros in front or without.
import Mathlib.Algebra.Group.Nat.Defs
import Relocation.Text.Decimal
import Relocation.Text.Hex

namespace Relocation.Text

/-! ## Hexadecimal digits -/

namespace Hex

theorem digit?_digitChar : ∀ d < 16, digit? (Nat.digitChar d) = some d := by decide

theorem readFrom_append (m : Nat) (xs ys : List Char) :
    readFrom m (xs ++ ys) = (readFrom m xs).bind fun n => readFrom n ys := by
  induction xs generalizing m with
  | nil => rfl
  | cons c xs ih =>
    rw [List.cons_append, readFrom, readFrom]
    rcases digit? c with _ | d
    · rfl
    · exact ih (16 * m + d)

theorem readFrom_fixed (m : Nat) {width n : Nat} (h : n < 16 ^ width) :
    readFrom m (fixed width n) = some (16 ^ width * m + n) := by
  induction width generalizing n with
  | zero =>
    obtain rfl : n = 0 := by simpa using h
    simp [fixed, readFrom]
  | succ width ih =>
    have hlt : n / 16 < 16 ^ width := by
      rw [Nat.pow_succ] at h
      omega
    have hpow : 16 ^ (width + 1) * m = 16 * (16 ^ width * m) := by
      rw [Nat.pow_succ', Nat.mul_assoc]
    rw [fixed, readFrom_append, ih hlt, Option.bind_some, readFrom,
      digit?_digitChar _ (Nat.mod_lt _ (by decide)), Option.bind_some, readFrom, hpow]
    congr 1
    omega

theorem read?_fixed {width n : Nat} (h : n < 16 ^ width) : read? (fixed width n) = some n := by
  rw [read?, readFrom_fixed 0 h, Nat.mul_zero, Nat.zero_add]

end Hex

/-! ## Decimal digits -/

/-- What comes next is no digit. -/
def EndsDigits (r : List Char) : Prop := ∀ c ∈ r.head?, c.isDigit = false

theorem endsDigits_cons {c : Char} {r : List Char} (h : c.isDigit = false) :
    EndsDigits (c :: r) := by
  intro d hd
  obtain rfl : c = d := by simpa using hd
  exact h

section

variable {ds r : List Char} {width most n : Nat}

theorem takeWhile_digits (hds : ∀ c ∈ ds, c.isDigit = true) (hr : EndsDigits r) :
    (ds ++ r).takeWhile Char.isDigit = ds := by
  rw [List.takeWhile_append_of_pos hds]
  rcases r with _ | ⟨c, r⟩
  · simp
  · simp [hr c rfl]

theorem dropWhile_digits (hds : ∀ c ∈ ds, c.isDigit = true) (hr : EndsDigits r) :
    (ds ++ r).dropWhile Char.isDigit = r := by
  rw [List.dropWhile_append_of_pos hds]
  rcases r with _ | ⟨c, r⟩
  · rfl
  · simp [hr c rfl]

theorem spanDigits_append (hds : ∀ c ∈ ds, c.isDigit = true) (hmost : ds.length ≤ most)
    (hr : ds.length = most ∨ EndsDigits r) : spanDigits most (ds ++ r) = (ds, r) := by
  have htaken : ((ds ++ r).take most).takeWhile Char.isDigit = ds := by
    rcases hr with rfl | hr
    · rw [List.take_left]
      have hall := takeWhile_digits (r := []) hds (by simp [EndsDigits])
      rwa [List.append_nil] at hall
    · rw [List.take_append, List.take_of_length_le hmost]
      refine takeWhile_digits hds fun c hc => hr c ?_
      rcases r with _ | ⟨d, r⟩
      · simp at hc
      · rcases hmore : most - ds.length with _ | more
        · simp [hmore] at hc
        · simpa [hmore] using hc
  simp only [spanDigits, htaken, List.drop_left]

theorem isDigit_of_mem_toDigits (n : Nat) : ∀ c ∈ Nat.toDigits 10 n, c.isDigit = true :=
  fun _ => Nat.isDigit_of_mem_toDigits (by decide) (by decide)

theorem isDigit_of_mem_padded (width n : Nat) : ∀ c ∈ padded width n, c.isDigit = true := by
  intro c hc
  rcases List.mem_append.mp hc with hc | hc
  · rw [List.eq_of_mem_replicate hc]
    rfl
  · exact isDigit_of_mem_toDigits n c hc

theorem ofDigitChars_padded (width n : Nat) : Nat.ofDigitChars 10 (padded width n) 0 = n := by
  rw [padded, Nat.ofDigitChars_append, Nat.ofDigitChars_replicate_zero, Nat.mul_zero,
    Nat.ofDigitChars_ten_toDigits]

theorem length_padded (hwidth : 0 < width) (h : n < 10 ^ width) : (padded width n).length = width := by
  have hle := (Nat.length_toDigits_le_iff (by decide) hwidth).mpr h
  rw [padded, List.length_append, List.length_replicate]
  omega

theorem padded_ne_nil (width n : Nat) : padded width n ≠ [] := by
  simp [padded]

/-- Digits come first, and no other character. -/
theorem padded_append_ne_cons {c : Char} {cs : List Char} (hc : c.isDigit = false) :
    padded width n ++ r ≠ c :: cs := by
  intro h
  rcases hds : padded width n with _ | ⟨d, ds⟩
  · exact padded_ne_nil width n hds
  · have hd : d.isDigit = true :=
      isDigit_of_mem_padded width n d (by rw [hds]; exact List.mem_cons_self)
    rw [hds, List.cons_append] at h
    rw [(List.cons.inj h).1, hc] at hd
    cases hd

/-- A number is read off if it has few enough digits and ends with the last of them. -/
theorem readNumber_padded (hmost : (padded width n).length ≤ most)
    (hr : (padded width n).length = most ∨ EndsDigits r) :
    readNumber most (padded width n ++ r) = some (n, r) := by
  unfold readNumber
  rw [spanDigits_append (isDigit_of_mem_padded width n) hmost hr]
  rcases hds : padded width n with _ | ⟨c, ds⟩
  · exact absurd hds (padded_ne_nil width n)
  · simp only [← hds, ofDigitChars_padded]

/-- A number of exactly so many digits is read off. -/
theorem readNumber_padded_self (hwidth : 0 < width) (h : n < 10 ^ width) :
    readNumber width (padded width n ++ r) = some (n, r) :=
  readNumber_padded (Nat.le_of_eq (length_padded hwidth h)) (.inl (length_padded hwidth h))

end

/-! ## Blanks and marks -/

theorem isBlank_of_isDigit {c : Char} (h : c.isDigit = true) : isBlank c = false := by
  simp only [Char.isDigit, Bool.and_eq_true, decide_eq_true_eq, UInt32.le_iff_toNat_le] at h
  have hrange : 48 ≤ c.toNat ∧ c.toNat ≤ 57 := h
  rw [Bool.eq_false_iff]
  intro hblank
  simp only [isBlank, Bool.or_eq_true, Bool.and_eq_true, decide_eq_true_eq, beq_iff_eq] at hblank
  omega

theorem skipBlanks_padded (width n : Nat) (r : List Char) :
    skipBlanks (padded width n ++ r) = padded width n ++ r := by
  rcases hds : padded width n with _ | ⟨c, ds⟩
  · exact absurd hds (padded_ne_nil width n)
  · have hc : c.isDigit = true := isDigit_of_mem_padded width n c (by rw [hds]; exact List.mem_cons_self)
    simp [skipBlanks, isBlank_of_isDigit hc]

theorem readSpacedNumber_padded {width n : Nat} {r : List Char} (hwidth : 0 < width)
    (h : n < 10 ^ width) : readSpacedNumber width (padded width n ++ r) = some (n, r) := by
  rw [readSpacedNumber, skipBlanks_padded, readNumber_padded_self hwidth h]

theorem readMark_cons {c : Char} (hc : isBlank c = false) (r : List Char) :
    readMark c (c :: r) = some r := by
  simp [readMark, skipBlanks, hc]

end Relocation.Text
