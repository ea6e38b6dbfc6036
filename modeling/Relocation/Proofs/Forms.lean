-- The written forms of dates, timestamps and ids are read back as what was written,
-- over the whole range of dates, with leap seconds and any fraction of a second.
import Relocation.Id
import Relocation.Proofs.Numerals
import Relocation.Time.Timestamp

namespace Relocation

open Text (EndsDigits endsDigits_cons padded)

/-! ## The parts of a date -/

namespace Date

/-- The month of a day of the year is one that it lies in. -/
theorem day_in_month {leap : Bool} {day : Int} {m : Nat} (hday : 0 < day)
    (hm : day ≤ daysBeforeMonth leap (m + 1)) :
    1 ≤ monthOfDay leap day m ∧ monthOfDay leap day m ≤ m ∧
      daysBeforeMonth leap (monthOfDay leap day m) < day ∧
      day ≤ daysBeforeMonth leap (monthOfDay leap day m + 1) := by
  induction m with
  | zero =>
    have hnone : daysBeforeMonth leap 1 = 0 := rfl
    rw [hnone] at hm
    omega
  | succ m ih =>
    unfold monthOfDay
    split
    · rename_i h
      exact ⟨Nat.succ_pos m, Nat.le_refl _, h, hm⟩
    · rename_i h
      obtain ⟨hpos, hle, hin⟩ := ih (Int.not_lt.mp h)
      exact ⟨hpos, Nat.le_succ_of_le hle, hin⟩

/-- A date is the one of its year, its month and its day. -/
theorem ofYmd?_self (d : Date) : ofYmd? d.year d.month d.day = some d := by
  obtain ⟨hafter, hbefore⟩ := d.number_in_year
  rw [daysBeforeYear_succ] at hbefore
  have hpos : 0 < d.dayOfYear := by
    unfold dayOfYear
    omega
  have hle : d.dayOfYear ≤ daysBeforeMonth (isLeapYear d.year) 13 := by
    unfold dayOfYear
    omega
  obtain ⟨hfirst, hlast, hin, hends⟩ := day_in_month hpos hle
  rw [ofYmd?_eq_some_iff]
  unfold day month monthLength at *
  unfold dayOfYear at *
  exact ⟨⟨hfirst, hlast, by omega, by omega⟩, by omega⟩

theorem month_lt (d : Date) : d.month < 10 ^ 2 := by
  have hmonth := (ofYmd?_eq_some_iff.mp d.ofYmd?_self).1.2.1
  omega

theorem day_lt (d : Date) : d.day < 10 ^ 2 := by
  have hday := (ofYmd?_eq_some_iff.mp d.ofYmd?_self).1.2.2.2
  have hlength := monthLength_le (isLeapYear d.year) d.month
  omega

/-! ## Dates -/

theorem readYear_yearChars (y : Int) {r : List Char} (hr : EndsDigits r) :
    readYear (yearChars y ++ r) = some (y, r) := by
  have hsigned : ∀ n : Nat, Text.readNumber (padded 4 n ++ r).length (padded 4 n ++ r) =
      some (n, r) := fun n => Text.readNumber_padded (by simp) (.inr hr)
  by_cases hfour : 0 ≤ y ∧ y ≤ 9999
  · -- Four digits, of which the first is no sign.
    have hread : Text.readNumber 4 (padded 4 y.toNat ++ r) = some (y.toNat, r) :=
      Text.readNumber_padded_self (by decide) (by omega)
    rw [yearChars, if_pos hfour, readYear, Text.skipBlanks_padded]
    split
    · rename_i hsign
      exact absurd hsign (Text.padded_append_ne_cons rfl)
    · rename_i hsign
      exact absurd hsign (Text.padded_append_ne_cons rfl)
    · rw [hread, Option.map_some, Int.toNat_of_nonneg hfour.1]
  · rw [yearChars, if_neg hfour]
    by_cases hneg : y < 0
    · rw [if_pos hneg]
      change (Text.readNumber (padded 4 y.natAbs ++ r).length (padded 4 y.natAbs ++ r)).map _ = _
      rw [hsigned, Option.map_some]
      congr 2
      omega
    · rw [if_neg hneg]
      change (Text.readNumber (padded 4 y.natAbs ++ r).length (padded 4 y.natAbs ++ r)).map _ = _
      rw [hsigned, Option.map_some]
      congr 2
      omega

theorem read_chars (d : Date) (r : List Char) : read (d.chars ++ r) = some (d, r) := by
  have hchars : d.chars ++ r = yearChars d.year ++
      '-' :: (padded 2 d.month ++ '-' :: (padded 2 d.day ++ r)) := by
    simp [chars]
  have hends : EndsDigits ('-' :: (padded 2 d.month ++ '-' :: (padded 2 d.day ++ r))) :=
    endsDigits_cons rfl
  have hdash : ∀ cs, Text.readMark '-' ('-' :: cs) = some cs :=
    fun cs => Text.readMark_cons (by decide) cs
  rw [hchars]
  simp only [read, readYear_yearChars d.year hends, hdash,
    Text.readSpacedNumber_padded (by decide) d.month_lt,
    Text.readSpacedNumber_padded (by decide) d.day_lt, ofYmd?_self, bind, Option.bind]

theorem parse?_text (d : Date) : parse? d.text = some d := by
  have hread := d.read_chars []
  rw [List.append_nil] at hread
  simp [parse?, text, hread, Text.skipBlanks]

theorem ofJson?_toJson (d : Date) : ofJson? d.toJson = some d := by
  simp [toJson, ofJson?, Json.str?, parse?_text]

end Date

/-! ## Timestamps -/

namespace Timestamp

theorem readFraction_fractionChars (nano : Nat) (h : nano < 1000000000) (r : List Char) :
    readFraction (fractionChars nano ++ 'Z' :: r) = some (nano, 'Z' :: r) := by
  -- The digits that are left out at the end are zeros.
  have hpoint : ∀ width n : Nat, 0 < width → width ≤ 9 → n < 10 ^ width →
      readFraction ('.' :: padded width n ++ 'Z' :: r) =
        some (n * Nat.pow 10 (9 - width), 'Z' :: r) := by
    intro width n hpos hle hn
    have hlength := Text.length_padded hpos hn
    have hspan : Text.spanDigits 9 (padded width n ++ 'Z' :: r) = (padded width n, 'Z' :: r) :=
      Text.spanDigits_append (Text.isDigit_of_mem_padded width n) (by omega)
        (.inr (endsDigits_cons rfl))
    simp only [readFraction, List.cons_append, hspan]
    rcases hds : padded width n with _ | ⟨c, ds⟩
    · exact absurd hds (Text.padded_ne_nil width n)
    · simp only [← hds, Text.ofDigitChars_padded, hlength]
      rfl
  unfold fractionChars
  split
  · subst nano
    rfl
  · split
    · rw [hpoint 3 (nano / 1000000) (by decide) (by decide) (by omega)]
      simp only [Nat.reduceSub, Nat.pow_eq, Nat.reducePow]
      congr 2
      omega
    · split
      · rw [hpoint 6 (nano / 1000) (by decide) (by decide) (by omega)]
        simp only [Nat.reduceSub, Nat.pow_eq, Nat.reducePow]
        congr 2
        omega
      · rw [hpoint 9 nano (by decide) (by decide) (by omega)]
        simp

/-! ### Leap seconds -/

theorem reread_of_leapIsSixty {t : Timestamp} (h : t.LeapIsSixty) : t.reread = t := if_pos h

/-- The fields of an instant that its text does not say. -/
theorem fields_reread {t : Timestamp} (h : ¬ t.LeapIsSixty) :
    t.reread.second.val = t.second + 1 ∧ t.reread.nano.val = t.nano - 1000000000 := by
  rw [reread, if_neg h]
  unfold LeapIsSixty writtenSecond at h
  unfold writtenSecond
  constructor
  · change (t.second.val + t.nano.val / 1000000000) % 60 = _
    omega
  · change (t.nano.val - 1000000000) % 2000000000 = _
    omega

/-- The text says the instant exactly if a leap second in it is second 60. -/
theorem reread_eq_self_iff {t : Timestamp} : t.reread = t ↔ t.LeapIsSixty := by
  refine ⟨fun h => Decidable.byContradiction fun hleap => ?_, reread_of_leapIsSixty⟩
  have hsecond := (fields_reread hleap).1
  rw [h] at hsecond
  omega

theorem leapIsSixty_reread (t : Timestamp) : t.reread.LeapIsSixty := by
  by_cases h : t.LeapIsSixty
  · rwa [reread_of_leapIsSixty h]
  · intro hnano
    rw [(fields_reread h).2] at hnano
    omega

/-- The instant that the text says is written as the same text. -/
theorem text_reread (t : Timestamp) : t.reread.text = t.text := by
  by_cases h : t.LeapIsSixty
  · rw [reread_of_leapIsSixty h]
  · obtain ⟨hsecond, hnano⟩ := fields_reread h
    have hwritten : t.reread.writtenSecond = t.writtenSecond := by
      unfold LeapIsSixty at h
      unfold writtenSecond
      omega
    have hfraction : t.reread.nano.val % 1000000000 = t.nano.val % 1000000000 := by
      unfold LeapIsSixty at h
      omega
    have hrest : t.reread.date = t.date ∧ t.reread.hour = t.hour ∧ t.reread.minute = t.minute := by
      rw [reread, if_neg h]
      exact ⟨rfl, rfl, rfl⟩
    unfold text chars
    rw [hwritten, hfraction, hrest.1, hrest.2.1, hrest.2.2]

/-! ### Texts -/

theorem ofLocal?_self {t : Timestamp} (h : t.LeapIsSixty) :
    ofLocal? t.date t.hour t.minute t.writtenSecond (t.nano % 1000000000) 0 = some t := by
  rcases t with ⟨date, hour, minute, second, nano⟩
  have hsame : date.addDays? 0 = some date := Date.addDays?_eq_some_iff.mpr (Int.add_zero _).symm
  have hday : (60 * (hour : Int) + (minute : Int) - 0) / 1440 = 0 := by omega
  have hwithin : ((60 * (hour : Int) + (minute : Int) - 0) % 1440).toNat = 60 * hour + minute := by
    omega
  unfold LeapIsSixty writtenSecond at h
  unfold ofLocal? writtenSecond
  simp only at h ⊢
  rw [if_pos ⟨hour.isLt, minute.isLt, by omega, by omega⟩]
  have hhour : Fin.ofNat 24 ((60 * (hour : Nat) + minute) / 60) = hour := by
    apply Fin.ext
    simp only [Fin.val_ofNat]
    omega
  have hminute : Fin.ofNat 60 (60 * (hour : Nat) + minute) = minute := by
    apply Fin.ext
    simp only [Fin.val_ofNat]
    omega
  have hsecond : Fin.ofNat 60 (min (second.val + nano.val / 1000000000) 59) = second := by
    apply Fin.ext
    simp only [Fin.val_ofNat]
    omega
  have hnano : Fin.ofNat 2000000000 (if second.val + nano.val / 1000000000 = 60 then
      1000000000 + nano.val % 1000000000 else nano.val % 1000000000) = nano := by
    apply Fin.ext
    simp only [Fin.val_ofNat]
    split <;> omega
  simp only [hday, hsame, hwithin, hhour, hminute, hsecond, hnano, Option.map_some]

theorem parse?_text_of_leapIsSixty {t : Timestamp} (h : t.LeapIsSixty) : parse? t.text = some t := by
  have hcolon : ∀ cs, Text.readMark ':' (':' :: cs) = some cs :=
    fun cs => Text.readMark_cons (by decide) cs
  have hhour : (t.hour : Nat) < 10 ^ 2 := by omega
  have hminute : (t.minute : Nat) < 10 ^ 2 := by omega
  have hsecond : t.writtenSecond < 10 ^ 2 := by
    unfold writtenSecond
    omega
  have hnano : t.nano.val % 1000000000 < 1000000000 := Nat.mod_lt _ (by decide)
  have hend : Text.skipBlanks ['Z'] = ['Z'] := by decide
  simp only [parse?, text, String.toList_ofList, chars, Date.read_chars, readDivider, hcolon,
    Text.readSpacedNumber_padded (by decide) hhour, Text.readSpacedNumber_padded (by decide) hminute,
    Text.readSpacedNumber_padded (by decide) hsecond, readFraction_fractionChars _ hnano,
    hend, readOffset, bind, Option.bind]
  exact ofLocal?_self h

theorem parse?_text (t : Timestamp) : parse? t.text = some t.reread := by
  rw [← text_reread, parse?_text_of_leapIsSixty t.leapIsSixty_reread]

theorem ofJson?_toJson {t : Timestamp} (h : t.LeapIsSixty) : ofJson? t.toJson = some t := by
  simp [toJson, ofJson?, Json.str?, parse?_text_of_leapIsSixty h]

end Timestamp

/-! ## Ids -/

namespace Uuid

theorem ofDigits?_fixed (u : Uuid) : ofDigits? (Text.Hex.fixed 32 u.value) = some u := by
  have hlt : u.value < 16 ^ 32 := u.lt
  unfold ofDigits?
  rw [if_pos (Text.Hex.length_fixed 32 u.value), Text.Hex.read?_fixed hlt, Option.bind_some,
    dif_pos u.lt]

/-- The groups of a uuid are put together again. -/
theorem ofGroups?_append {a b c d e : List Char} (ha : a.length = 8) (hb : b.length = 4)
    (hc : c.length = 4) (hd : d.length = 4) (he : e.length = 12) :
    ofGroups? (a ++ '-' :: (b ++ '-' :: (c ++ '-' :: (d ++ '-' :: e)))) =
      ofDigits? (a ++ (b ++ (c ++ (d ++ e)))) := by
  unfold ofGroups?
  rw [if_pos (by simp [ha, hb, hc, hd, he])]
  simp (disch := omega) [ha, hb, hc, hd, List.drop_append, List.drop_of_length_le]

theorem parse?_text (u : Uuid) : parse? u.text = some u := by
  have hds := Text.Hex.length_fixed 32 u.value
  have hread := u.ofDigits?_fixed
  have hlength : u.chars.length = 36 := by simp [chars]
  have hgroups : ofGroups? u.chars = some u := by
    unfold chars
    generalize Text.Hex.fixed 32 u.value = ds at *
    have hjoin : ∀ m n, (ds.drop m).take n ++ ds.drop (m + n) = ds.drop m := fun m n => by
      rw [← List.drop_drop, List.take_append_drop]
    dsimp only
    rw [ofGroups?_append (by simp [hds]) (by simp [hds]) (by simp [hds]) (by simp [hds])
      (by simp [hds]), hjoin 16 4, hjoin 12 4, hjoin 8 4, List.take_append_drop, hread]
  unfold parse? text
  rw [String.toList_ofList]
  simp only [hlength, Nat.reduceEqDiff, if_false, if_true, hgroups]

end Uuid

theorem Id.ofJson?_toJson {kind : IdKind} (id : Id kind) : Id.ofJson? id.toJson = some id := by
  simp [toJson, ofJson?, Json.str?, text, Uuid.parse?_text]

end Relocation
