-- The text of a JSON value is read back as the value. Only numbers that are not
-- whole and garbled values are left out: their texts are not always those of JSON.
import Relocation.Json.Parser
import Relocation.Json.Printer
import Relocation.Proofs.Numerals

namespace Relocation.Json

open Text (EndsDigits takeWhile_digits dropWhile_digits isDigit_of_mem_toDigits)

/-- No part of the value is garbled or a number that is not whole, and no object
has two members of one name. -/
inductive Plain : Json → Prop
  | null : Plain .null
  | bool (b : Bool) : Plain (.bool b)
  | int (n : Int) : Plain (.int n)
  | str (s : String) : Plain (.str s)
  | arr {items : List Json} (all : ∀ x ∈ items, Plain x) : Plain (.arr items)
  | obj {members : List (String × Json)} (distinct : (members.map Prod.fst).Nodup)
      (all : ∀ m ∈ members, Plain m.2) : Plain (.obj members)

/-! ## Strings -/

theorem ofUnit_toNat {c : Char} (h : c.toNat < 0x20) : Piece.ofUnit c.toNat = .char c := by
  unfold Piece.ofUnit
  rw [if_neg (by omega), Char.ofNat_toNat]

/-- A character is read back from its escaped form. -/
theorem readPieces_escape (c : Char) (r : List Char) :
    readPieces (escape c ++ r) = (readPieces r).map fun p => (.char c :: p.1, p.2) := by
  unfold escape
  iterate 7
    split
    · subst c
      rfl
  split
  · rename_i h
    have hread : Text.Hex.read? (Text.Hex.fixed 4 c.toNat) = some c.toNat :=
      Text.Hex.read?_fixed (by omega)
    simp only [Text.Hex.fixed, List.nil_append, List.cons_append] at hread ⊢
    simp only [readPieces, hread, ofUnit_toNat h]
  · rename_i hquote hbackslash _ _ _ _ _ h
    rw [List.singleton_append, readPieces, if_neg h]
    · exact hquote
    all_goals simp [hbackslash]

theorem readPieces_flatMap (cs r : List Char) :
    readPieces (cs.flatMap escape ++ '"' :: r) = some (cs.map .char, r) := by
  induction cs with
  | nil => rfl
  | cons c cs ih =>
    rw [List.flatMap_cons, List.append_assoc, readPieces_escape, ih]
    rfl

theorem joinPieces_map_char (cs : List Char) : joinPieces (cs.map .char) = some cs := by
  induction cs with
  | nil => rfl
  | cons c cs ih => rw [List.map_cons, joinPieces, ih, Option.map_some]

theorem readString_flatMap (cs r : List Char) :
    readString (cs.flatMap escape ++ '"' :: r) = some (some cs, r) := by
  rw [readString, readPieces_flatMap, Option.map_some, joinPieces_map_char]

theorem quoteChars_append (s : String) (r : List Char) :
    quoteChars s ++ r = '"' :: (s.toList.flatMap escape ++ '"' :: r) := by
  simp [quoteChars]

theorem skipSpaces_cons {c : Char} (h : isSpace c = false) (r : List Char) :
    skipSpaces (c :: r) = c :: r := by
  simp [skipSpaces, h]

theorem readName_quoteChars (s : String) (r : List Char) :
    readName (quoteChars s ++ ':' :: r) = some (some s.toList, r) := by
  rw [quoteChars_append]
  simp only [readName, skipSpaces_cons (show isSpace '"' = false from rfl), readString_flatMap,
    skipSpaces_cons (show isSpace ':' = false from rfl)]

/-! ## Numbers -/

/-- Nothing that would go on with a number comes next. -/
def Ends (r : List Char) : Prop :=
  ∀ c ∈ r.head?, c.isDigit = false ∧ c ≠ '.' ∧ c ≠ 'e' ∧ c ≠ 'E'

theorem ends_cons {c : Char} {r : List Char}
    (h : c.isDigit = false ∧ c ≠ '.' ∧ c ≠ 'e' ∧ c ≠ 'E') : Ends (c :: r) := by
  intro d hd
  obtain rfl : c = d := by simpa using hd
  exact h

section

variable {r : List Char}

theorem readFraction_of_ends (hr : Ends r) : readFraction r = some ([], r) := by
  rcases r with _ | ⟨c, r⟩
  · rfl
  · have hc := (hr c rfl).2.1
    simp [readFraction, hc]

theorem readExponent_of_ends (hr : Ends r) : readExponent r = some ([], r) := by
  rcases r with _ | ⟨c, r⟩
  · rfl
  · obtain ⟨-, -, hlower, hupper⟩ := hr c rfl
    unfold readExponent
    split <;> simp_all

theorem exists_toDigits (n : Nat) : ∃ c ds, Nat.toDigits 10 n = c :: ds ∧ c.isDigit = true := by
  rcases hds : Nat.toDigits 10 n with _ | ⟨c, ds⟩
  · exact absurd hds Nat.toDigits_ne_nil
  · exact ⟨c, ds, rfl, isDigit_of_mem_toDigits n c (by rw [hds]; exact List.mem_cons_self)⟩

/-- A number that is not zero has no zero in front. -/
theorem head?_toDigits {n : Nat} (h : 0 < n) : (Nat.toDigits 10 n).head? ≠ some '0' := by
  induction n using Nat.strongRecOn with
  | ind n ih =>
    rw [Nat.toDigits_eq_if (by decide)]
    split
    · simp only [List.head?_cons, ne_eq, Option.some.injEq, Nat.digitChar_eq_zero]
      omega
    · have hrest := ih (n / 10) (by omega) (by omega)
      obtain ⟨c, ds, hds, -⟩ := exists_toDigits (n / 10)
      rwa [hds] at hrest ⊢

theorem wholePart_toDigits (n : Nat) : wholePart (Nat.toDigits 10 n) = true := by
  rcases Nat.eq_zero_or_pos n with rfl | hpos
  · rfl
  · have hhead := head?_toDigits hpos
    obtain ⟨c, ds, hds, -⟩ := exists_toDigits n
    rw [hds, List.head?_cons] at hhead
    rw [hds]
    unfold wholePart
    split
    · simp_all
    · rfl
    · simp_all

theorem readUnsigned_toDigits {negative : Bool} {n : Nat} (hzero : negative = true → 0 < n)
    (hr : Ends r) : readUnsigned negative (Nat.toDigits 10 n ++ r) =
      some (.int (if negative then -(n : Int) else n), r) := by
  have hdigits := isDigit_of_mem_toDigits n
  have hends : EndsDigits r := fun c hc => (hr c hc).1
  have hnonzero : ¬ (negative = true ∧ Nat.toDigits 10 n = ['0']) := by
    rintro ⟨hneg, hds⟩
    exact head?_toDigits (hzero hneg) (by rw [hds]; rfl)
  simp only [readUnsigned, digits, afterDigits, takeWhile_digits hdigits hends,
    dropWhile_digits hdigits hends, wholePart_toDigits, readFraction_of_ends hr,
    readExponent_of_ends hr, hnonzero, Nat.ofDigitChars_ten_toDigits, if_true, not_false_eq_true,
    and_self]

/-- The characters of a whole number. -/
theorem chars_int (n : Int) : chars (.int n) =
    if 0 ≤ n then Nat.toDigits 10 n.toNat else '-' :: Nat.toDigits 10 (-n).toNat := by
  rw [chars, Int.toString_eq_repr, Int.repr_eq_if]
  split
  · exact Nat.toList_repr
  · simp

theorem ne_of_isDigit {c d : Char} (hc : c.isDigit = true) (hd : d.isDigit = false) : c ≠ d := by
  rintro rfl
  rw [hc] at hd
  cases hd

/-- A number begins with a sign or a digit. -/
theorem exists_chars_int (n : Int) :
    ∃ c cs, chars (.int n) = c :: cs ∧ (c = '-' ∨ c.isDigit = true) := by
  rw [chars_int]
  split
  · obtain ⟨c, ds, hds, hc⟩ := exists_toDigits n.toNat
    exact ⟨c, ds, hds, .inr hc⟩
  · exact ⟨_, _, rfl, .inl rfl⟩

theorem readNumber_of_isDigit {c : Char} (hc : c.isDigit = true) (cs : List Char) :
    readNumber (c :: cs) = readUnsigned false (c :: cs) := by
  unfold readNumber
  split
  · rename_i h
    exact absurd (List.cons.inj h).1 (ne_of_isDigit hc rfl)
  · rfl

theorem readNumber_chars_int (n : Int) (hr : Ends r) :
    readNumber (chars (.int n) ++ r) = some (.int n, r) := by
  rw [chars_int]
  by_cases hn : 0 ≤ n
  · have hread : readUnsigned false (Nat.toDigits 10 n.toNat ++ r) = _ :=
      readUnsigned_toDigits (by simp) hr
    obtain ⟨c, ds, hds, hc⟩ := exists_toDigits n.toNat
    rw [hds, List.cons_append] at hread
    rw [if_pos hn, hds, List.cons_append, readNumber_of_isDigit hc, hread, if_neg (by decide),
      Int.toNat_of_nonneg hn]
  · have hread : readUnsigned true (Nat.toDigits 10 (-n).toNat ++ r) = _ :=
      readUnsigned_toDigits (fun _ => by omega) hr
    have hneg : -((-n).toNat : Int) = n := by omega
    rw [if_pos rfl, hneg] at hread
    rw [if_neg hn]
    exact hread

end

/-! ## Values -/

theorem isSpace_of_number {c : Char} (hc : c = '-' ∨ c.isDigit = true) : isSpace c = false := by
  rcases hc with rfl | hc
  · rfl
  · simp [isSpace, ne_of_isDigit hc]

theorem readValue_of_number {c : Char} (hc : c = '-' ∨ c.isDigit = true) (n : Nat)
    (cs : List Char) : readValue (n + 1) (c :: cs) = readNumber (c :: cs) := by
  rw [readValue, skipSpaces_cons (isSpace_of_number hc)]
  split
  case h_7 => rfl
  all_goals
    rename_i h
    obtain ⟨rfl, -⟩ := List.cons.inj h
    simp at hc

/-- The text of a plain value begins with no blank and no closing bracket. -/
theorem Plain.exists_chars {x : Json} (h : Plain x) :
    ∃ c cs, chars x = c :: cs ∧ isSpace c = false ∧ c ≠ ']' := by
  cases h with
  | null => exact ⟨_, _, rfl, rfl, by decide⟩
  | bool b => cases b <;> exact ⟨_, _, rfl, rfl, by decide⟩
  | int n =>
    obtain ⟨c, cs, hcs, hc⟩ := exists_chars_int n
    refine ⟨c, cs, hcs, isSpace_of_number hc, ?_⟩
    rintro rfl
    simp at hc
  | str s => exact ⟨_, _, rfl, rfl, by decide⟩
  | @arr items => cases items <;> exact ⟨_, _, rfl, rfl, by decide⟩
  | @obj members => rcases members with _ | ⟨⟨name, x⟩, rest⟩ <;> exact ⟨_, _, rfl, rfl, by decide⟩

/-- The value is read back from its characters, whatever comes after them. -/
def ReadsBack (x : Json) : Prop :=
  ∀ n r, (chars x).length ≤ n → Ends r → readValue n (chars x ++ r) = some (x, r)

theorem readsBack_int (m : Int) : ReadsBack (.int m) := by
  intro n r hn hr
  obtain ⟨c, cs, hcs, hc⟩ := exists_chars_int m
  rcases n with _ | n
  · simp [hcs] at hn
  · rw [← readNumber_chars_int m hr, hcs, List.cons_append, readValue_of_number hc]

theorem readsBack_str (s : String) : ReadsBack (.str s) := by
  intro n r hn hr
  rw [chars] at hn ⊢
  rcases n with _ | n
  · simp [quoteChars] at hn
  · rw [quoteChars_append]
    simp only [readValue, skipSpaces_cons (show isSpace '"' = false from rfl), readString_flatMap,
      Option.map_some, ofChars, String.ofList_toList]

theorem ends_itemsChars (xs : List Json) (r : List Char) : Ends (itemsChars xs ++ ']' :: r) := by
  cases xs <;> exact ends_cons (by decide)

theorem ends_membersChars (ms : List (String × Json)) (r : List Char) :
    Ends (membersChars ms ++ '\x7d' :: r) := by
  cases ms <;> exact ends_cons (by decide)

/-- The items after the first are read back with the closing bracket. -/
theorem readItems_itemsChars {xs : List Json} (hxs : ∀ x ∈ xs, ReadsBack x) {n : Nat}
    {r : List Char} (hn : (itemsChars xs).length < n) :
    readItems n (itemsChars xs ++ ']' :: r) = some (xs, r) := by
  induction xs generalizing n with
  | nil =>
    rcases n with _ | n
    · simp at hn
    · rfl
  | cons x xs ih =>
    obtain ⟨hx, hrest⟩ := List.forall_mem_cons.mp hxs
    rcases n with _ | n
    · simp at hn
    · simp only [itemsChars, List.length_cons, List.length_append] at hn
      have hread := hx n _ (by omega) (ends_itemsChars xs r)
      have hmore : readItems n (itemsChars xs ++ ']' :: r) = some (xs, r) := ih hrest (by omega)
      have hspace : isSpace ',' = false := rfl
      simp only [itemsChars, List.cons_append, List.append_assoc, readItems,
        skipSpaces_cons hspace, hread, hmore, Option.map_some]

/-- The members after the first are read back with the closing brace. -/
theorem readMembers_membersChars {ms : List (String × Json)} (hms : ∀ m ∈ ms, ReadsBack m.2)
    {n : Nat} {r : List Char} (hn : (membersChars ms).length < n) :
    readMembers n (membersChars ms ++ '\x7d' :: r) = some (some ms, r) := by
  induction ms generalizing n with
  | nil =>
    rcases n with _ | n
    · simp at hn
    · rfl
  | cons m ms ih =>
    obtain ⟨hm, hrest⟩ := List.forall_mem_cons.mp hms
    obtain ⟨name, x⟩ := m
    rcases n with _ | n
    · simp at hn
    · simp only [membersChars, List.length_cons, List.length_append] at hn
      have hread := hm n _ (by dsimp only; omega) (ends_membersChars ms r)
      have hmore : readMembers n (membersChars ms ++ '\x7d' :: r) = some (some ms, r) :=
        ih hrest (by omega)
      have hspace : isSpace ',' = false := rfl
      simp only [membersChars, List.cons_append, List.append_assoc, readMembers,
        skipSpaces_cons hspace, readName_quoteChars, hread, hmore, Option.map_some]
      simp [consMember]

theorem readValue_bracket {n : Nat} {c : Char} {cs : List Char} (hspace : isSpace c = false)
    (hc : c ≠ ']') : readValue (n + 1) ('[' :: c :: cs) =
      match readValue n (c :: cs) with
      | none => none
      | some (x, r) => (readItems n r).map fun p => (.arr (x :: p.1), p.2) := by
  rw [readValue, skipSpaces_cons rfl]
  simp only [skipSpaces_cons hspace]
  split
  · rename_i h
    exact absurd (List.cons.inj h).1 hc
  · rfl

theorem readsBack_arr {items : List Json} (hplain : ∀ x ∈ items, Plain x)
    (hitems : ∀ x ∈ items, ReadsBack x) : ReadsBack (.arr items) := by
  intro n r hn hr
  rcases n with _ | n
  · cases items <;> simp [chars] at hn
  · cases items with
    | nil => rfl
    | cons x xs =>
      obtain ⟨hx, hrest⟩ := List.forall_mem_cons.mp hitems
      obtain ⟨c, cs, hcs, hspace, hc⟩ := (hplain x List.mem_cons_self).exists_chars
      simp only [chars, List.length_cons, List.length_append, List.length_nil] at hn
      have hread := hx n _ (by omega) (ends_itemsChars xs r)
      have hmore : readItems n (itemsChars xs ++ ']' :: r) = some (xs, r) :=
        readItems_itemsChars hrest (by omega)
      simp only [chars, List.cons_append, List.append_assoc, List.nil_append]
      rw [hcs, List.cons_append] at hread ⊢
      rw [readValue_bracket hspace hc, hread]
      simp only [hmore, Option.map_some]

theorem readValue_brace (n : Nat) (cs : List Char) : readValue (n + 1) ('\x7b' :: '"' :: cs) =
    match readName ('"' :: cs) with
    | none => none
    | some (name, r) =>
      match readValue n r with
      | none => none
      | some (x, r) =>
        (readMembers n r).map fun p => (ofMembers (consMember name x p.1), p.2) := by
  have hquote : skipSpaces ('"' :: cs) = '"' :: cs := skipSpaces_cons rfl cs
  rw [readValue, skipSpaces_cons rfl]
  simp only [hquote]
  rfl

theorem readsBack_obj {members : List (String × Json)}
    (hmembers : ∀ m ∈ members, ReadsBack m.2) : ReadsBack (.obj members) := by
  intro n r hn hr
  rcases n with _ | n
  · rcases members with _ | ⟨⟨name, x⟩, rest⟩ <;> simp [chars] at hn
  · rcases members with _ | ⟨⟨name, x⟩, rest⟩
    · rfl
    · obtain ⟨hx, hrest⟩ := List.forall_mem_cons.mp hmembers
      simp only [chars, List.length_cons, List.length_append, List.length_nil] at hn
      have hread := hx n _ (by dsimp only; omega) (ends_membersChars rest r)
      have hmore : readMembers n (membersChars rest ++ '\x7d' :: r) = some (some rest, r) :=
        readMembers_membersChars hrest (by omega)
      have hname := readName_quoteChars name (chars x ++ (membersChars rest ++ '\x7d' :: r))
      rw [quoteChars_append] at hname
      simp only [chars, List.cons_append, List.append_assoc, List.nil_append, quoteChars_append]
      rw [readValue_brace, hname]
      simp only [hread, hmore, Option.map_some]
      simp [consMember, ofMembers]

theorem Plain.readsBack {x : Json} (h : Plain x) : ReadsBack x := by
  induction h with
  | null =>
    intro n r hn hr
    rcases n with _ | n
    · simp [chars] at hn
    · rfl
  | bool b =>
    intro n r hn hr
    rcases n with _ | n
    · cases b <;> simp [chars] at hn
    · cases b <;> rfl
  | int m => exact readsBack_int m
  | str s => exact readsBack_str s
  | arr all ih => exact readsBack_arr all ih
  | obj distinct all ih => exact readsBack_obj ih

/-- The text of a plain value writes that value. -/
theorem Plain.parse?_render {x : Json} (h : Plain x) : parse? x.render = some x := by
  have hread := h.readsBack (x.chars.length + 1) [] (Nat.le_succ _) (by simp [Ends])
  rw [List.append_nil] at hread
  simp [parse?, render, hread, skipSpaces]

/-! ## Repeated names -/

theorem lastWinsItems_of_fixed {xs : List Json} (h : ∀ x ∈ xs, lastWins x = x) :
    lastWinsItems xs = xs := by
  induction xs with
  | nil => rfl
  | cons x xs ih =>
    obtain ⟨hx, hrest⟩ := List.forall_mem_cons.mp h
    rw [lastWinsItems, hx, ih hrest]

theorem lastWinsMembers_of_fixed {ms : List (String × Json)} (hdistinct : (ms.map Prod.fst).Nodup)
    (h : ∀ m ∈ ms, lastWins m.2 = m.2) : lastWinsMembers ms = ms := by
  induction ms with
  | nil => rfl
  | cons m ms ih =>
    obtain ⟨name, x⟩ := m
    obtain ⟨hx, hrest⟩ := List.forall_mem_cons.mp h
    rw [List.map_cons, List.nodup_cons] at hdistinct
    have hnone : (ms.any fun m => m.1 = name) = false := by
      rw [List.any_eq_false]
      intro m hm hname
      have hmem : m.1 ∈ ms.map Prod.fst := List.mem_map_of_mem hm
      exact hdistinct.1 (of_decide_eq_true hname ▸ hmem)
    rw [lastWinsMembers, hnone, if_neg (by decide), ih hdistinct.2 hrest]
    exact congrArg (fun y => (name, y) :: ms) hx

/-- No object, however deep, has two members of one name. -/
inductive NoRepeats : Json → Prop
  | null : NoRepeats .null
  | bool (b : Bool) : NoRepeats (.bool b)
  | int (n : Int) : NoRepeats (.int n)
  | decimal (written : String) : NoRepeats (.decimal written)
  | str (s : String) : NoRepeats (.str s)
  | arr {items : List Json} (all : ∀ x ∈ items, NoRepeats x) : NoRepeats (.arr items)
  | obj {members : List (String × Json)} (distinct : (members.map Prod.fst).Nodup)
      (all : ∀ m ∈ members, NoRepeats m.2) : NoRepeats (.obj members)
  | garbled : NoRepeats .garbled

/-- Where no name is repeated there is nothing to settle. -/
theorem NoRepeats.lastWins_eq {x : Json} (h : NoRepeats x) : lastWins x = x := by
  induction h with
  | null | bool b | int n | decimal w | str s | garbled => rfl
  | arr all ih => rw [lastWins, lastWinsItems_of_fixed ih]
  | obj distinct all ih => rw [lastWins, lastWinsMembers_of_fixed distinct ih]

theorem Plain.noRepeats {x : Json} (h : Plain x) : NoRepeats x := by
  induction h with
  | null => exact .null
  | bool b => exact .bool b
  | int n => exact .int n
  | str s => exact .str s
  | arr all ih => exact .arr ih
  | obj distinct all ih => exact .obj distinct ih

theorem Plain.lastWins_eq {x : Json} (h : Plain x) : lastWins x = x := h.noRepeats.lastWins_eq

end Relocation.Json
