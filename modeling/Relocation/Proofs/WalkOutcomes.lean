-- What comes of a walk, told from the days that lie ahead of it: all days from
-- its start to the end of the range. It takes the accepted days of the shortest
-- beginning that holds enough of them, and gives up when too many days in a row
-- are refused before, or when the range ends.
import Mathlib.Data.List.DropRight
import Mathlib.Data.List.Infix
import Relocation.Proofs.Walks

namespace Relocation

/-! ## The days ahead -/

namespace Direction

variable {dir : Direction} {d e : Date}

/-- The number of the day that lies `n` days beyond the day number `m`. -/
def beyond : Direction → (m : Int) → (n : Nat) → Int
  | .forward, m, n => m + n
  | .backward, m, n => m - n

/-- The days from `d` on in the direction, up to the end of the range. -/
def ahead (dir : Direction) (d : Date) : List Date :=
  (List.range (dir.room d + 1)).filterMap fun n => Date.ofNumber? (dir.beyond d.number n)

@[simp] theorem distance_beyond (dir : Direction) (m : Int) (n : Nat) :
    dir.distance m (dir.beyond m n) = n := by
  cases dir <;> simp only [distance, beyond] <;> omega

theorem beyond_of_distance {m k : Int} {n : Nat} (h : dir.distance m k = n) :
    dir.beyond m n = k := by
  cases dir <;> simp only [distance, beyond] at * <;> omega

/-- No day lies further beyond than there is room. -/
theorem distance_le_room (dir : Direction) (d e : Date) :
    dir.distance d.number e.number ≤ dir.room d := by
  have hfirst := e.first_le
  have hlast := e.le_last
  cases dir <;> simp only [distance, room, Date.first, Date.last] <;> omega

/-- The days ahead are those that do not lie back. -/
theorem mem_ahead : e ∈ dir.ahead d ↔ 0 ≤ dir.distance d.number e.number := by
  simp only [ahead, List.mem_filterMap, List.mem_range, Date.ofNumber?_eq_some_iff]
  constructor
  · rintro ⟨n, -, hn⟩
    rw [hn, distance_beyond]
    exact Int.natCast_nonneg n
  · intro h
    have hroom := dir.distance_le_room d e
    refine ⟨(dir.distance d.number e.number).toNat, by omega, ?_⟩
    exact (beyond_of_distance (Int.toNat_of_nonneg h).symm).symm

/-- Each of the days ahead lies beyond those before it. -/
theorem pairwise_ahead (dir : Direction) (d : Date) :
    (dir.ahead d).Pairwise fun e f => 0 < dir.distance e.number f.number := by
  unfold ahead
  rw [List.pairwise_filterMap]
  refine List.pairwise_lt_range.imp fun {m n} hmn e he f hf => ?_
  rw [Date.ofNumber?_eq_some_iff] at he hf
  have hsum := dir.distance_add d.number e.number f.number
  rw [he, hf, distance_beyond, distance_beyond] at hsum
  rw [he, hf]
  omega

theorem room_of_next? (h : dir.next? d = some e) : dir.room d = dir.room e + 1 := by
  have hone := next?_eq_some_iff.mp h
  have hfirst := e.first_le
  have hlast := e.le_last
  cases dir <;> simp only [distance, room, Date.first, Date.last] at * <;> omega

theorem room_of_next?_eq_none (h : dir.next? d = none) : dir.room d = 0 := by
  have hend := distance_le_of_next?_eq_none h
  cases dir
  · exact Int.toNat_of_nonpos (hend Date.last)
  · exact Int.toNat_of_nonpos (hend Date.first)

theorem ahead_eq_cons (dir : Direction) (d : Date) : dir.ahead d =
    d :: (List.range (dir.room d)).filterMap fun n => Date.ofNumber? (dir.beyond d.number (n + 1)) := by
  have hself : Date.ofNumber? (dir.beyond d.number 0) = some d :=
    Date.ofNumber?_eq_some_iff.mpr (beyond_of_distance (dir.distance_self d.number)).symm
  unfold ahead
  rw [List.range_succ_eq_map, List.filterMap_cons, List.filterMap_map]
  simp only [hself]
  rfl

theorem ahead_of_next? (h : dir.next? d = some e) : dir.ahead d = d :: dir.ahead e := by
  have hbeyond : ∀ n : Nat, dir.beyond d.number (n + 1) = dir.beyond e.number n := by
    intro n
    have hsum := dir.distance_add d.number e.number (dir.beyond e.number n)
    rw [next?_eq_some_iff.mp h, distance_beyond] at hsum
    exact beyond_of_distance (by omega)
  rw [ahead_eq_cons, room_of_next? h]
  simp only [hbeyond]
  rfl

theorem ahead_of_next?_eq_none (h : dir.next? d = none) : dir.ahead d = [d] := by
  rw [ahead_eq_cons, room_of_next?_eq_none h]
  rfl

end Direction

/-! ## Searches through a list of days -/

/-- What a walk does with the days that lie ahead. The last `run` days before
them were refused. -/
def search (accepts : Date → Bool) (limit : Nat) :
    (run more : Nat) → List Date → Except Nat (List Date)
  | run, _, [] => .error run
  | run, more, d :: days =>
    if accepts d then
      match more with
      | 0 => .ok [d]
      | more + 1 => (search accepts limit 0 more days).map (d :: ·)
    else if limit ≤ run + 1 then .error (run + 1)
    else search accepts limit (run + 1) more days

theorem collect_eq_search (accepts : Date → Bool) (dir : Direction) (limit : Nat) (day : Date)
    (run more : Nat) :
    collect accepts dir limit day run more = search accepts limit run more (dir.ahead day) := by
  fun_induction collect accepts dir limit day run more with
  | case1 day run haccepts => rw [Direction.ahead_eq_cons, search, if_pos haccepts]
  | case2 day run haccepts more hnone =>
    rw [Direction.ahead_of_next?_eq_none hnone, search, if_pos haccepts]
    rfl
  | case3 day run haccepts more next hnext hroom ih =>
    rw [Direction.ahead_of_next? hnext, search, if_pos haccepts, ih]
  | case4 day run more hrefuses hlimit =>
    rw [Direction.ahead_eq_cons]
    simp only [search, if_neg hrefuses, if_pos hlimit]
  | case5 day run more hrefuses hlimit hnone =>
    rw [Direction.ahead_of_next?_eq_none hnone]
    simp only [search, if_neg hrefuses, if_neg hlimit]
  | case6 day run more hrefuses hlimit next hnext hroom ih =>
    rw [Direction.ahead_of_next? hnext, ih]
    simp only [search, if_neg hrefuses, if_neg hlimit]

/-! ## Enough days, and too many refused in a row -/

/-- The shortest beginning of the days that holds `count` accepted ones. -/
structure Suffices (accepts : Date → Bool) (count : Nat) (days beginning : List Date) : Prop where
  begins : beginning <+: days
  holds : beginning.countP accepts = count
  shortest : ∀ less, less <+: beginning → less.countP accepts = count → less = beginning

/-- Of the days, `limit` in a row are refused. -/
def Tires (accepts : Date → Bool) (limit : Nat) (days : List Date) : Prop :=
  ∃ refused, refused <:+: days ∧ refused.length = limit ∧ ∀ d ∈ refused, ¬ accepts d = true

instance (accepts : Date → Bool) (count : Nat) (days beginning : List Date) :
    Decidable (Suffices accepts count days beginning) :=
  decidable_of_iff (beginning <+: days ∧ beginning.countP accepts = count ∧
    ∀ less ∈ beginning.inits, less.countP accepts = count → less = beginning) <| by
  constructor
  · rintro ⟨hbegins, hholds, hshortest⟩
    exact ⟨hbegins, hholds, fun less hless => hshortest less ((List.mem_inits _ _).mpr hless)⟩
  · rintro ⟨hbegins, hholds, hshortest⟩
    exact ⟨hbegins, hholds, fun less hless => hshortest less ((List.mem_inits _ _).mp hless)⟩

instance (accepts : Date → Bool) (limit : Nat) (days : List Date) :
    Decidable (Tires accepts limit days) :=
  decidable_of_iff (∃ rest ∈ days.tails, (rest.take limit).length = limit ∧
    ∀ d ∈ rest.take limit, ¬ accepts d = true) <| by
  constructor
  · rintro ⟨rest, hrest, hlength, hall⟩
    refine ⟨rest.take limit, ?_, hlength, hall⟩
    exact (List.take_prefix limit rest).isInfix.trans ((List.mem_tails _ _).mp hrest).isInfix
  · rintro ⟨refused, hrefused, hlength, hall⟩
    obtain ⟨rest, hbegins, hrest⟩ := List.infix_iff_prefix_suffix.mp hrefused
    have htake : rest.take limit = refused := by
      rw [← hlength]
      exact (List.prefix_iff_eq_take.mp hbegins).symm
    refine ⟨rest, (List.mem_tails _ _).mpr hrest, ?_, ?_⟩
    · rw [htake, hlength]
    · rwa [htake]

/-- How many days at the end of the list are refused, after the last accepted one. -/
def trailing (accepts : Date → Bool) (days : List Date) : Nat :=
  (days.rtakeWhile fun d => !accepts d).length

section

variable {accepts : Date → Bool} {limit count run more : Nat} {d : Date}
  {days before beginning : List Date}

theorem not_suffices_nil : ¬ Suffices accepts (count + 1) [] beginning := by
  intro h
  have hcount := h.holds
  rw [List.prefix_nil.mp h.begins, List.countP_nil] at hcount
  omega

theorem suffices_zero_iff : Suffices accepts 0 days beginning ↔ beginning = [] := by
  constructor
  · exact fun h => (h.shortest [] List.nil_prefix rfl).symm
  · rintro rfl
    exact ⟨List.nil_prefix, rfl, fun less hless _ => List.prefix_nil.mp hless⟩

/-- The first day stands first in each beginning with accepted days. -/
theorem suffices_cons_iff (hcount : count = if accepts d then more + 1 else more)
    (hpos : 0 < count) : Suffices accepts count (d :: days) beginning ↔
      ∃ rest, beginning = d :: rest ∧ Suffices accepts more days rest := by
  have hcons : ∀ rest : List Date, (d :: rest).countP accepts = count ↔
      rest.countP accepts = more := by
    intro rest
    rw [List.countP_cons, hcount]
    split <;> omega
  constructor
  · rintro ⟨hbegins, hholds, hshortest⟩
    match beginning, hbegins with
    | [], _ =>
      rw [List.countP_nil] at hholds
      omega
    | b :: rest, hbegins =>
      obtain ⟨rfl, hrest⟩ := List.cons_prefix_cons.mp hbegins
      refine ⟨rest, rfl, hrest, (hcons rest).mp hholds, fun less hless hmore => ?_⟩
      have hsame := hshortest (b :: less) (List.cons_prefix_cons.mpr ⟨rfl, hless⟩)
        ((hcons less).mpr hmore)
      exact List.tail_eq_of_cons_eq hsame
  · rintro ⟨rest, rfl, hbegins, hholds, hshortest⟩
    refine ⟨List.cons_prefix_cons.mpr ⟨rfl, hbegins⟩, (hcons rest).mpr hholds, ?_⟩
    intro less hless hcountless
    match less, hless with
    | [], _ =>
      rw [List.countP_nil] at hcountless
      omega
    | b :: less, hless =>
      obtain ⟨rfl, hrest⟩ := List.cons_prefix_cons.mp hless
      rw [hshortest less hrest ((hcons less).mp hcountless)]

theorem Tires.mono {longer : List Date} (h : Tires accepts limit days) (hin : days <:+: longer) :
    Tires accepts limit longer := by
  obtain ⟨refused, hrefused, hlength, hall⟩ := h
  exact ⟨refused, hrefused.trans hin, hlength, hall⟩

/-- Refused days tire as soon as there are `limit` of them. -/
theorem tires_iff_of_refused (hbefore : ∀ d ∈ before, ¬ accepts d = true) :
    Tires accepts limit before ↔ limit ≤ before.length := by
  constructor
  · rintro ⟨refused, hrefused, rfl, -⟩
    exact hrefused.length_le
  · exact fun hle => ⟨before.take limit, (List.take_prefix limit before).isInfix,
      List.length_take_of_le hle, fun d hd => hbefore d (List.mem_of_mem_take hd)⟩

/-- A beginning without the day `d` ends before it. -/
theorem length_le_of_notMem {refused : List Date} (h : refused <+: before ++ d :: days)
    (hd : d ∉ refused) : refused.length ≤ before.length := by
  refine Nat.not_lt.mp fun hlt => hd ?_
  have hget : refused[before.length] = d := by simp [h.getElem hlt]
  exact hget ▸ List.getElem_mem hlt

/-- An accepted day ends a row that is too short. -/
theorem tires_append_accepted_iff (hd : accepts d = true) (hshort : before.length < limit) :
    Tires accepts limit (before ++ d :: days) ↔ Tires accepts limit days := by
  constructor
  · rintro ⟨refused, hrefused, hlength, hall⟩
    have hnotMem : d ∉ refused := fun hmem => hall d hmem hd
    induction before with
    | nil =>
      rcases List.infix_cons_iff.mp hrefused with hfirst | hlater
      · have hle : refused.length ≤ ([] : List Date).length := length_le_of_notMem hfirst hnotMem
        rw [List.length_nil] at hle
        omega
      · exact ⟨refused, hlater, hlength, hall⟩
    | cons b before ih =>
      rcases List.infix_cons_iff.mp hrefused with hfirst | hlater
      · have hle : refused.length ≤ (b :: before).length := length_le_of_notMem hfirst hnotMem
        omega
      · exact ih (Nat.lt_of_succ_lt hshort) hlater
  · exact fun h => h.mono ((List.suffix_cons d days).trans (List.suffix_append before _)).isInfix

theorem trailing_append_accepted (hd : accepts d = true) :
    trailing accepts (before ++ d :: days) = trailing accepts days := by
  simp only [trailing, List.rtakeWhile, List.length_reverse, List.reverse_append,
    List.reverse_cons, List.append_assoc, List.singleton_append, List.takeWhile_append,
    List.takeWhile_cons, hd, Bool.not_true, Bool.false_eq_true, if_false, List.append_nil]
  split
  · rename_i hall
    rw [hall, List.length_reverse]
  · rfl

theorem trailing_of_refused (hbefore : ∀ d ∈ before, ¬ accepts d = true) :
    trailing accepts before = before.length := by
  rw [trailing, List.rtakeWhile_eq_self_iff.mpr]
  simpa using hbefore

/-- Where the days do not tire, few of them are refused at the end. -/
theorem trailing_lt (h : ¬ Tires accepts limit days) : trailing accepts days < limit := by
  refine Nat.not_le.mp fun hle => h ?_
  refine ⟨(days.rtakeWhile fun d => !accepts d).take limit, ?_, ?_, ?_⟩
  · exact (List.take_prefix _ _).isInfix.trans (List.rtakeWhile_suffix _ _).isInfix
  · exact List.length_take_of_le hle
  · intro d hd
    simpa using List.mem_rtakeWhile_imp (List.mem_of_mem_take hd)

/-! ## What comes of a search -/

/-- A search takes the accepted days of a beginning that suffices, unless it tires before. -/
theorem search_of_suffices (hbefore : ∀ d ∈ before, ¬ accepts d = true)
    (hrun : before.length < limit) (hsuffices : Suffices accepts (more + 1) days beginning)
    (hpatient : ¬ Tires accepts limit (before ++ beginning)) :
    search accepts limit before.length more days = .ok (beginning.filter accepts) := by
  induction days generalizing before more beginning with
  | nil => exact absurd hsuffices not_suffices_nil
  | cons d days ih =>
    by_cases haccepts : accepts d = true
    · obtain ⟨rest, rfl, hrest⟩ :=
        (suffices_cons_iff (by rw [if_pos haccepts]) (Nat.succ_pos more)).mp hsuffices
      rw [tires_append_accepted_iff haccepts hrun] at hpatient
      rw [List.filter_cons_of_pos haccepts]
      cases more with
      | zero =>
        obtain rfl := suffices_zero_iff.mp hrest
        simp only [search, if_pos haccepts, List.filter_nil]
      | succ more =>
        have hsearch := ih (List.forall_mem_nil _) (Nat.zero_lt_of_lt hrun) hrest hpatient
        simp only [search, if_pos haccepts]
        rw [← List.length_nil, hsearch]
        rfl
    · obtain ⟨rest, rfl, hrest⟩ :=
        (suffices_cons_iff (by rw [if_neg haccepts]) (Nat.succ_pos more)).mp hsuffices
      have hbefore' : ∀ e ∈ before ++ [d], ¬ accepts e = true :=
        List.forall_mem_append.mpr ⟨hbefore, List.forall_mem_singleton.mpr haccepts⟩
      rw [List.append_cons] at hpatient
      have hrun' : (before ++ [d]).length < limit := Nat.not_le.mp fun hle =>
        hpatient (((tires_iff_of_refused hbefore').mpr hle).mono (List.prefix_append _ _).isInfix)
      rw [List.filter_cons_of_neg haccepts, ← ih hbefore' hrun' hrest hpatient]
      rw [List.length_append, List.length_singleton] at hrun' ⊢
      simp only [search, if_neg haccepts, if_neg (Nat.not_le.mpr hrun')]

/-- Where no beginning suffices before it tires, a search gives up: after `limit`
refused days in a row if there are as many, and else at the end of the days. -/
theorem search_of_tires (hbefore : ∀ d ∈ before, ¬ accepts d = true)
    (hrun : before.length < limit) (htires : ∀ beginning,
      Suffices accepts (more + 1) days beginning → Tires accepts limit (before ++ beginning)) :
    (Tires accepts limit (before ++ days) →
      search accepts limit before.length more days = .error limit) ∧
    (¬ Tires accepts limit (before ++ days) →
      search accepts limit before.length more days = .error (trailing accepts (before ++ days))) := by
  induction days generalizing before more with
  | nil =>
    rw [List.append_nil, tires_iff_of_refused hbefore, trailing_of_refused hbefore]
    exact ⟨fun hle => absurd hrun (Nat.not_lt.mpr hle), fun _ => rfl⟩
  | cons d days ih =>
    by_cases haccepts : accepts d = true
    · have hrest : ∀ rest, Suffices accepts more days rest → Tires accepts limit rest := by
        intro rest hrest
        have htired := htires (d :: rest)
          ((suffices_cons_iff (by rw [if_pos haccepts]) (Nat.succ_pos more)).mpr ⟨rest, rfl, hrest⟩)
        exact (tires_append_accepted_iff haccepts hrun).mp htired
      rw [tires_append_accepted_iff haccepts hrun, trailing_append_accepted haccepts]
      cases more with
      | zero =>
        have hnone := hrest [] (suffices_zero_iff.mpr rfl)
        rw [tires_iff_of_refused (by simp), List.length_nil] at hnone
        omega
      | succ more =>
        obtain ⟨htired, hended⟩ := ih (List.forall_mem_nil _) (Nat.zero_lt_of_lt hrun) hrest
        simp only [search, if_pos haccepts]
        rw [← List.length_nil]
        exact ⟨fun h => by rw [htired h]; rfl, fun h => by rw [hended h]; rfl⟩
    · have hbefore' : ∀ e ∈ before ++ [d], ¬ accepts e = true :=
        List.forall_mem_append.mpr ⟨hbefore, List.forall_mem_singleton.mpr haccepts⟩
      have hlength : (before ++ [d]).length = before.length + 1 := List.length_append
      rw [List.append_cons]
      simp only [search, if_neg haccepts]
      by_cases hlimit : limit ≤ before.length + 1
      · have htired : Tires accepts limit (before ++ [d] ++ days) :=
          ((tires_iff_of_refused hbefore').mpr (hlength ▸ hlimit)).mono
            (List.prefix_append _ _).isInfix
        rw [if_pos hlimit]
        exact ⟨fun _ => congrArg Except.error (Nat.le_antisymm hrun hlimit), fun h => absurd htired h⟩
      · rw [if_neg hlimit, ← hlength]
        refine ih hbefore' (hlength ▸ Nat.not_le.mp hlimit) fun rest hrest => ?_
        rw [← List.append_cons]
        exact htires (d :: rest)
          ((suffices_cons_iff (by rw [if_neg haccepts]) (Nat.succ_pos more)).mpr ⟨rest, rfl, hrest⟩)

end

/-! ## What comes of a walk -/

/-- The days are all accepted ones from the start up to the furthest of them. -/
structure Gapless (accepts : Date → Bool) (dir : Direction) (start : Date) (taken : List Date) :
    Prop where
  ascending : taken.Pairwise (· < ·)
  accepted : ∀ d ∈ taken, accepts d = true ∧ 0 ≤ dir.distance start.number d.number
  complete : ∀ d ∈ taken, ∀ e, accepts e = true → 0 ≤ dir.distance start.number e.number →
    0 ≤ dir.distance e.number d.number → e ∈ taken

theorem Direction.mem_along {dir : Direction} {d : Date} {days : List Date} :
    d ∈ dir.along days ↔ d ∈ days := by
  cases dir
  · rfl
  · exact List.mem_reverse

theorem Leading.ascending {accepts : Date → Bool} {dir : Direction} {m : Int} {days : List Date}
    (h : Leading accepts dir m (dir.along days)) : days.Pairwise (· < ·) := by
  have hordered := h.ordered
  cases dir
  · exact hordered.imp Int.sub_pos.mp
  · exact (List.pairwise_reverse.mp hordered).imp Int.sub_pos.mp

theorem Calendar.gapless_of_walk {c : Calendar} {start : Date} {dir : Direction} {count : Nat}
    {anyDay : Bool} {limit : Nat} {taken : List Date}
    (h : c.walk start dir count anyDay limit = .ok taken) :
    taken.length = count ∧ Gapless (c.accepts anyDay) dir start taken := by
  obtain ⟨hlength, -, hsteps⟩ := Calendar.walk_eq_ok.mp h
  have hleading := hsteps.leading
  have hback : ∀ e : Date, 0 < dir.distance (dir.before start.number) e.number ↔
      0 ≤ dir.distance start.number e.number := by
    intro e
    have hsum := dir.distance_add (dir.before start.number) start.number e.number
    rw [Direction.distance_before] at hsum
    omega
  refine ⟨hlength, hleading.ascending, fun d hd => ?_, fun d hd e he hstart hed => ?_⟩
  · obtain ⟨haccepts, hbeyond⟩ := hleading.accepted d (Direction.mem_along.mpr hd)
    exact ⟨haccepts, (hback d).mp hbeyond⟩
  · by_cases hzero : dir.distance e.number d.number = 0
    · rwa [dir.eq_of_distance hzero]
    · refine Direction.mem_along.mp (hleading.complete d (Direction.mem_along.mpr hd) e he ?_ ?_)
      · exact (hback e).mpr hstart
      · omega

/-- A walk that is asked for more days than its limit is refused. Any other takes the
accepted days of the shortest beginning that holds enough of them, unless `limit` days
in a row of it are refused. Then it gives up after as many refused days, or else at
the end of the range. -/
theorem walks_are_decided_by_the_days_ahead (c : Calendar) (start : Date) (dir : Direction)
    (count : Nat) (hcount : 1 ≤ count) (anyDay : Bool) (limit : Nat) :
    let accepts := c.accepts anyDay
    let days := dir.ahead start
    let outcome := c.walk start dir count anyDay limit
    (limit < count → outcome = .error (.onField "count"
      (toString count ++ " is more than the " ++ toString limit ++ " day walk limit"))) ∧
    (count ≤ limit →
      (∀ beginning, Suffices accepts count days beginning → ¬ Tires accepts limit beginning →
        outcome = .ok (dir.along (beginning.filter accepts)) ∧
        (dir.along (beginning.filter accepts)).length = count ∧
        Gapless accepts dir start (dir.along (beginning.filter accepts))) ∧
      ((∀ beginning, Suffices accepts count days beginning → Tires accepts limit beginning) →
        (Tires accepts limit days → outcome = .error (.noWorkday start limit)) ∧
        (¬ Tires accepts limit days → trailing accepts days < limit ∧
          outcome = .error (.noWorkday start (trailing accepts days))))) := by
  intro accepts days outcome
  obtain ⟨more, rfl⟩ : ∃ more, count = more + 1 := ⟨count - 1, by omega⟩
  refine ⟨fun hlimit => by simp only [outcome, Calendar.walk, if_pos hlimit], fun hlimit => ?_⟩
  have hwalk : outcome = _ := Calendar.walk_of_le hlimit
  rw [collect_eq_search] at hwalk
  have hrun : 0 < limit := Nat.lt_of_lt_of_le (Nat.succ_pos more) hlimit
  refine ⟨fun beginning hsuffices hpatient => ?_, fun htires => ?_⟩
  · have hsearch := search_of_suffices (List.forall_mem_nil _) hrun hsuffices hpatient
    rw [List.length_nil] at hsearch
    rw [hsearch] at hwalk
    exact ⟨hwalk, Calendar.gapless_of_walk hwalk⟩
  · obtain ⟨htired, hended⟩ := search_of_tires (List.forall_mem_nil _) hrun htires
    refine ⟨fun h => ?_, fun h => ⟨trailing_lt h, ?_⟩⟩
    · have hsearch := htired h
      rw [List.length_nil] at hsearch
      rw [hwalk, hsearch]
    · have hsearch := hended h
      rw [List.length_nil] at hsearch
      rw [hwalk, hsearch, List.nil_append]

/-- Four walks from a workday four days before the last date, with one more
workday the day before it. -/
theorem walks_to_the_last_date :
    let start : Date := ⟨95745395, by decide, by decide⟩
    let c : Calendar := ⟨fun d => d.number = 95745395 || d.number = 95745398⟩
    let walk := c.walk start .forward
    walk 2 false 3 = .ok [start, ⟨95745398, by decide, by decide⟩] ∧
      walk 3 false 3 = .error (.noWorkday start 1) ∧
      walk 2 false 2 = .error (.noWorkday start 2) ∧
      walk 2 false 1 = .error (.onField "count" "2 is more than the 1 day walk limit") := by
  intro start c walk
  have law := fun count hcount =>
    walks_are_decided_by_the_days_ahead c start .forward count hcount false
  refine ⟨?_, ?_, ?_, (law 2 (by decide) 1).1 (by decide)⟩
  · obtain ⟨hwalk, -⟩ := ((law 2 (by decide) 3).2 (by decide)).1
      ((Direction.forward.ahead start).take 4) (by decide) (by decide)
    exact hwalk.trans (congrArg Except.ok (by decide))
  · have htires : ∀ beginning ∈ (Direction.forward.ahead start).inits,
        Suffices (c.accepts false) 3 (Direction.forward.ahead start) beginning →
          Tires (c.accepts false) 3 beginning := by decide
    have hgaveUp := ((law 3 (by decide) 3).2 (by decide)).2 fun beginning h =>
      htires beginning ((List.mem_inits _ _).mpr h.begins) h
    exact (hgaveUp.2 (by decide)).2
  · have htires : ∀ beginning ∈ (Direction.forward.ahead start).inits,
        Suffices (c.accepts false) 2 (Direction.forward.ahead start) beginning →
          Tires (c.accepts false) 2 beginning := by decide
    have hgaveUp := ((law 2 (by decide) 2).2 (by decide)).2 fun beginning h =>
      htires beginning ((List.mem_inits _ _).mpr h.begins) h
    exact hgaveUp.1 (by decide)

end Relocation
