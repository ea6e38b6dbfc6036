-- A shipment is scheduled by its own date and estimates. What it lacks is named
-- first, then every estimate out of bounds; with neither, it has the schedule of
-- any move that takes as many days, and no walk complains of a count.
import Mathlib.Data.List.Nodup
import Relocation.Proofs.Messages
import Relocation.Proofs.Windows

namespace Relocation

open Sample (july)

/-! ## Failures of a certain kind -/

/-- Where the outcome is a failure, it is one with `p`. -/
def FailsOnly {α : Type} (p : Failure → Prop) (e : Except Failure α) : Prop :=
  ∀ failure, e = .error failure → p failure

section

variable {α β : Type} {p : Failure → Prop}

theorem failsOnly_ok (a : α) : FailsOnly p (.ok a : Except Failure α) :=
  fun _ h => nomatch h

theorem failsOnly_bind {e : Except Failure α} {f : α → Except Failure β} (h : FailsOnly p e)
    (hf : ∀ a, FailsOnly p (f a)) : FailsOnly p (e >>= f) := by
  cases e with
  | error failure =>
    rintro _ ⟨⟩
    exact h failure rfl
  | ok a => exact hf a

end

/-- A walk ended before it had its days. -/
def Failure.IsNoWorkday (failure : Failure) : Prop :=
  ∃ start searched, failure = .noWorkday start searched

/-- A walk whose limit allows its count fails only for want of workdays. -/
theorem Calendar.walk_failsOnly {c : Calendar} {start : Date} {dir : Direction} {count : Nat}
    {anyDay : Bool} {limit : Nat} (h : count ≤ limit) :
    FailsOnly Failure.IsNoWorkday (c.walk start dir count anyDay limit) := by
  cases count with
  | zero => exact failsOnly_ok []
  | succ more =>
    rw [walk_of_le h]
    split
    · rintro _ ⟨⟩
      exact ⟨start, _, rfl⟩
    · exact failsOnly_ok _

namespace Scheduler

variable {s : Scheduler} {shipment : Shipment} {anchor : Date} {packCount transitCount : Nat}
  {report : List Date}

theorem step_failsOnly (dir : Direction) (d : Date) :
    FailsOnly Failure.IsNoWorkday (step dir d) := by
  unfold step
  split
  · exact failsOnly_ok _
  · rintro _ ⟨⟩
    exact ⟨d, 0, rfl⟩

theorem arrival_failsOnly (departure : Date) (transit : List Date) :
    FailsOnly Failure.IsNoWorkday (arrival departure transit) := by
  unfold arrival
  split
  · exact step_failsOnly .forward _
  · exact failsOnly_ok departure

/-- Where the limit allows the counts, a schedule fails only for want of workdays. -/
theorem windows_failsOnly (hlimit : 1 ≤ s.limit) (hpack : packCount ≤ s.limit)
    (htransit : transitCount ≤ s.limit) :
    FailsOnly Failure.IsNoWorkday (s.windows anchor packCount transitCount report) := by
  rw [windows_eq]
  apply failsOnly_bind (step_failsOnly .backward anchor)
  intro beforePickup
  apply failsOnly_bind (Calendar.walk_failsOnly hpack)
  intro pack
  apply failsOnly_bind (Calendar.walk_failsOnly hlimit)
  intro pickup
  apply failsOnly_bind (step_failsOnly .forward _)
  intro departure
  apply failsOnly_bind (Calendar.walk_failsOnly htransit)
  intro transit
  apply failsOnly_bind (arrival_failsOnly departure transit)
  intro day
  apply failsOnly_bind (Calendar.walk_failsOnly hlimit)
  exact fun delivery => failsOnly_ok _

/-- The days of a report have no part in the other windows. -/
theorem windows_report (other : List Date) :
    (s.windows anchor packCount transitCount report).map (fun w => { w with report := other }) =
      s.windows anchor packCount transitCount other := by
  simp only [windows_eq, map_of_bind]
  rfl

/-! ## What is wrong with a shipment -/

/-- The fields that a schedule needs of a shipment and that it lacks, in the order in which
they are looked for. -/
def missing (shipment : Shipment) : List String :=
  ([("requested_pickup_date", shipment.requestedPickupDate.isNone),
    ("estimated_pack_days", shipment.packDays.isNone),
    ("estimated_transit_days", shipment.transitDays.isNone)].filter (·.2)).map (·.1)

/-- The estimates of a shipment, by their fields. -/
def estimates (packCount transitCount : Int) : List (String × Int) :=
  [("estimated_pack_days", packCount), ("estimated_transit_days", transitCount)]

/-- One message against each estimate below zero, and after them one against each above the
limit. -/
def outOfBounds (limit : Nat) (packCount transitCount : Int) : List (String × String) :=
  ((estimates packCount transitCount).filter (·.2 < 0)).map
      (fun e => (e.1, toString e.2 ++ " is less than zero")) ++
    ((estimates packCount transitCount).filter ((limit : Int) < ·.2)).map fun e =>
      (e.1, toString e.2 ++ " is more than " ++ toString limit ++ " days")

theorem forShipment_of_missing {field : String} (h : (missing shipment).head? = some field) :
    s.forShipment shipment = .error (.missingField Shipment.entity shipment.id.text field) := by
  unfold missing at h
  unfold forShipment
  cases hdate : shipment.requestedPickupDate with
  | none =>
    simp [hdate] at h
    simp [need, ← h, bind, Except.bind]
  | some anchor =>
    cases hpack : shipment.packDays with
    | none =>
      simp [hdate, hpack] at h
      simp [need, ← h, bind, Except.bind]
    | some packCount =>
      cases htransit : shipment.transitDays with
      | none =>
        simp [hdate, hpack, htransit] at h
        simp [need, ← h, bind, Except.bind]
      | some transitCount => simp [hdate, hpack, htransit] at h

theorem missing_eq_nil (h : missing shipment = []) : ∃ anchor packCount transitCount,
    shipment.requestedPickupDate = some anchor ∧ shipment.packDays = some packCount ∧
      shipment.transitDays = some transitCount := by
  unfold missing at h
  simpa [Option.isNone_iff_eq_none, ← Option.isSome_iff_ne_none, Option.isSome_iff_exists] using h

/-! ## Estimates out of bounds -/

section

variable {limit : Nat} {packCount transitCount : Int} {m : String × String}

/-- A message names an estimate that is below zero or above the limit. -/
theorem mem_outOfBounds (h : m ∈ outOfBounds limit packCount transitCount) :
    ∃ e ∈ estimates packCount transitCount, e.1 = m.1 ∧ (e.2 < 0 ∨ (limit : Int) < e.2) := by
  unfold outOfBounds at h
  rcases List.mem_append.mp h with hm | hm
  · obtain ⟨e, he, rfl⟩ := List.mem_map.mp hm
    obtain ⟨he, hlow⟩ := List.mem_filter.mp he
    exact ⟨e, he, rfl, .inl (of_decide_eq_true hlow)⟩
  · obtain ⟨e, he, rfl⟩ := List.mem_map.mp hm
    obtain ⟨he, hhigh⟩ := List.mem_filter.mp he
    exact ⟨e, he, rfl, .inr (of_decide_eq_true hhigh)⟩

/-- Without messages, both estimates are within the bounds. -/
theorem within_of_outOfBounds_eq_nil (h : outOfBounds limit packCount transitCount = []) :
    (0 ≤ packCount ∧ packCount ≤ limit) ∧ 0 ≤ transitCount ∧ transitCount ≤ limit := by
  unfold outOfBounds estimates at h
  simp only [List.append_eq_nil_iff, List.map_eq_nil_iff, List.filter_eq_nil_iff,
    List.forall_mem_cons, List.not_mem_nil, false_implies, implies_true, and_true,
    decide_eq_true_eq, Int.not_lt] at h
  omega

/-- No estimate is both below zero and above the limit, so none is named twice. -/
theorem nodup_outOfBounds (limit : Nat) (packCount transitCount : Int) :
    ((outOfBounds limit packCount transitCount).map (·.1)).Nodup := by
  have hfields : ((estimates packCount transitCount).map (·.1)).Nodup := by
    simp [estimates]
  unfold outOfBounds
  rw [List.map_append, List.map_map, List.map_map, List.nodup_append]
  refine ⟨hfields.sublist (List.filter_sublist.map _),
    hfields.sublist (List.filter_sublist.map _), ?_⟩
  intro field hlow field' hhigh heq
  obtain ⟨e, he, rfl⟩ := List.mem_map.mp hlow
  obtain ⟨e', he', rfl⟩ := List.mem_map.mp hhigh
  obtain ⟨he, hlow⟩ := List.mem_filter.mp he
  obtain ⟨he', hhigh⟩ := List.mem_filter.mp he'
  obtain rfl : e = e' := List.inj_on_of_nodup_map hfields he he' heq
  have := of_decide_eq_true hlow
  have := of_decide_eq_true hhigh
  omega

theorem requireNonNegative_eq_addAll (r : Report) (field : String) (v : Int) :
    r.requireNonNegative field (some v) =
      r.addAll (if v < 0 then [(field, toString v ++ " is less than zero")] else []) := by
  simp only [Report.requireNonNegative]
  split <;> rfl

theorem requireWithin_eq_addAll (limit : Nat) (r : Report) (field : String) (days : Int) :
    requireWithin limit r field days = r.addAll (if (limit : Int) < days then
      [(field, toString days ++ " is more than " ++ toString limit ++ " days")] else []) := by
  unfold requireWithin
  split <;> rfl

theorem map_filter_estimates {p : Int → Prop} [DecidablePred p]
    (g : String × Int → String × String) :
    ((estimates packCount transitCount).filter (fun e => p e.2)).map g =
      (if p packCount then [g ("estimated_pack_days", packCount)] else []) ++
        if p transitCount then [g ("estimated_transit_days", transitCount)] else [] := by
  unfold estimates
  by_cases hpack : p packCount <;> by_cases htransit : p transitCount <;> simp [hpack, htransit]

/-- The checks of the estimates, made one after the other, report what is out of bounds. -/
theorem report_eq_addAll (limit : Nat) (packCount transitCount : Int) :
    requireWithin limit (requireWithin limit
        ((Report.empty.requireNonNegative "estimated_pack_days" (some packCount)).requireNonNegative
          "estimated_transit_days" (some transitCount))
        "estimated_pack_days" packCount) "estimated_transit_days" transitCount =
      Report.empty.addAll (outOfBounds limit packCount transitCount) := by
  unfold outOfBounds
  rw [map_filter_estimates (p := (· < 0)), map_filter_estimates (p := ((limit : Int) < ·))]
  simp only [requireNonNegative_eq_addAll, requireWithin_eq_addAll, ← Report.addAll_append,
    List.append_assoc]

theorem count_notMem_keys (limit : Nat) (packCount transitCount : Int) :
    "count" ∉ (Report.empty.addAll (outOfBounds limit packCount transitCount)).fields.keys := by
  unfold Table.keys
  rw [Report.entries_addAll (nodup_outOfBounds limit packCount transitCount), List.map_map]
  intro hcount
  obtain ⟨m, hm, hfield⟩ := List.mem_map.mp hcount
  obtain ⟨e, he, hname, -⟩ := mem_outOfBounds hm
  have hfields : "count" ∈ (estimates packCount transitCount).map (·.1) :=
    List.mem_map.mpr ⟨e, he, hname.trans hfield⟩
  simp [estimates] at hfields

end

/-! ## Schedules of shipments -/

theorem forShipment_of_present {packCount transitCount : Int}
    (hdate : shipment.requestedPickupDate = some anchor)
    (hpack : shipment.packDays = some packCount)
    (htransit : shipment.transitDays = some transitCount) :
    s.forShipment shipment = (do
      (Report.empty.addAll (outOfBounds s.limit packCount transitCount)).check
      s.windows anchor packCount.toNat transitCount.toNat []) := by
  unfold forShipment
  rw [hdate, hpack, htransit, ← report_eq_addAll]
  rfl

theorem check_addAll {messages : List (String × String)} (h : messages ≠ []) :
    (Report.empty.addAll messages).check = .error (.invalid (Report.empty.addAll messages)) := by
  unfold Report.check
  rw [Report.isEmpty_addAll, if_neg]
  simpa using h

/-- Where an estimate is out of bounds, all of them that are are reported. -/
theorem forShipment_of_outOfBounds {packCount transitCount : Int}
    (hdate : shipment.requestedPickupDate = some anchor)
    (hpack : shipment.packDays = some packCount)
    (htransit : shipment.transitDays = some transitCount)
    (h : outOfBounds s.limit packCount transitCount ≠ []) :
    s.forShipment shipment =
      .error (.invalid (Report.empty.addAll (outOfBounds s.limit packCount transitCount))) := by
  rw [forShipment_of_present hdate hpack htransit, check_addAll h]
  rfl

theorem forShipment_of_within {packCount transitCount : Int}
    (hdate : shipment.requestedPickupDate = some anchor)
    (hpack : shipment.packDays = some packCount)
    (htransit : shipment.transitDays = some transitCount)
    (h : outOfBounds s.limit packCount transitCount = []) :
    s.forShipment shipment = s.windows anchor packCount.toNat transitCount.toNat [] := by
  rw [forShipment_of_present hdate hpack htransit, h]
  rfl

/-- The same calendar and limit, with other entitlements. -/
def withEntitlements (s : Scheduler) (entitlements : Entitlements) : Scheduler :=
  { s with entitlements }

/-- A shipment that lacks something is refused for the first of it. One whose estimates are out
of bounds is refused with a message for each of them, those below zero first. Any other has the
schedule, or the failure, of a move that takes as many days, but for the day to report by. So
no count is ever complained of. -/
theorem shipments_are_scheduled_by_their_estimates (s : Scheduler) (hlimit : 1 ≤ s.limit)
    (shipment : Shipment) :
    (∀ field, (missing shipment).head? = some field → s.forShipment shipment =
      .error (.missingField Shipment.entity shipment.id.text field)) ∧
    (∀ anchor packCount transitCount, shipment.requestedPickupDate = some anchor →
      shipment.packDays = some packCount → shipment.transitDays = some transitCount →
      (outOfBounds s.limit packCount transitCount ≠ [] →
        ∃ report, s.forShipment shipment = .error (.invalid report) ∧ report.fields.entries =
          (outOfBounds s.limit packCount transitCount).map fun m => (m.1, [m.2])) ∧
      (outOfBounds s.limit packCount transitCount = [] →
        ∀ (entitlements : Entitlements) (weight : Pounds) (distance : Miles) (reportBy : Date)
          (days : Nat), (entitlements.packDays weight : Int) = packCount →
          entitlements.transitDays weight distance = .ok days → (days : Int) = transitCount →
          s.forShipment shipment =
            ((s.withEntitlements entitlements).forWeight weight distance anchor reportBy).map
              fun w => { w with report := [] })) ∧
    ∀ report, s.forShipment shipment = .error (.invalid report) → "count" ∉ report.fields.keys := by
  refine ⟨fun field h => forShipment_of_missing h, ?_, ?_⟩
  · intro anchor packCount transitCount hdate hpack htransit
    constructor
    · intro h
      exact ⟨_, forShipment_of_outOfBounds hdate hpack htransit h,
        Report.entries_addAll (nodup_outOfBounds _ _ _)⟩
    · rintro h entitlements weight distance reportBy days rfl hdays rfl
      have hweight :
          (s.withEntitlements entitlements).forWeight weight distance anchor reportBy = _ :=
        forWeight_of_transitDays hdays
      rw [forShipment_of_within hdate hpack htransit h, hweight, windows_report]
      rfl
  · intro report hreport
    rcases hmissing : missing shipment with _ | ⟨field, rest⟩
    · obtain ⟨anchor, packCount, transitCount, hdate, hpack, htransit⟩ := missing_eq_nil hmissing
      by_cases h : outOfBounds s.limit packCount transitCount = []
      · rw [forShipment_of_within hdate hpack htransit h] at hreport
        obtain ⟨hpackWithin, htransitWithin⟩ := within_of_outOfBounds_eq_nil h
        obtain ⟨start, searched, hfailure⟩ :=
          windows_failsOnly hlimit (by omega) (by omega) _ hreport
        cases hfailure
      · rw [forShipment_of_outOfBounds hdate hpack htransit h] at hreport
        cases hreport
        exact count_notMem_keys s.limit packCount transitCount
    · have hrefused := forShipment_of_missing (s := s) (by rw [hmissing]; exact List.head?_cons)
      rw [hrefused] at hreport
      cases hreport

/-- Three shipments under a limit of nine days: one without estimates, one with too many days of
packing and fewer than none of transit, and one that takes as long as 5000 pounds over 500 miles. -/
theorem shipments_within_nine_days :
    let s : Scheduler := ⟨Sample.weekdays [july 4], .standard, 9⟩
    let shipment (packCount transitCount : Option Int) : Shipment :=
      { Shipment.new default default default with
        requestedPickupDate := some (july 4), packDays := packCount, transitDays := transitCount }
    s.forShipment (shipment none none) = .error (.missingField "Shipment"
      (shipment none none).id.text "estimated_pack_days") ∧
    (∃ report, s.forShipment (shipment (some 10) (some (-1))) = .error (.invalid report) ∧
      report.fields.entries = [("estimated_transit_days", ["-1 is less than zero"]),
        ("estimated_pack_days", ["10 is more than 9 days"])]) ∧
    s.forShipment (shipment (some 2) (some 9)) =
      (s.forWeight ⟨5000⟩ ⟨500⟩ (july 4) (july 8)).map fun w => { w with report := [] } := by
  intro s shipment
  have law := shipments_are_scheduled_by_their_estimates s (by decide)
  refine ⟨(law (shipment none none)).1 _ rfl, ?_, ?_⟩
  · obtain ⟨report, hreport, hentries⟩ :=
      ((law (shipment (some 10) (some (-1)))).2.1 _ _ _ rfl rfl rfl).1 (by decide)
    exact ⟨report, hreport, hentries.trans (by decide)⟩
  · exact ((law (shipment (some 2) (some 9))).2.1 _ _ _ rfl rfl rfl).2 (by decide) .standard
      ⟨5000⟩ ⟨500⟩ (july 8) 9 rfl rfl rfl

end Scheduler

end Relocation
