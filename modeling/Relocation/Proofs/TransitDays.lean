-- What the transit table has against a weight and a distance. The input is looked at
-- before the table, and all that is wrong with it is reported together. A distance
-- beyond the table is only found after that, so a negative weight hides it.
import Relocation.Proofs.Estimates

namespace Relocation

open Scheduler (requireNonNegative_eq_addAll check_addAll)

variable {weight : Pounds} {distance : Miles}

/-! ## What is wrong with a weight and a distance -/

/-- What is wrong with the input, whatever the table holds. -/
def inputFaults (weight : Pounds) (distance : Miles) : List (String × String) :=
  (if weight.value < 0 then [("weight", toString weight.value ++ " is less than zero")] else []) ++
    if distance.value = 0 then [("transit_distance", "must be greater than zero")] else []

/-- What is reported: a distance beyond the table, but only of an input without faults. -/
def transitFaults (weight : Pounds) (distance : Miles) : List (String × String) :=
  if inputFaults weight distance = [] ∧ 3800 < distance.value then
    [("transit_distance", toString distance ++ " is beyond the transit schedule")]
  else inputFaults weight distance

theorem inputFaults_eq_nil :
    inputFaults weight distance = [] ↔ 0 ≤ weight.value ∧ distance.value ≠ 0 := by
  simp [inputFaults]

theorem transitFaults_eq_nil : transitFaults weight distance = [] ↔
    0 ≤ weight.value ∧ 1 ≤ distance.value ∧ distance.value ≤ 3800 := by
  unfold transitFaults
  split
  · simp only [List.cons_ne_nil, false_iff]
    omega
  · rename_i h
    rw [inputFaults_eq_nil] at *
    omega

/-- Each field is named once. -/
theorem nodup_transitFaults (weight : Pounds) (distance : Miles) :
    ((transitFaults weight distance).map (·.1)).Nodup := by
  have hinput : ((inputFaults weight distance).map (·.1)).Nodup := by
    unfold inputFaults
    by_cases hweight : weight.value < 0 <;> by_cases hdistance : distance.value = 0 <;>
      simp [hweight, hdistance]
  unfold transitFaults
  split
  · simp
  · exact hinput

theorem weight_mem_transitFaults :
    "weight" ∈ (transitFaults weight distance).map (·.1) ↔ weight.value < 0 := by
  unfold transitFaults
  split
  · rename_i h
    have := (inputFaults_eq_nil.mp h.1).1
    simp [Int.not_lt.mpr this]
  · unfold inputFaults
    by_cases hdistance : distance.value = 0 <;> simp [hdistance]

theorem distance_mem_transitFaults :
    "transit_distance" ∈ (transitFaults weight distance).map (·.1) ↔
      distance.value = 0 ∨ (3800 < distance.value ∧ 0 ≤ weight.value) := by
  unfold transitFaults
  split
  · rename_i h
    have := inputFaults_eq_nil.mp h.1
    simp [h.2, this.1]
  · rename_i h
    rw [inputFaults_eq_nil] at h
    have hhidden : ¬ (3800 < distance.value ∧ 0 ≤ weight.value) ∨ distance.value = 0 := by omega
    unfold inputFaults
    by_cases hdistance : distance.value = 0 <;> simp_all

/-! ## What comes of it -/

theorem find?_bands_eq_none : (bands.find? fun band => distance.value ≤ band.upTo) = none ↔
    3800 < distance.value := by
  rw [List.find?_eq_none]
  simp only [bands, List.forall_mem_cons, List.not_mem_nil, false_implies, implies_true, and_true,
    decide_eq_true_eq]
  omega

/-- The checks of the input, made one after the other, report its faults. -/
theorem inputFaults_report (weight : Pounds) (distance : Miles) :
    (if distance.value = 0 then
        (Report.empty.requireNonNegative "weight" (some weight.value)).add "transit_distance"
          "must be greater than zero"
      else Report.empty.requireNonNegative "weight" (some weight.value)) =
      Report.empty.addAll (inputFaults weight distance) := by
  rw [requireNonNegative_eq_addAll, inputFaults, Report.addAll_append]
  split <;> rfl

theorem transitDays_of_faults (h : transitFaults weight distance ≠ []) :
    transitDays weight distance =
      .error (.invalid (Report.empty.addAll (transitFaults weight distance))) := by
  simp only [transitDays, inputFaults_report]
  by_cases hinput : inputFaults weight distance = []
  · have hfar : 3800 < distance.value := by
      rw [ne_eq, transitFaults_eq_nil] at h
      have := inputFaults_eq_nil.mp hinput
      omega
    rw [transitFaults, if_pos ⟨hinput, hfar⟩, hinput, find?_bands_eq_none.mpr hfar]
    rfl
  · rw [transitFaults, if_neg fun h => hinput h.1, check_addAll hinput]
    rfl

/-- A weight and a distance have days on the road exactly if the weight is not negative and the
distance is within the table. All others are refused, with one message for each fault, the
weight first. A distance beyond the table is named only if the weight is not negative. -/
theorem transit_faults_are_reported_unless_hidden (weight : Pounds) (distance : Miles) :
    ((∃ days, transitDays weight distance = .ok days) ↔
      0 ≤ weight.value ∧ 1 ≤ distance.value ∧ distance.value ≤ 3800) ∧
    (¬ (0 ≤ weight.value ∧ 1 ≤ distance.value ∧ distance.value ≤ 3800) →
      ∃ report, transitDays weight distance = .error (.invalid report) ∧
        report.fields.entries =
          (transitFaults weight distance).map (fun m => (m.1, [m.2])) ∧
        ("weight" ∈ report.fields.keys ↔ weight.value < 0) ∧
        ("transit_distance" ∈ report.fields.keys ↔
          distance.value = 0 ∨ (3800 < distance.value ∧ 0 ≤ weight.value))) := by
  have hentries := Report.entries_addAll (nodup_transitFaults weight distance)
  have hkeys : (Report.empty.addAll (transitFaults weight distance)).fields.keys =
      (transitFaults weight distance).map (·.1) := by
    rw [Table.keys, hentries, List.map_map]
    rfl
  constructor
  · rw [← transitFaults_eq_nil]
    constructor
    · rintro ⟨days, hdays⟩
      by_contra hfaults
      rw [transitDays_of_faults hfaults] at hdays
      cases hdays
    · intro hnone
      obtain ⟨hweight, hdistance, hreach⟩ := transitFaults_eq_nil.mp hnone
      obtain ⟨days, -, hdays⟩ := exists_transitDays hweight (by omega) hreach
      exact ⟨days, hdays⟩
  · intro hfaults
    rw [← transitFaults_eq_nil] at hfaults
    refine ⟨_, transitDays_of_faults hfaults, hentries, ?_, ?_⟩
    · rw [hkeys, weight_mem_transitFaults]
    · rw [hkeys, distance_mem_transitFaults]

/-- Less than nothing over no distance is refused for both. -/
theorem less_than_nothing_goes_nowhere :
    ∃ report, transitDays ⟨-1⟩ ⟨0⟩ = .error (.invalid report) ∧
      report.fields.entries = [("weight", ["-1 is less than zero"]),
        ("transit_distance", ["must be greater than zero"])] := by
  obtain ⟨report, hreport, hentries, -⟩ :=
    (transit_faults_are_reported_unless_hidden ⟨-1⟩ ⟨0⟩).2 (by decide)
  exact ⟨report, hreport, hentries.trans (by decide)⟩

/-- It is not so that a distance beyond the table is always named: here a negative weight
hides it. -/
theorem a_negative_weight_hides_a_long_way :
    ¬ ∀ (weight : Pounds) (distance : Miles),
      ((∃ days, transitDays weight distance = .ok days) ↔
        0 ≤ weight.value ∧ 1 ≤ distance.value ∧ distance.value ≤ 3800) ∧
      (¬ (0 ≤ weight.value ∧ 1 ≤ distance.value ∧ distance.value ≤ 3800) →
        ∃ report, transitDays weight distance = .error (.invalid report) ∧
          ("weight" ∈ report.fields.keys ↔ weight.value < 0) ∧
          ("transit_distance" ∈ report.fields.keys ↔
            distance.value = 0 ∨ 3800 < distance.value)) := by
  intro hclaim
  obtain ⟨report, hreport, -, hdistance⟩ := (hclaim ⟨-1⟩ ⟨3801⟩).2 (by decide)
  have hrefused : transitDays ⟨-1⟩ ⟨3801⟩ =
      .error (.invalid (Report.empty.add "weight" "-1 is less than zero")) := by decide
  rw [hrefused] at hreport
  cases hreport
  exact absurd (hdistance.mpr (by decide)) (by decide)

end Relocation
