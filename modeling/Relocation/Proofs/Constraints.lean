-- What a shipment must keep to, constraint by constraint. Its report has one message
-- for each constraint that does not hold, in the order of the constraints, and no other.
-- So no violation hides another, whatever the fields of the record say together.
import Mathlib.Data.List.Nodup
import Relocation.Proofs.Messages

namespace Relocation

/-! ## The constraints -/

/-- The lines that an address needs. -/
inductive AddressLine where
  | street1
  | city
  | state
  | postalCode
deriving DecidableEq

namespace AddressLine

def all : List AddressLine := [.street1, .city, .state, .postalCode]

def field : AddressLine → String
  | .street1 => "street_address_1"
  | .city => "city"
  | .state => "state"
  | .postalCode => "postal_code"

def of (a : Address) : AddressLine → String
  | .street1 => a.street1
  | .city => a.city
  | .state => a.state
  | .postalCode => a.postalCode

end AddressLine

/-- The numbers of a shipment: the days that are estimated, and the weights. -/
inductive Amount where
  | packDays
  | transitDays
  | weightEstimate
  | proGearEstimate
  | spouseProGearEstimate
  | actualWeight
  | surveyWeight
  | surveyProGear
  | surveySpouseProGear
deriving DecidableEq

namespace Amount

def all : List Amount :=
  [.packDays, .transitDays, .weightEstimate, .proGearEstimate, .spouseProGearEstimate,
    .actualWeight, .surveyWeight, .surveyProGear, .surveySpouseProGear]

def field : Amount → String
  | .packDays => "estimated_pack_days"
  | .transitDays => "estimated_transit_days"
  | .weightEstimate => "weight_estimate"
  | .proGearEstimate => "progear_weight_estimate"
  | .spouseProGearEstimate => "spouse_progear_weight_estimate"
  | .actualWeight => "actual_weight"
  | .surveyWeight => "pm_survey_weight_estimate"
  | .surveyProGear => "pm_survey_progear_weight_estimate"
  | .surveySpouseProGear => "pm_survey_spouse_progear_weight_estimate"

def of (s : Shipment) : Amount → Option Int
  | .packDays => s.packDays
  | .transitDays => s.transitDays
  | .weightEstimate => s.weightEstimate.map (·.value)
  | .proGearEstimate => s.proGearEstimate.map (·.value)
  | .spouseProGearEstimate => s.spouseProGearEstimate.map (·.value)
  | .actualWeight => s.actualWeight.map (·.value)
  | .surveyWeight => s.survey.weight.map (·.value)
  | .surveyProGear => s.survey.proGear.map (·.value)
  | .surveySpouseProGear => s.survey.spouseProGear.map (·.value)

end Amount

inductive Constraint where
  /-- The number is not below zero. -/
  | notNegative (amount : Amount)
  /-- There is a pickup address once the shipment is awarded. -/
  | pickupKnown
  /-- The line of the pickup address is not blank. -/
  | pickupLine (line : AddressLine)
  /-- The further address is there exactly if it is expected. -/
  | expected (further : SlotName)
  /-- The line of the further address that is expected is not blank. -/
  | furtherLine (further : SlotName) (line : AddressLine)
deriving DecidableEq

namespace Constraint

/-- The constraints of one further address. -/
def ofFurther (f : SlotName) : List Constraint :=
  .expected f :: AddressLine.all.map (.furtherLine f)

/-- All constraints, in the order in which they are reported. -/
def all : List Constraint :=
  Amount.all.map .notNegative ++ (.pickupKnown :: AddressLine.all.map .pickupLine) ++
    SlotName.all.flatMap ofFurther

/-- The field that is named if the constraint is violated. -/
def field : Constraint → String
  | .notNegative amount => amount.field
  | .pickupKnown => "pickup_address"
  | .pickupLine line => "pickup_address." ++ line.field
  | .expected further => further.field
  | .furtherLine further line => further.field ++ "." ++ line.field

def Holds (s : Shipment) : Constraint → Prop
  | .notNegative amount => ∀ v ∈ amount.of s, 0 ≤ v
  | .pickupKnown => ShipmentStatus.awarded.rank ≤ s.status.rank → s.pickupAddress.isSome = true
  | .pickupLine line => ∀ a ∈ s.pickupAddress, Text.blank (line.of a) = false
  | .expected further => (s.slot further).expected = (s.slot further).address.isSome
  | .furtherLine further line => (s.slot further).expected = true →
      ∀ a ∈ (s.slot further).address, Text.blank (line.of a) = false

instance (s : Shipment) : DecidablePred (Holds s)
  | .notNegative amount => inferInstanceAs (Decidable (∀ v ∈ amount.of s, 0 ≤ v))
  | .pickupKnown => inferInstanceAs (Decidable (_ ≤ _ → _ = true))
  | .pickupLine line =>
    inferInstanceAs (Decidable (∀ a ∈ s.pickupAddress, Text.blank (line.of a) = false))
  | .expected _ => inferInstanceAs (Decidable (_ = _))
  | .furtherLine further line => inferInstanceAs (Decidable ((s.slot further).expected = true →
      ∀ a ∈ (s.slot further).address, Text.blank (line.of a) = false))

/-- What is said against a shipment that violates the constraint. -/
def message (s : Shipment) : Constraint → String
  | .notNegative amount => toString ((amount.of s).getD 0) ++ " is less than zero"
  | .pickupKnown => "is required once the shipment is offered"
  | .pickupLine _ => "can not be blank"
  | .expected further =>
    if (s.slot further).expected then "is required when flagged as present"
    else "must be empty when not flagged as present"
  | .furtherLine _ _ => "can not be blank"

theorem mem_all (c : Constraint) : c ∈ all := by
  cases c with
  | notNegative amount => cases amount <;> decide
  | pickupKnown => decide
  | pickupLine line => cases line <;> decide
  | expected further => cases further <;> decide
  | furtherLine further line => cases further <;> cases line <;> decide

/-- No two constraints name one field. -/
theorem nodup_fields : (all.map field).Nodup := by decide +kernel

end Constraint

/-! ## Addresses -/

/-- What is said against the lines of an address that are blank. -/
def Address.blankLines (a : Address) : List (String × String) :=
  (AddressLine.all.filter fun line => Text.blank (line.of a)).map fun line =>
    (line.field, "can not be blank")

theorem Address.nodup_blankLines (a : Address) : (a.blankLines.map (·.1)).Nodup := by
  have hfields : (AddressLine.all.map AddressLine.field).Nodup := by decide
  unfold blankLines
  rw [List.map_map]
  exact hfields.sublist (List.filter_sublist.map _)

theorem Report.foldl_requirePresent (a : Address) (lines : List AddressLine) (r : Report) :
    lines.foldl (fun r line => r.requirePresent line.field (line.of a)) r =
      r.addAll ((lines.filter fun line => Text.blank (line.of a)).map fun line =>
        (line.field, "can not be blank")) := by
  induction lines generalizing r with
  | nil => rfl
  | cons line lines ih =>
    rw [List.foldl_cons, ih, requirePresent, List.filter_cons]
    split <;> rfl

theorem Address.report_eq_addAll (a : Address) : a.report = Report.empty.addAll a.blankLines :=
  Report.foldl_requirePresent a AddressLine.all Report.empty

/-- A report of messages against distinct fields is merged message by message. -/
theorem Report.merge_addAll {messages : List (String × String)}
    (h : (messages.map (·.1)).Nodup) (r : Report) (space : String) :
    r.merge space (empty.addAll messages) =
      r.addAll (messages.map fun m => (space ++ "." ++ m.1, m.2)) := by
  rw [merge, entries_addAll h, addAll, List.foldl_map, List.foldl_map]
  rfl

theorem Address.merge_report (a : Address) (r : Report) (space : String) :
    r.merge space a.report = r.addAll (a.blankLines.map fun m => (space ++ "." ++ m.1, m.2)) := by
  rw [report_eq_addAll]
  exact Report.merge_addAll a.nodup_blankLines r space

/-! ## What is said against a shipment -/

namespace Shipment

/-- The fields of the constraints that are violated, with what is said against them. -/
def violations (s : Shipment) (cs : List Constraint) : List (String × String) :=
  (cs.filter fun c => ¬ c.Holds s).map fun c => (c.field, c.message s)

variable {s : Shipment}

theorem violations_cons (c : Constraint) (cs : List Constraint) :
    s.violations (c :: cs) = s.violations [c] ++ s.violations cs := by
  unfold violations
  rw [← List.map_append, ← List.filter_append, List.singleton_append]

theorem violations_append (cs ds : List Constraint) :
    s.violations (cs ++ ds) = s.violations cs ++ s.violations ds := by
  unfold violations
  rw [List.filter_append, List.map_append]

theorem violations_eq_nil {cs : List Constraint} :
    s.violations cs = [] ↔ ∀ c ∈ cs, c.Holds s := by
  simp [violations, List.filter_eq_nil_iff]

/-- The lines of an address are all that is said against them. -/
theorem violations_lines (a : Address) (space : String) {c : AddressLine → Constraint}
    (hc : ∀ line, (c line).Holds s ↔ Text.blank (line.of a) = false)
    (hfield : ∀ line, (c line).field = space ++ "." ++ line.field)
    (hmessage : ∀ line, (c line).message s = "can not be blank") :
    s.violations (AddressLine.all.map c) =
      a.blankLines.map fun m => (space ++ "." ++ m.1, m.2) := by
  have hviolated : ∀ line, decide (¬ (c line).Holds s) = Text.blank (line.of a) := by
    intro line
    simp [hc]
  unfold violations Address.blankLines
  rw [List.filter_map, List.map_map, List.map_map]
  simp only [Function.comp_def, hviolated, hfield, hmessage]

theorem foldl_requireNonNegative (amounts : List Amount) (r : Report) :
    (amounts.map fun amount => (amount.field, amount.of s)).foldl
        (fun r e => r.requireNonNegative e.1 e.2) r =
      r.addAll (s.violations (amounts.map .notNegative)) := by
  induction amounts generalizing r with
  | nil => rfl
  | cons amount amounts ih =>
    rw [List.map_cons, List.foldl_cons, ih, List.map_cons, violations_cons, Report.addAll_append]
    refine congrArg (Report.addAll · _) ?_
    rcases hv : amount.of s with _ | v
    · simp [Report.requireNonNegative, violations, Constraint.Holds, hv, Report.addAll]
    · by_cases hneg : v < 0
      · simp [Report.requireNonNegative, violations, Constraint.Holds, Constraint.field,
          Constraint.message, hv, hneg, Report.addAll]
      · simp [Report.requireNonNegative, violations, Constraint.Holds, hv, hneg,
          Int.not_lt.mp hneg, Report.addAll]

theorem reportPickup_eq_addAll (r : Report) : s.reportPickup r =
    r.addAll (s.violations (.pickupKnown :: AddressLine.all.map .pickupLine)) := by
  rw [violations_cons]
  unfold reportPickup
  rcases ha : s.pickupAddress with _ | a
  · have hlines : s.violations (AddressLine.all.map .pickupLine) = [] :=
      violations_eq_nil.mpr (by simp [Constraint.Holds, ha])
    rw [hlines, List.append_nil]
    by_cases hoffered : s.status.isOffered = true
    · have hrank : ShipmentStatus.awarded.rank ≤ s.status.rank := of_decide_eq_true hoffered
      simp [hoffered, violations, Constraint.Holds, hrank, ha, Constraint.field,
        Constraint.message, Report.addAll]
    · have hrank : ¬ ShipmentStatus.awarded.rank ≤ s.status.rank :=
        fun h => hoffered (decide_eq_true h)
      simp [hoffered, violations, Constraint.Holds, hrank, Report.addAll]
  · have hknown : s.violations [.pickupKnown] = [] :=
      violations_eq_nil.mpr (by simp [Constraint.Holds, ha])
    have hlines : s.violations (AddressLine.all.map .pickupLine) = _ :=
      violations_lines a "pickup_address" (by simp [Constraint.Holds, ha]) (fun _ => rfl)
        fun _ => rfl
    rw [hknown, List.nil_append, hlines]
    exact a.merge_report r "pickup_address"

theorem slot_report_eq_addAll (further : SlotName) (r : Report) :
    (s.slot further).report further.field r =
      r.addAll (s.violations (Constraint.ofFurther further)) := by
  -- Nothing is said against the lines of an address that is not there or not expected.
  have hunread : ((s.slot further).expected = true → (s.slot further).address = none) →
      s.violations (AddressLine.all.map (.furtherLine further)) = [] := by
    intro h
    refine violations_eq_nil.mpr (List.forall_mem_map.mpr fun line _ hexpected a ha => ?_)
    rw [h hexpected] at ha
    cases ha
  unfold Constraint.ofFurther Slot.report
  rw [violations_cons]
  rcases hexpected : (s.slot further).expected with _ | _ <;>
    rcases ha : (s.slot further).address with _ | a
  · rw [hunread (by simp [hexpected])]
    simp [violations, Constraint.Holds, hexpected, ha, Report.addAll]
  · rw [hunread (by simp [hexpected])]
    simp [violations, Constraint.Holds, Constraint.field, Constraint.message, hexpected, ha,
      Report.addAll]
  · rw [hunread fun _ => ha]
    simp [violations, Constraint.Holds, Constraint.field, Constraint.message, hexpected, ha,
      Report.addAll]
  · have hagrees : s.violations [.expected further] = [] :=
      violations_eq_nil.mpr (by simp [Constraint.Holds, hexpected, ha])
    have hlines : s.violations (AddressLine.all.map (.furtherLine further)) = _ :=
      violations_lines a further.field (by simp [Constraint.Holds, hexpected, ha])
        (fun _ => rfl) fun _ => rfl
    rw [hagrees, List.nil_append, hlines]
    exact a.merge_report r further.field

theorem foldl_slot_report (fs : List SlotName) (r : Report) :
    fs.foldl (fun r further => (s.slot further).report further.field r) r =
      r.addAll (s.violations (fs.flatMap Constraint.ofFurther)) := by
  induction fs generalizing r with
  | nil => rfl
  | cons further fs ih =>
    rw [List.foldl_cons, ih, slot_report_eq_addAll, List.flatMap_cons, violations_append,
      Report.addAll_append]

/-- The checks of a shipment, made one after the other, report what it violates. -/
theorem report_eq_addAll (s : Shipment) :
    s.report = Report.empty.addAll (s.violations Constraint.all) := by
  have hreport : s.report = SlotName.all.foldl
      (fun r further => (s.slot further).report further.field r)
      (s.reportPickup ((Amount.all.map fun amount => (amount.field, amount.of s)).foldl
        (fun r e => r.requireNonNegative e.1 e.2) Report.empty)) := rfl
  rw [hreport, foldl_requireNonNegative, reportPickup_eq_addAll, foldl_slot_report,
    ← Report.addAll_append, ← Report.addAll_append, ← violations_append, ← violations_append]
  rfl

theorem nodup_violations (s : Shipment) : ((s.violations Constraint.all).map (·.1)).Nodup := by
  unfold violations
  rw [List.map_map]
  exact Constraint.nodup_fields.sublist (List.filter_sublist.map _)

/-- The report has one entry for each constraint that is violated. -/
theorem entries_report (s : Shipment) : s.report.fields.entries =
    (Constraint.all.filter fun c => ¬ c.Holds s).map fun c => (c.field, [c.message s]) := by
  rw [report_eq_addAll, Report.entries_addAll s.nodup_violations, violations, List.map_map]
  rfl

theorem isEmpty_report_iff (s : Shipment) :
    s.report.isEmpty = true ↔ ∀ c : Constraint, c.Holds s := by
  rw [report_eq_addAll, Report.isEmpty_addAll, List.isEmpty_iff, violations_eq_nil]
  exact ⟨fun h c => h c c.mem_all, fun h c _ => h c⟩

theorem mem_entries_report {c : Constraint} (h : ¬ c.Holds s) :
    (c.field, [c.message s]) ∈ s.report.fields.entries := by
  rw [entries_report, List.mem_map]
  exact ⟨c, List.mem_filter.mpr ⟨c.mem_all, decide_eq_true h⟩, rfl⟩

/-- A constraint that holds is not named on behalf of another one. -/
theorem field_notMem_report {c : Constraint} (h : c.Holds s) : c.field ∉ s.report.fields.keys := by
  unfold Table.keys
  rw [entries_report, List.map_map, List.mem_map]
  rintro ⟨d, hd, hfield⟩
  obtain ⟨hall, hviolated⟩ := List.mem_filter.mp hd
  obtain rfl : d = c := List.inj_on_of_nodup_map Constraint.nodup_fields hall c.mem_all hfield
  exact of_decide_eq_true hviolated h

/-- Under the field of a constraint stands what is said against its violation, and nothing else. -/
theorem get?_report (s : Shipment) (c : Constraint) :
    s.report.get? c.field = if c.Holds s then none else some [c.message s] := by
  unfold Report.get?
  split
  · rename_i h
    rw [Option.map_eq_none_iff, ← Option.not_isSome_iff_eq_none, Table.isSome_find?]
    exact field_notMem_report h
  · rename_i h
    rw [(Table.find?_eq_some_iff _ _ _).mpr ⟨mem_entries_report h, rfl⟩, Option.map_some]

/-- The report of a shipment has one message for each constraint that is violated, under the
field of the constraint and in the order of the constraints, and no other message. So it is
empty exactly if all constraints hold, and no violation hides another. -/
theorem reports_name_exactly_what_is_violated (s : Shipment) :
    s.report.fields.entries =
      (Constraint.all.filter fun c => ¬ c.Holds s).map (fun c => (c.field, [c.message s])) ∧
    (s.report.isEmpty = true ↔ ∀ c : Constraint, c.Holds s) ∧
    ∀ c : Constraint, s.report.get? c.field = if c.Holds s then none else some [c.message s] :=
  ⟨s.entries_report, s.isEmpty_report_iff, s.get?_report⟩

/-- A negative weight, no pickup address, two blank lines and an address that is not there
are named side by side. -/
example :
    let s : Shipment := { Shipment.new ⟨default⟩ ⟨default⟩ default with
      status := .awarded
      actualWeight := some ⟨-1⟩
      delivery := ⟨true, some ⟨"1 Main St", none, " ", "CA", "", none⟩⟩
      partialSitDelivery := ⟨true, none⟩ }
    s.report.fields.keys = ["actual_weight", "pickup_address", "delivery_address.city",
      "delivery_address.postal_code", "partial_sit_delivery_address"] := by
  decide

end Shipment

end Relocation
