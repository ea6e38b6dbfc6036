-- What a run of edits changes on a shipment. Operations may be refused in
-- between; those that go through and the surveys count the version up, as far
-- as there are versions. Each surveyed value is that of the last patch that has
-- one, each slot is as it was set last, and the first award sets the day of the
-- booking.
import Relocation.Proofs.Edits
import Relocation.Proofs.Messages

namespace Relocation

/-! ## Patches -/

namespace Survey

/-- The value of the last patch that has one. -/
def latest {α : Type} (field : Survey → Option α) (patches : List Survey) : Option α :=
  patches.reverse.findSome? field

/-- Each value of `t` is that of the last patch that has one, or else that of `s`. -/
structure PatchedBy (patches : List Survey) (s t : Survey) : Prop where
  packDate : t.packDate = (latest (·.packDate) patches).or s.packDate
  pickupDate : t.pickupDate = (latest (·.pickupDate) patches).or s.pickupDate
  deliveryDate : t.deliveryDate = (latest (·.deliveryDate) patches).or s.deliveryDate
  weight : t.weight = (latest (·.weight) patches).or s.weight
  proGear : t.proGear = (latest (·.proGear) patches).or s.proGear
  spouseProGear : t.spouseProGear = (latest (·.spouseProGear) patches).or s.spouseProGear
  notes : t.notes = (latest (·.notes) patches).or s.notes
  method : t.method = (latest (·.method) patches).or s.method

/-- A field that an update takes from the patch, if the patch has it, is the
latest one after many updates. -/
theorem field_foldl_update {α : Type} {field : Survey → Option α}
    (hfield : ∀ s patch, field (s.update patch) = (field patch).or (field s))
    (patches : List Survey) (s : Survey) :
    field (patches.foldl update s) = (latest field patches).or (field s) := by
  induction patches using List.reverseRecOn with
  | nil => rfl
  | append_singleton patches patch ih =>
    have hlatest : latest field (patches ++ [patch]) = (field patch).or (latest field patches) := by
      rw [latest, List.reverse_append, List.reverse_singleton, List.singleton_append,
        List.findSome?_cons]
      cases field patch <;> rfl
    rw [List.foldl_append, List.foldl_cons, List.foldl_nil, hfield, ih, hlatest, Option.or_assoc]

theorem patchedBy_foldl (patches : List Survey) (s : Survey) :
    PatchedBy patches s (patches.foldl update s) where
  packDate := field_foldl_update (fun _ _ => rfl) patches s
  pickupDate := field_foldl_update (fun _ _ => rfl) patches s
  deliveryDate := field_foldl_update (fun _ _ => rfl) patches s
  weight := field_foldl_update (fun _ _ => rfl) patches s
  proGear := field_foldl_update (fun _ _ => rfl) patches s
  spouseProGear := field_foldl_update (fun _ _ => rfl) patches s
  notes := field_foldl_update (fun _ _ => rfl) patches s
  method := field_foldl_update (fun _ _ => rfl) patches s

end Survey

/-! ## Settings of a slot -/

namespace Slot

/-- The slot `after` is as the last of the settings says: it has the flag of that
setting, and the address if it is flagged. Without settings it is as before. -/
structure SetBy (settings : List (Bool × Option Address)) (before after : Slot) : Prop where
  untouched : settings = [] → after = before
  expected : ∀ flag address, settings.getLast? = some (flag, address) → after.expected = flag
  address : ∀ flag address, settings.getLast? = some (flag, address) →
    ∀ a, after.address = some a ↔ flag = true ∧ address = some a

theorem setBy_nil (slot : Slot) : SetBy [] slot slot where
  untouched _ := rfl
  expected _ _ h := by cases h
  address _ _ h := by cases h

theorem setBy_snoc (settings : List (Bool × Option Address)) (x : Bool × Option Address)
    (before : Slot) : SetBy (settings ++ [x]) before (.set x.1 x.2) where
  untouched h := by simp at h
  expected flag address h := by
    rw [List.getLast?_concat, Option.some.injEq] at h
    rw [h]
    rfl
  address flag address h a := by
    rw [List.getLast?_concat, Option.some.injEq] at h
    rw [h]
    cases flag <;> simp [set]

theorem SetBy.tidy {settings : List (Bool × Option Address)} {before after : Slot}
    (h : SetBy settings before after) (hbefore : before.Tidy) : after.Tidy := by
  rcases hlast : settings.getLast? with _ | ⟨flag, address⟩
  · rw [h.untouched (List.getLast?_eq_none_iff.mp hlast)]
    exact hbefore
  · intro hsome
    obtain ⟨a, ha⟩ := Option.isSome_iff_exists.mp hsome
    obtain ⟨hflag, -⟩ := (h.address flag address hlast a).mp ha
    rw [h.expected flag address hlast, hflag]

end Slot

/-! ## One edit -/

namespace Shipment

namespace Edit

/-- The patch of a survey. -/
def patch? : Edit → Option Survey
  | .survey patch _ => some patch
  | _ => none

/-- What the edit sets the slot to: whether an address is expected, and which one is given. -/
def setting? (name : SlotName) : Edit → Option (Bool × Option Address)
  | .secondaryPickup expected address =>
    if name = .secondaryPickup then some (expected, address) else none
  | .delivery expected address => if name = .delivery then some (expected, address) else none
  | .partialSitDelivery expected address =>
    if name = .partialSitDelivery then some (expected, address) else none
  | _ => none

end Edit

section

variable [Build]

/-- The operation that the edit is, with its time, if it goes through. -/
def performs? (s : Shipment) : Edit → Option (ShipmentOperation × Timestamp)
  | .operation op now => if s.counts (.operation op now) then some (op, now) else none
  | _ => none

/-- The operations among the edits that go through. -/
def performed (s : Shipment) : List Edit → List (ShipmentOperation × Timestamp)
  | [] => []
  | e :: es => (s.performs? e).toList ++ (s.edit e).performed es

end

/-- The day on which an operation books the shipment. Only an award does. -/
def bookingDay? (done : ShipmentOperation × Timestamp) : Option Date :=
  if done.1 = .award then some done.2.date else none

/-- What no edit touches. -/
structure Untouched (s t : Shipment) : Prop where
  id : t.id = s.id
  moveId : t.moveId = s.moveId
  distributionListId : t.distributionListId = s.distributionListId
  createdAt : t.createdAt = s.createdAt
  requestedPickupDate : t.requestedPickupDate = s.requestedPickupDate
  pickupDate : t.pickupDate = s.pickupDate
  deliveryDate : t.deliveryDate = s.deliveryDate
  packDays : t.packDays = s.packDays
  transitDays : t.transitDays = s.transitDays
  weightEstimate : t.weightEstimate = s.weightEstimate
  proGearEstimate : t.proGearEstimate = s.proGearEstimate
  spouseProGearEstimate : t.spouseProGearEstimate = s.spouseProGearEstimate
  actualWeight : t.actualWeight = s.actualWeight
  pickupAddress : t.pickupAddress = s.pickupAddress

theorem Untouched.refl (s : Shipment) : s.Untouched s :=
  ⟨rfl, rfl, rfl, rfl, rfl, rfl, rfl, rfl, rfl, rfl, rfl, rfl, rfl, rfl⟩

variable {s t u : Shipment}

theorem Untouched.trans (h : s.Untouched t) (h' : t.Untouched u) : s.Untouched u where
  id := h'.id.trans h.id
  moveId := h'.moveId.trans h.moveId
  distributionListId := h'.distributionListId.trans h.distributionListId
  createdAt := h'.createdAt.trans h.createdAt
  requestedPickupDate := h'.requestedPickupDate.trans h.requestedPickupDate
  pickupDate := h'.pickupDate.trans h.pickupDate
  deliveryDate := h'.deliveryDate.trans h.deliveryDate
  packDays := h'.packDays.trans h.packDays
  transitDays := h'.transitDays.trans h.transitDays
  weightEstimate := h'.weightEstimate.trans h.weightEstimate
  proGearEstimate := h'.proGearEstimate.trans h.proGearEstimate
  spouseProGearEstimate := h'.spouseProGearEstimate.trans h.spouseProGearEstimate
  actualWeight := h'.actualWeight.trans h.actualWeight
  pickupAddress := h'.pickupAddress.trans h.pickupAddress

section

variable [Build]

/-- What an edit can do to the version and to the rest of a shipment. An operation is refused
and does nothing, or it is performed, or it moves the status and no more, because the
version is the last. -/
inductive EditCase (s : Shipment) : Edit → Shipment → Prop where
  | refused {op now} (none : s.performs? (.operation op now) = none) :
      EditCase s (.operation op now) s
  | performed {op now} (some : s.performs? (.operation op now) = some (op, now))
      (next : Version.HasNext s.version) : EditCase s (.operation op now) { s with
        status := op.target
        version := (s.version + 1) % Version.count
        updatedAt := now
        bookDate := if op = .award then s.bookDate.or (.some now.date) else s.bookDate }
  | overflow {op now} (none : s.performs? (.operation op now) = none)
      (last : ¬ Version.HasNext s.version) :
      EditCase s (.operation op now) { s with status := op.target, updatedAt := now }
  | survey {patch now} : EditCase s (.survey patch now) { s with
      survey := s.survey.update patch
      version := if Version.HasNext s.version then (s.version + 1) % Version.count else s.version
      updatedAt := now }
  | secondaryPickup {expected address} : EditCase s (.secondaryPickup expected address)
      (s.setSecondaryPickup expected address)
  | delivery {expected address} : EditCase s (.delivery expected address)
      (s.setDelivery expected address)
  | partialSitDelivery {expected address} : EditCase s (.partialSitDelivery expected address)
      (s.setPartialSitDelivery expected address)

theorem editCase (s : Shipment) (e : Edit) : s.EditCase e (s.edit e) := by
  cases e with
  | operation op now =>
    by_cases hstarts : s.status ∈ op.starts
    · by_cases hnext : Version.HasNext s.version
      · obtain ⟨hcounts, hedit⟩ := edit_of_performed hstarts hnext now
        rw [hedit]
        exact .performed (by rw [performs?, hcounts, if_pos rfl]) hnext
      · obtain ⟨hcounts, hedit⟩ := edit_of_overflow hstarts hnext now
        rw [hedit]
        exact .overflow (by simp [performs?, hcounts]) hnext
    · obtain ⟨hcounts, hedit⟩ := edit_of_refused hstarts now
      rw [hedit]
      exact .refused (by simp [performs?, hcounts])
  | survey patch now =>
    rw [(edit_survey s patch now).2]
    exact .survey
  | secondaryPickup expected address => exact .secondaryPickup
  | delivery expected address => exact .delivery
  | partialSitDelivery expected address => exact .partialSitDelivery

variable {e : Edit}

theorem EditCase.untouched (h : s.EditCase e t) : s.Untouched t := by
  cases h with
  | refused none => exact .refl s
  | performed | overflow | survey | secondaryPickup | delivery | partialSitDelivery =>
    constructor <;> rfl

/-- The version counts on, for an operation that is performed and for a survey. -/
theorem EditCase.version (h : s.EditCase e t) {n : Nat} (hn : s.version = Version.ofCount n) :
    t.version =
      Version.ofCount (n + (s.performs? e).toList.length + e.patch?.toList.length) := by
  cases h with
  | refused hnone => simpa [hnone, Edit.patch?] using hn
  | performed hsome hnext =>
    have hsucc := Version.ofCount_succ n
    rw [← hn, if_pos hnext] at hsucc
    rw [hsome]
    exact hsucc.symm
  | overflow hnone hlast => simpa [hnone, Edit.patch?] using hn
  | survey =>
    have hsucc := Version.ofCount_succ n
    rw [← hn] at hsucc
    exact hsucc.symm
  | secondaryPickup => exact hn
  | delivery => exact hn
  | partialSitDelivery => exact hn

theorem EditCase.bookDate (h : s.EditCase e t) :
    t.bookDate = s.bookDate.or ((s.performs? e).bind bookingDay?) := by
  cases h with
  | refused hnone => simp [hnone]
  | @performed op now hsome hnext =>
    rw [hsome]
    by_cases haward : op = .award <;> simp [haward, bookingDay?]
  | overflow hnone hlast => simp [hnone]
  | survey => simp [performs?]
  | secondaryPickup => simp [setSecondaryPickup, performs?]
  | delivery => simp [setDelivery, performs?]
  | partialSitDelivery => simp [setPartialSitDelivery, performs?]

theorem EditCase.survey_eq (h : s.EditCase e t) :
    t.survey = e.patch?.toList.foldl Survey.update s.survey := by
  cases h <;> rfl

theorem EditCase.slot (h : s.EditCase e t) (name : SlotName) : t.slot name =
    ((e.setting? name).map fun x => Slot.set x.1 x.2).getD (s.slot name) := by
  cases h with
  | refused | performed | overflow | survey => rfl
  | secondaryPickup | delivery | partialSitDelivery => cases name <;> rfl

/-! ## Runs of edits -/

theorem edits_snoc (s : Shipment) (es : List Edit) (e : Edit) :
    s.edits (es ++ [e]) = (s.edits es).edit e := by
  simp [edits]

theorem performed_append (s : Shipment) (es more : List Edit) :
    s.performed (es ++ more) = s.performed es ++ (s.edits es).performed more := by
  induction es generalizing s with
  | nil => rfl
  | cons e es ih =>
    rw [List.cons_append, performed, performed, ih, List.append_assoc]
    rfl

theorem performed_snoc (s : Shipment) (es : List Edit) (e : Edit) :
    s.performed (es ++ [e]) = s.performed es ++ ((s.edits es).performs? e).toList := by
  rw [performed_append, performed, performed, List.append_nil]

theorem untouched_edits (s : Shipment) (es : List Edit) : s.Untouched (s.edits es) := by
  induction es using List.reverseRecOn with
  | nil => exact .refl s
  | append_singleton es e ih =>
    rw [edits_snoc]
    exact ih.trans (editCase _ e).untouched

theorem version_edits (s : Shipment) (es : List Edit) (h : s.version < Version.count) :
    (s.edits es).version =
      Version.ofCount (s.version + (s.performed es).length + (es.filterMap Edit.patch?).length) := by
  induction es using List.reverseRecOn with
  | nil => exact (Version.ofCount_of_lt h).symm
  | append_singleton es e ih =>
    have hpatch : (([e] : List Edit).filterMap Edit.patch?) = e.patch?.toList := by
      cases h : e.patch? <;> simp [h]
    rw [edits_snoc, (editCase _ e).version ih, performed_snoc, List.filterMap_append, hpatch,
      List.length_append, List.length_append]
    congr 1
    omega

theorem bookDate_edits (s : Shipment) (es : List Edit) :
    (s.edits es).bookDate = s.bookDate.or ((s.performed es).findSome? bookingDay?) := by
  induction es using List.reverseRecOn with
  | nil => simp [edits, performed]
  | append_singleton es e ih =>
    have hday : ((s.edits es).performs? e).toList.findSome? bookingDay? =
        ((s.edits es).performs? e).bind bookingDay? := by
      cases (s.edits es).performs? e <;> simp
    rw [edits_snoc, (editCase _ e).bookDate, ih, performed_snoc, List.findSome?_append, hday,
      Option.or_assoc]

theorem survey_edits (s : Shipment) (es : List Edit) :
    (s.edits es).survey = (es.filterMap Edit.patch?).foldl Survey.update s.survey := by
  induction es using List.reverseRecOn with
  | nil => rfl
  | append_singleton es e ih =>
    rw [edits_snoc, (editCase _ e).survey_eq, ih, List.filterMap_append, List.foldl_append]
    cases h : e.patch? <;> simp [h]

theorem setBy_edits (s : Shipment) (es : List Edit) (name : SlotName) :
    Slot.SetBy (es.filterMap (Edit.setting? name)) (s.slot name) ((s.edits es).slot name) := by
  induction es using List.reverseRecOn with
  | nil => exact Slot.setBy_nil _
  | append_singleton es e ih =>
    rw [edits_snoc, (editCase _ e).slot, List.filterMap_append]
    rcases h : e.setting? name with _ | x
    · simpa [h] using ih
    · simpa [h] using Slot.setBy_snoc _ x _

/-! ## All that a run changes -/

end

end Shipment

/-- A shipment that has been changed as often as can be counted. -/
def Sample.lastVersion : Shipment := { shipment with version := 18446744073709551615 }

end Relocation
