-- The records of the relocation, each with the values that its types can hold. All
-- written forms of each are read as that record, as far as the text of a timestamp says it.
import Relocation.Agent
import Relocation.Offer
import Relocation.Proofs.Forms
import Relocation.Proofs.RecordForms
import Relocation.Schedule
import Relocation.Shipment.Form

namespace Relocation

/-! ## Values -/

namespace Json

/-- The number is one of 64 bits without a sign. -/
def FitsNat64 (n : Nat) : Prop := n < 18446744073709551616

/-- The number is one of 32 bits without a sign. -/
def FitsNat32 (n : Nat) : Prop := n < 4294967296

/-- The number is one of 64 bits with a sign. -/
def FitsInt64 (n : Int) : Prop := -9223372036854775808 ≤ n ∧ n ≤ 9223372036854775807

instance (n : Nat) : Decidable (FitsNat64 n) := inferInstanceAs (Decidable (n < _))

instance (n : Nat) : Decidable (FitsNat32 n) := inferInstanceAs (Decidable (n < _))

instance (n : Int) : Decidable (FitsInt64 n) := inferInstanceAs (Decidable (_ ∧ _))

theorem reads_bool : Reads bool? .bool fun _ => True := ⟨fun _ => rfl, rfl⟩

theorem reads_str : Reads str? .str fun _ => True := ⟨fun _ => rfl, rfl⟩

theorem reads_natBelow (bound : Nat) : Reads (natBelow? bound) ofNat fun n => n < bound where
  back {n} h := by
    simp only [natBelow?, ofNat]
    rw [if_pos ⟨Int.natCast_nonneg n, Int.ofNat_lt.mpr h⟩, Int.toNat_natCast]
  null := rfl

theorem reads_nat64 : Reads nat64? ofNat FitsNat64 := reads_natBelow _

theorem reads_nat32 : Reads nat32? ofNat FitsNat32 := reads_natBelow _

theorem reads_int64 : Reads int64? .int FitsInt64 where
  back h := if_pos h
  null := rfl

/-- Literals are read back where each value has its own. -/
theorem reads_literal {α : Type} (all : List α) (name : α → String) (hall : ∀ a, a ∈ all)
    (hdistinct : (all.map name).Nodup) :
    Reads (literal? (all.map fun a => (name a, a))) (fun a => .str (name a)) fun _ => True where
  back {a} _ := by
    have hkeys : ((all.map fun a => (name a, a)).map Prod.fst).Nodup := by
      rwa [List.map_map]
    have hmem : (name a, a) ∈ all.map fun a => (name a, a) := List.mem_map_of_mem (hall a)
    have hfind := find?_of_mem Prod.fst hkeys hmem
    simp only [literal?]
    rw [hfind, Option.map_some]
  null := rfl

theorem reads_list {α : Type} {read : Json → Option α} {write : α → Json}
    (h : Reads read write fun _ => True) : Reads (list? read) (ofList write) fun _ => True where
  back {l} _ := by
    simp only [list?, ofList]
    induction l with
    | nil => rfl
    | cons a l ih =>
      rw [List.map_cons, List.mapM_cons, h.back trivial, ih]
      rfl
  null := rfl

end Json

open Json (FitsInt64 FitsNat64 reads_bool reads_str reads_nat64 reads_int64 reads_literal reads_list)

theorem Id.reads {kind : IdKind} : Reads (ofJson? : Json → Option (Id kind)) toJson fun _ => True :=
  ⟨fun _ => ofJson?_toJson _, rfl⟩

theorem Date.reads : Reads ofJson? toJson fun _ => True := ⟨fun _ => ofJson?_toJson _, rfl⟩

theorem Timestamp.reads : Reads ofJson? toJson LeapIsSixty := ⟨ofJson?_toJson, rfl⟩

/-- The weight is a number of 64 bits. -/
def Pounds.Fits (w : Pounds) : Prop := FitsInt64 w.value

instance (w : Pounds) : Decidable w.Fits := inferInstanceAs (Decidable (FitsInt64 w.value))

theorem Pounds.reads : Reads ofJson? toJson Fits where
  back h := congrArg (Option.map Pounds.mk) (reads_int64.back h)
  null := rfl

theorem ShipmentStatus.reads : Reads ofJson? toJson fun _ => True :=
  reads_literal all name (by intro s; cases s <;> decide) (by decide)

theorem SurveyMethod.reads : Reads ofJson? toJson fun _ => True :=
  reads_literal all name (by intro m; cases m <;> decide) (by decide)

theorem AgentRole.reads : Reads ofJson? toJson fun _ => True :=
  reads_literal all name (by intro r; cases r <;> decide) (by decide)

theorem Rank.reads : Reads ofJson? toJson fun _ => True :=
  reads_literal all name (by intro r; cases r <;> decide) (by decide)

/-! ## Records -/

open Record (Lawful)

/-- The weights are numbers of 64 bits. -/
structure Survey.Fits (s : Survey) : Prop where
  weight : ∀ w ∈ s.weight, w.Fits
  proGear : ∀ w ∈ s.proGear, w.Fits
  spouseProGear : ∀ w ∈ s.spouseProGear, w.Fits

/-- The version is a number of 64 bits. -/
def Offer.Fits (o : Offer) : Prop := FitsNat64 o.version

/-- The numbers are of 64 bits, those of the survey too. -/
structure Shipment.Fits (s : Shipment) : Prop where
  version : FitsNat64 s.version
  packDays : ∀ n ∈ s.packDays, FitsInt64 n
  transitDays : ∀ n ∈ s.transitDays, FitsInt64 n
  weightEstimate : ∀ w ∈ s.weightEstimate, w.Fits
  proGearEstimate : ∀ w ∈ s.proGearEstimate, w.Fits
  spouseProGearEstimate : ∀ w ∈ s.spouseProGearEstimate, w.Fits
  actualWeight : ∀ w ∈ s.actualWeight, w.Fits
  survey : s.survey.Fits

/-! ### Times in records

A leap second comes at the end of a minute and is written as second 60. A timestamp can be
set into one after any other second as well; its text is then that of the second that
follows, and is read as that one. So the record that the text of a record says is the record
with the timestamps that their texts say. -/

def Shipment.LeapsAreSixty (s : Shipment) : Prop :=
  s.createdAt.LeapIsSixty ∧ s.updatedAt.LeapIsSixty

def Shipment.reread (s : Shipment) : Shipment :=
  { s with createdAt := s.createdAt.reread, updatedAt := s.updatedAt.reread }

def Offer.LeapsAreSixty (o : Offer) : Prop := o.createdAt.LeapIsSixty ∧ o.updatedAt.LeapIsSixty

def Offer.reread (o : Offer) : Offer :=
  { o with createdAt := o.createdAt.reread, updatedAt := o.updatedAt.reread }

def Agent.LeapsAreSixty (a : Agent) : Prop := a.createdAt.LeapIsSixty

def Agent.reread (a : Agent) : Agent := { a with createdAt := a.createdAt.reread }

theorem Shipment.leapsAreSixty_reread (s : Shipment) : s.reread.LeapsAreSixty :=
  ⟨s.createdAt.leapIsSixty_reread, s.updatedAt.leapIsSixty_reread⟩

theorem Offer.leapsAreSixty_reread (o : Offer) : o.reread.LeapsAreSixty :=
  ⟨o.createdAt.leapIsSixty_reread, o.updatedAt.leapIsSixty_reread⟩

theorem Shipment.Fits.reread {s : Shipment} (h : s.Fits) : s.reread.Fits :=
  ⟨h.version, h.packDays, h.transitDays, h.weightEstimate, h.proGearEstimate,
    h.spouseProGearEstimate, h.actualWeight, h.survey⟩

theorem Shipment.reread_eq_self_iff {s : Shipment} : s.reread = s ↔ s.LeapsAreSixty := by
  rw [Shipment.LeapsAreSixty, ← Timestamp.reread_eq_self_iff, ← Timestamp.reread_eq_self_iff]
  constructor
  · intro h
    exact ⟨congrArg Shipment.createdAt h, congrArg Shipment.updatedAt h⟩
  · rintro ⟨hcreated, hupdated⟩
    rw [Shipment.reread, hcreated, hupdated]

theorem Offer.reread_eq_self_iff {o : Offer} : o.reread = o ↔ o.LeapsAreSixty := by
  rw [Offer.LeapsAreSixty, ← Timestamp.reread_eq_self_iff, ← Timestamp.reread_eq_self_iff]
  constructor
  · intro h
    exact ⟨congrArg Offer.createdAt h, congrArg Offer.updatedAt h⟩
  · rintro ⟨hcreated, hupdated⟩
    rw [Offer.reread, hcreated, hupdated]

theorem Agent.reread_eq_self_iff {a : Agent} : a.reread = a ↔ a.LeapsAreSixty := by
  rw [Agent.LeapsAreSixty, ← Timestamp.reread_eq_self_iff]
  constructor
  · intro h
    exact congrArg Agent.createdAt h
  · intro hcreated
    rw [Agent.reread, hcreated]

theorem Address.lawful : Lawful Address fun _ => True where
  distinct := by decide
  whole := rfl
  back {row a} _ hshown := by
    simp only [Record.members, List.forall_mem_cons] at hshown
    obtain ⟨hstreet1, hstreet2, hcity, hstate, hpostalCode, hcountry, -⟩ := hshown
    simp only [Record.build, reads_str.always hstreet1, reads_str.maybe hstreet2,
      reads_str.always hcity, reads_str.always hstate, reads_str.always hpostalCode,
      reads_str.maybe hcountry]
    rfl
  demands _ := .required rfl fun _ => .optional fun _ => .required rfl fun _ =>
    .required rfl fun _ => .required rfl fun _ => .nil

theorem Survey.lawful : Lawful Survey Survey.Fits where
  distinct := by decide
  whole := rfl
  back {row s} hfits hshown := by
    simp only [Record.members, List.forall_mem_cons] at hshown
    obtain ⟨hpack, hpickup, hdelivery, hweight, hproGear, hspouse, hnotes, hmethod, -⟩ := hshown
    simp only [Record.build, Date.reads.maybe hpack, Date.reads.maybe hpickup,
      Date.reads.maybe hdelivery, Pounds.reads.optional hweight hfits.weight,
      Pounds.reads.optional hproGear hfits.proGear,
      Pounds.reads.optional hspouse hfits.spouseProGear, reads_str.maybe hnotes,
      SurveyMethod.reads.maybe hmethod]
    rfl
  demands _ := .nil

theorem AgentRequest.lawful : Lawful AgentRequest fun _ => True where
  distinct := by decide
  whole := rfl
  back {row r} _ hshown := by
    simp only [Record.members, List.forall_mem_cons] at hshown
    obtain ⟨hrole, hcontact, hemail, hphone, hfax, hprefersEmail, hprefersPhone, hnotes, -⟩ := hshown
    simp only [Record.build, AgentRole.reads.maybe hrole, reads_str.maybe hcontact,
      reads_str.maybe hemail, reads_str.maybe hphone, reads_str.maybe hfax,
      reads_bool.maybe hprefersEmail, reads_bool.maybe hprefersPhone, reads_str.maybe hnotes]
    rfl
  demands _ := .nil

theorem Agent.lawful : Lawful Agent Agent.LeapsAreSixty where
  distinct := by decide
  whole := rfl
  back {row a} hleaps hshown := by
    simp only [Record.members, List.forall_mem_cons] at hshown
    obtain ⟨hid, hshipment, hrole, hcontact, hemail, hphone, hfax, hprefersEmail, hprefersPhone,
      hnotes, hcreated, -⟩ := hshown
    simp only [Record.build, Id.reads.always hid, Id.reads.always hshipment,
      AgentRole.reads.always hrole, reads_str.always hcontact, reads_str.maybe hemail,
      reads_str.maybe hphone, reads_str.maybe hfax, reads_bool.maybe hprefersEmail,
      reads_bool.maybe hprefersPhone, reads_str.maybe hnotes,
      Timestamp.reads.required hcreated hleaps]
    rfl
  demands _ := .required rfl fun _ => .required rfl fun _ => .required rfl fun _ =>
    .required rfl fun _ => .optional fun _ => .optional fun _ => .optional fun _ =>
    .optional fun _ => .optional fun _ => .optional fun _ => .required rfl fun _ => .nil

theorem Offer.lawful : Lawful Offer fun o => o.Fits ∧ o.LeapsAreSixty where
  distinct := by decide
  whole := rfl
  back {row o} hall hshown := by
    obtain ⟨hfits, hleaps⟩ := hall
    simp only [Record.members, List.forall_mem_cons] at hshown
    obtain ⟨hid, hshipment, hprovider, haccepted, hreason, hversion, hcreated, hupdated, -⟩ := hshown
    simp only [Record.build, Id.reads.always hid, Id.reads.always hshipment,
      Id.reads.always hprovider, reads_bool.maybe haccepted, reads_str.maybe hreason,
      reads_nat64.required hversion hfits,
      Timestamp.reads.required hcreated hleaps.1, Timestamp.reads.required hupdated hleaps.2]
    rfl
  demands _ := .required rfl fun _ => .required rfl fun _ => .required rfl fun _ =>
    .optional fun _ => .optional fun _ => .required rfl fun _ => .required rfl fun _ =>
    .required rfl fun _ => .nil

theorem MoveDates.lawful : Lawful MoveDates fun _ => True where
  distinct := by decide
  whole := rfl
  back {row d} _ hshown := by
    simp only [Record.members, List.forall_mem_cons] at hshown
    obtain ⟨hpack, hpickup, htransit, hdelivery, hreport, -⟩ := hshown
    have hdates := reads_list Date.reads
    simp only [Record.build, hdates.always hpack, hdates.always hpickup, hdates.always htransit,
      hdates.always hdelivery, hdates.always hreport]
    rfl
  demands _ := .required rfl fun _ => .required rfl fun _ => .required rfl fun _ =>
    .required rfl fun _ => .required rfl fun _ => .nil

theorem Orders.lawful : Lawful Orders fun _ => True where
  distinct := by decide
  whole := rfl
  back {row o} _ hshown := by
    simp only [Record.members, List.forall_mem_cons] at hshown
    obtain ⟨hrank, hdependents, hspouse, hreportBy, -⟩ := hshown
    simp only [Record.build, Rank.reads.always hrank, reads_bool.always hdependents,
      reads_bool.always hspouse, Date.reads.always hreportBy]
    rfl
  demands _ := .required rfl fun _ => .required rfl fun _ => .required rfl fun _ =>
    .required rfl fun _ => .nil

theorem Shipment.lawful : Lawful Shipment fun s => s.Fits ∧ s.LeapsAreSixty where
  distinct := by decide
  whole := rfl
  back {row s} hall hshown := by
    obtain ⟨hfits, hleaps⟩ := hall
    simp only [Record.members, List.forall_mem_cons] at hshown
    obtain ⟨hid, hmove, hlist, hstatus, hversion, hcreated, hupdated, hrequested, hpickup, hdelivery,
      hbook, hpackDays, htransitDays, hweight, hproGear, hspouse, hactual, hsurvey, hpickupAddress,
      hsecondary, hsecondaryAddress, hdeliveryFlag, hdeliveryAddress, hpartial, hpartialAddress, -⟩ :=
      hshown
    simp only [Record.build, Id.reads.always hid, Id.reads.always hmove, Id.reads.maybe hlist,
      ShipmentStatus.reads.always hstatus, reads_nat64.required hversion hfits.version,
      Timestamp.reads.required hcreated hleaps.1, Timestamp.reads.required hupdated hleaps.2,
      Date.reads.maybe hrequested, Date.reads.maybe hpickup, Date.reads.maybe hdelivery,
      Date.reads.maybe hbook, reads_int64.optional hpackDays hfits.packDays,
      reads_int64.optional htransitDays hfits.transitDays,
      Pounds.reads.optional hweight hfits.weightEstimate,
      Pounds.reads.optional hproGear hfits.proGearEstimate,
      Pounds.reads.optional hspouse hfits.spouseProGearEstimate,
      Pounds.reads.optional hactual hfits.actualWeight,
      Survey.lawful.reads.required hsurvey hfits.survey, Address.lawful.reads.maybe hpickupAddress,
      reads_bool.always hsecondary, Address.lawful.reads.maybe hsecondaryAddress,
      reads_bool.always hdeliveryFlag, Address.lawful.reads.maybe hdeliveryAddress,
      reads_bool.always hpartial, Address.lawful.reads.maybe hpartialAddress]
    rfl
  demands _ := .required rfl fun _ => .required rfl fun _ => .optional fun _ =>
    .required rfl fun _ => .required rfl fun _ => .required rfl fun _ => .required rfl fun _ =>
    .optional fun _ => .optional fun _ => .optional fun _ => .optional fun _ => .optional fun _ =>
    .optional fun _ => .optional fun _ => .optional fun _ => .optional fun _ => .optional fun _ =>
    .required rfl fun _ => .optional fun _ => .required rfl fun _ => .optional fun _ =>
    .required rfl fun _ => .optional fun _ => .required rfl fun _ => .nil

/-! ## All forms -/

open Record (Interchangeable WritesAlike kept)

theorem Shipment.writesAlike_reread (s : Shipment) : WritesAlike s s.reread := by
  unfold WritesAlike
  simp [Record.members, Member.always, Member.maybe, reread, Timestamp.toJson,
    Timestamp.text_reread]

theorem Offer.writesAlike_reread (o : Offer) : WritesAlike o o.reread := by
  unfold WritesAlike
  simp [Record.members, Member.always, Member.maybe, reread, Timestamp.toJson,
    Timestamp.text_reread]

theorem Agent.writesAlike_reread (a : Agent) : WritesAlike a a.reread := by
  unfold WritesAlike
  simp [Record.members, Member.always, Member.maybe, reread, Timestamp.toJson,
    Timestamp.text_reread]

/-- An offer without an answer. -/
def Sample.openOffer : Offer where
  id := ⟨⟨1, by decide⟩⟩
  shipmentId := ⟨⟨2, by decide⟩⟩
  providerId := ⟨⟨3, by decide⟩⟩
  version := 4
  createdAt := default
  updatedAt := default

/-- Its members from the last to the first, without those that are `null` and with one
that no reader knows. -/
def Sample.rearranged : List (String × Json) :=
  [("remark", .str "urgent"), ("updated_at", .str "0001-01-01T00:00:00Z"),
    ("created_at", .str "0001-01-01T00:00:00Z"), ("version", .int 4),
    ("provider_id", .str "00000000-0000-0000-0000-000000000003"),
    ("shipment_id", .str "00000000-0000-0000-0000-000000000002"),
    ("id", .str "00000000-0000-0000-0000-000000000001")]

end Relocation
