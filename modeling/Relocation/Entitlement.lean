-- What a service member may ship by rank, and the days that packing and
-- transit take.
import Relocation.Failure
import Relocation.Quantity

namespace Relocation

/-! ## Ranks -/

/-- The pay grades. -/
inductive Rank where
  | academyCadet
  | aviationCadet
  | e1
  | e2
  | e3
  | e4
  | e5
  | e6
  | e7
  | e8
  | e9
  | midshipman
  | o1
  | o2
  | o3
  | o4
  | o5
  | o6
  | o7
  | o8
  | o9
  | o10
  | w1
  | w2
  | w3
  | w4
  | w5
  | civilianEmployee
deriving DecidableEq

namespace Rank

/-- Every rank. -/
def all : List Rank :=
  [.academyCadet, .aviationCadet, .e1, .e2, .e3, .e4, .e5, .e6, .e7, .e8, .e9, .midshipman,
    .o1, .o2, .o3, .o4, .o5, .o6, .o7, .o8, .o9, .o10, .w1, .w2, .w3, .w4, .w5,
    .civilianEmployee]

/-- The literal that stands for the rank. -/
def name : Rank → String
  | .academyCadet => "ACADEMY_CADET"
  | .aviationCadet => "AVIATION_CADET"
  | .e1 => "E_1"
  | .e2 => "E_2"
  | .e3 => "E_3"
  | .e4 => "E_4"
  | .e5 => "E_5"
  | .e6 => "E_6"
  | .e7 => "E_7"
  | .e8 => "E_8"
  | .e9 => "E_9"
  | .midshipman => "MIDSHIPMAN"
  | .o1 => "O_1"
  | .o2 => "O_2"
  | .o3 => "O_3"
  | .o4 => "O_4"
  | .o5 => "O_5"
  | .o6 => "O_6"
  | .o7 => "O_7"
  | .o8 => "O_8"
  | .o9 => "O_9"
  | .o10 => "O_10"
  | .w1 => "W_1"
  | .w2 => "W_2"
  | .w3 => "W_3"
  | .w4 => "W_4"
  | .w5 => "W_5"
  | .civilianEmployee => "CIVILIAN_EMPLOYEE"

def toJson (r : Rank) : Json := .str r.name

def ofJson? : Json → Option Rank := Json.literal? (all.map fun r => (r.name, r))

end Rank

/-! ## Allotments -/

/-- The weights that a rank may ship, in pounds. -/
structure Allotment where
  alone : Int
  withDependents : Int
  proGear : Int
  spouseProGear : Int
deriving DecidableEq

/-- The allotment with the usual weights for professional gear. -/
def Allotment.withGear (alone withDependents : Int) : Allotment :=
  ⟨alone, withDependents, 2000, 500⟩

/-- The allotment of a rank. -/
def Rank.allotment : Rank → Allotment
  | .academyCadet | .midshipman => ⟨350, 350, 0, 0⟩
  | .aviationCadet => .withGear 7000 8000
  | .e1 | .e2 | .e3 | .e4 => .withGear 5000 8000
  | .e5 => .withGear 7000 9000
  | .e6 => .withGear 8000 11000
  | .e7 => .withGear 11000 13000
  | .e8 => .withGear 12000 14000
  | .e9 => .withGear 13000 15000
  | .o1 | .w1 => .withGear 10000 12000
  | .o2 | .w2 => .withGear 12500 13500
  | .o3 | .w3 => .withGear 13000 14500
  | .o4 | .w4 => .withGear 14000 17000
  | .o5 | .w5 => .withGear 16000 17500
  | .o6 | .o7 | .o8 | .o9 | .o10 | .civilianEmployee => .withGear 18000 18000

/-- The weight that may be shipped: the household, the member's professional
gear, and the spouse's if there are dependents. -/
def Rank.weight (rank : Rank) (dependents spouseGear : Bool) : Pounds :=
  let a := rank.allotment
  ⟨(if dependents then a.withDependents else a.alone) + a.proGear +
    (if dependents && spouseGear then a.spouseProGear else 0)⟩

theorem Rank.allotment_nonneg (rank : Rank) :
    0 ≤ rank.allotment.alone ∧ 0 ≤ rank.allotment.withDependents ∧ 0 ≤ rank.allotment.proGear ∧
      0 ≤ rank.allotment.spouseProGear := by
  cases rank <;> decide

theorem Rank.weight_nonneg (rank : Rank) (dependents spouseGear : Bool) :
    0 ≤ (rank.weight dependents spouseGear).value := by
  have := rank.allotment_nonneg
  simp only [weight]
  split <;> split <;> omega

/-! ## Days -/

/-- The workdays that packing takes. -/
def packDays (weight : Pounds) : Nat :=
  if weight.value < 4000 then 1 else if weight.value < 8000 then 2 else 3

theorem packDays_le (weight : Pounds) : packDays weight ≤ 3 := by
  unfold packDays
  split
  · decide
  · split <;> decide

/-- Shipments below this weight travel on the light schedule. -/
def lightLimit : Pounds := ⟨1000⟩

/-- A band of the transit schedule. -/
structure Band where
  /-- The longest distance of the band, in miles. -/
  upTo : Nat
  regular : Nat
  light : Nat

/-- The bands of the transit schedule, by distance. -/
def bands : List Band :=
  [⟨250, 6, 12⟩, ⟨500, 9, 15⟩, ⟨750, 11, 17⟩, ⟨1000, 13, 19⟩, ⟨1250, 15, 21⟩, ⟨1500, 17, 23⟩,
    ⟨1750, 19, 25⟩, ⟨2000, 21, 27⟩, ⟨2250, 23, 29⟩, ⟨2500, 24, 30⟩, ⟨2750, 26, 32⟩,
    ⟨3000, 27, 33⟩, ⟨3250, 29, 35⟩, ⟨3500, 30, 36⟩, ⟨3800, 32, 38⟩]

/-- The days on the road. A negative weight and a distance of zero are
reported together; a distance beyond the last band comes after them. -/
def transitDays (weight : Pounds) (distance : Miles) : Except Failure Nat := do
  let r := Report.empty.requireNonNegative "weight" (some weight.value)
  let r := if distance.value = 0 then r.add "transit_distance" "must be greater than zero" else r
  r.check
  match bands.find? fun band => distance.value ≤ band.upTo with
  | some band => .ok (if weight < lightLimit then band.light else band.regular)
  | none =>
    .error (.onField "transit_distance" (toString distance ++ " is beyond the transit schedule"))

/-- The days on the road are those of the first band that reaches as far. -/
theorem transitDays_eq_ok {weight : Pounds} {distance : Miles} {days : Nat} :
    transitDays weight distance = .ok days ↔
      (0 ≤ weight.value ∧ distance.value ≠ 0) ∧
        ∃ band, bands.find? (fun band => distance.value ≤ band.upTo) = some band ∧
          (if weight < lightLimit then band.light else band.regular) = days := by
  have hinput (r : Report) :
      (if distance.value = 0 then r.add "transit_distance" "must be greater than zero"
        else r).isEmpty = true ↔ r.isEmpty = true ∧ distance.value ≠ 0 := by
    by_cases h : distance.value = 0 <;> simp [h]
  have hweight : (Report.empty.requireNonNegative "weight" (some weight.value)).isEmpty = true ↔
      0 ≤ weight.value := by
    simp
  simp only [transitDays, bind_check_eq_ok, hinput, hweight]
  refine and_congr_right fun _ => ?_
  split <;> simp [*]

/-- Up to 3800 miles, no shipment is on the road for more than 38 days. -/
theorem exists_transitDays {weight : Pounds} {distance : Miles} (hweight : 0 ≤ weight.value)
    (hdistance : distance.value ≠ 0) (hreach : distance.value ≤ 3800) :
    ∃ days ≤ 38, transitDays weight distance = .ok days := by
  have hsome : (bands.find? fun band => distance.value ≤ band.upTo).isSome = true :=
    List.find?_isSome.mpr ⟨⟨3800, 32, 38⟩, by simp [bands], by simpa using hreach⟩
  obtain ⟨band, hband⟩ := Option.isSome_iff_exists.mp hsome
  have hdays : ∀ band ∈ bands, band.regular ≤ 38 ∧ band.light ≤ 38 := by decide
  have hbounds := hdays band (List.mem_of_find?_eq_some hband)
  refine ⟨_, ?_, transitDays_eq_ok.mpr ⟨⟨hweight, hdistance⟩, band, hband, rfl⟩⟩
  split
  · exact hbounds.2
  · exact hbounds.1

theorem bands_ascending :
    bands.Pairwise fun near far => near.regular ≤ far.regular ∧ near.light ≤ far.light := by
  decide

/-- The band of a shorter way takes no more days. -/
theorem band_mono {near far : Nat} (h : near ≤ far) {band band' : Band}
    (hnear : bands.find? (fun b => near ≤ b.upTo) = some band)
    (hfar : bands.find? (fun b => far ≤ b.upTo) = some band') :
    band.regular ≤ band'.regular ∧ band.light ≤ band'.light := by
  obtain ⟨hreach, before, after, hbands, -⟩ := List.find?_eq_some_iff_append.mp hfar
  have hnearReach : decide (near ≤ band'.upTo) = true :=
    decide_eq_true (Nat.le_trans h (of_decide_eq_true hreach))
  have hascending := bands_ascending
  rw [hbands] at hnear hascending
  rw [List.find?_append, List.find?_cons, hnearReach] at hnear
  rcases Option.or_eq_some_iff.mp hnear with hbefore | ⟨-, hsame⟩
  · have hmem := List.mem_of_find?_eq_some hbefore
    exact (List.pairwise_append.mp hascending).2.2 band hmem band' List.mem_cons_self
  · obtain rfl := Option.some.inj hsame
    exact ⟨Nat.le_refl _, Nat.le_refl _⟩

/-- A shorter way takes no more days on the road. -/
theorem transitDays_mono {weight : Pounds} {near far : Miles} {days days' : Nat}
    (h : near.value ≤ far.value) (hnear : transitDays weight near = .ok days)
    (hfar : transitDays weight far = .ok days') : days ≤ days' := by
  obtain ⟨-, band, hband, rfl⟩ := transitDays_eq_ok.mp hnear
  obtain ⟨-, band', hband', rfl⟩ := transitDays_eq_ok.mp hfar
  obtain ⟨hregular, hlight⟩ := band_mono h hband hband'
  split
  · exact hlight
  · exact hregular

/-- Refuses an estimate above the entitlement. -/
def checkEstimate (estimate entitlement : Pounds) : Except Failure Unit :=
  if entitlement < estimate then .error (.overweight estimate.value entitlement.value) else .ok ()

/-- Where weights and days come from. -/
structure Entitlements where
  weight : Rank → (dependents spouseGear : Bool) → Pounds
  packDays : Pounds → Nat
  transitDays : Pounds → Miles → Except Failure Nat

/-- The tables above. -/
def Entitlements.standard : Entitlements := ⟨Rank.weight, Relocation.packDays, Relocation.transitDays⟩

end Relocation
