-- The text of a shipment. It is JSON without any trap for a reader: nothing garbled, only
-- whole numbers and no name twice. So it is read back as the shipment, whatever stands
-- in its notes and its addresses.
import Relocation.Proofs.JsonTexts
import Relocation.Proofs.Records

namespace Relocation

open Json (Plain)

/-! ## Plain forms -/

section

variable {ρ α : Type} {write : α → Json} {name : String} {r : ρ}

theorem Member.plain_always (h : ∀ a, Plain (write a)) {get : ρ → α} :
    Plain ((always name write get).write r) := h (get r)

theorem Member.plain_maybe (h : ∀ a, Plain (write a)) {get : ρ → Option α} :
    Plain ((maybe name write get).write r) := by
  change Plain (Json.ofOption write (get r))
  cases get r with
  | none => exact .null
  | some a => exact h a

theorem Record.plain_toJson [Record ρ] (hdistinct : (names ρ).Nodup)
    (hwrite : ∀ m ∈ (members : List (Member ρ)), Plain (m.write r)) : Plain (toJson r) := by
  refine .obj ?_ fun m hm => ?_
  · rw [List.map_map]
    exact hdistinct
  · obtain ⟨m, hmem, rfl⟩ := List.mem_map.mp hm
    exact hwrite m hmem

end

open Member (plain_always plain_maybe)

theorem Id.plain {kind : IdKind} (id : Id kind) : Plain id.toJson := .str _

theorem Date.plain (d : Date) : Plain d.toJson := .str _

theorem Timestamp.plain (t : Timestamp) : Plain t.toJson := .str _

theorem Pounds.plain (w : Pounds) : Plain w.toJson := .int _

theorem ShipmentStatus.plain (s : ShipmentStatus) : Plain s.toJson := .str _

theorem SurveyMethod.plain (m : SurveyMethod) : Plain m.toJson := .str _

theorem Json.plain_ofNat (n : Nat) : Plain (ofNat n) := .int _

theorem Json.plain_ofList {α : Type} {write : α → Json} (h : ∀ a, Plain (write a)) (l : List α) :
    Plain (ofList write l) := .arr (List.forall_mem_map.mpr fun a _ => h a)

theorem Address.plain (a : Address) : Plain (Record.toJson a) := by
  refine Record.plain_toJson lawful.distinct ?_
  simp only [Record.members, List.forall_mem_cons]
  exact ⟨plain_always .str, plain_maybe .str, plain_always .str, plain_always .str,
    plain_always .str, plain_maybe .str, List.forall_mem_nil _⟩

theorem Survey.plain (s : Survey) : Plain (Record.toJson s) := by
  refine Record.plain_toJson lawful.distinct ?_
  simp only [Record.members, List.forall_mem_cons]
  exact ⟨plain_maybe Date.plain, plain_maybe Date.plain, plain_maybe Date.plain,
    plain_maybe Pounds.plain, plain_maybe Pounds.plain, plain_maybe Pounds.plain,
    plain_maybe .str, plain_maybe SurveyMethod.plain, List.forall_mem_nil _⟩

theorem Shipment.plain (s : Shipment) : Plain (Record.toJson s) := by
  refine Record.plain_toJson lawful.distinct ?_
  simp only [Record.members, List.forall_mem_cons]
  exact ⟨plain_always Id.plain, plain_always Id.plain, plain_maybe Id.plain,
    plain_always ShipmentStatus.plain, plain_always Json.plain_ofNat, plain_always Timestamp.plain,
    plain_always Timestamp.plain, plain_maybe Date.plain, plain_maybe Date.plain,
    plain_maybe Date.plain, plain_maybe Date.plain, plain_maybe .int, plain_maybe .int,
    plain_maybe Pounds.plain, plain_maybe Pounds.plain, plain_maybe Pounds.plain,
    plain_maybe Pounds.plain, plain_always Survey.plain, plain_maybe Address.plain,
    plain_always .bool, plain_maybe Address.plain, plain_always .bool, plain_maybe Address.plain,
    plain_always .bool, plain_maybe Address.plain, List.forall_mem_nil _⟩

/-! ## Texts -/

/-- A shipment of the earliest and the latest date, a leap second, the largest and the
smallest number, and notes that have to be escaped. -/
def Sample.oddShipment : Shipment where
  id := ⟨⟨0x123456789abcdef0123456789abcdef0, by decide⟩⟩
  moveId := ⟨default⟩
  status := .inTransit
  version := 18446744073709551615
  createdAt := ⟨default, ⟨23, by decide⟩, ⟨59, by decide⟩, ⟨59, by decide⟩,
    ⟨1123456000, by decide⟩⟩
  updatedAt := { (default : Timestamp) with nano := ⟨1, by decide⟩ }
  pickupDate := some Date.first
  deliveryDate := some Date.last
  packDays := some (-9223372036854775808)
  survey := { weight := some ⟨9223372036854775807⟩, notes := some "\"a\\b\"\n\x01é😀" }
  pickupAddress := some ⟨"1 Main St", some "", "Town", "CA", "90210", none⟩
  delivery := ⟨true, none⟩

end Relocation
