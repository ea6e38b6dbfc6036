-- Records in JSON. A record lists its members in order. It is written as an
-- object of them, and read from an object, whose unknown members are passed
-- over, or from an array of the values alone.
import Relocation.Json.Basic

namespace Relocation

/-! ## Members -/

/-- One member of the written form of a record. -/
structure Member (ρ : Type) where
  name : String
  /-- Whether a reader refuses the record without it. -/
  required : Bool
  write : ρ → Json

namespace Member

variable {ρ α : Type}

/-- A member that is always there. -/
def always (name : String) (write : α → Json) (get : ρ → α) : Member ρ :=
  ⟨name, true, fun r => write (get r)⟩

/-- A member that is `null` for none. -/
def maybe (name : String) (write : α → Json) (get : ρ → Option α) : Member ρ :=
  ⟨name, false, fun r => Json.ofOption write (get r)⟩

end Member

/-- What a reader sees of a record: the value under each name. -/
abbrev Row := String → Option Json

namespace Row

variable {α : Type}

/-- The member `name`, which has to be there. -/
def required (row : Row) (name : String) (read : Json → Option α) : Option α :=
  (row name).bind read

/-- The member `name`, where absence and `null` both mean none. -/
def optional (row : Row) (name : String) (read : Json → Option α) : Option (Option α) :=
  match row name with
  | none => some none
  | some .null => some none
  | some value => (read value).map some

/-- The member `name`, or `default` when it is absent. -/
def orElse (row : Row) (name : String) (read : Json → Option α) (default : α) : Option α :=
  match row name with
  | none => some default
  | some value => read value

end Row

/-! ## Records -/

/-- The value under a name: the first, should the name come twice. -/
def lookup (members : List (String × Json)) : Row := fun name =>
  (members.find? fun m => m.1 = name).map (·.2)

/-- How a type is written member by member and read back. -/
class Record (ρ : Type) where
  members : List (Member ρ)
  build : Row → Option ρ
  /-- Whether an array may leave out its last values. -/
  mayEndEarly : Bool := false

namespace Record

variable {ρ : Type} [Record ρ]

/-- The names of the members, in order. -/
def names (ρ : Type) [Record ρ] : List String := (members : List (Member ρ)).map (·.name)

/-- The row of a value: an object without two members of one known name, or
an array with a value for each member. -/
def row? (ρ : Type) [Record ρ] : Json → Option Row
  | .obj ms =>
    if (names ρ).all fun name => ms.countP (fun m => m.1 = name) ≤ 1 then some (lookup ms)
    else none
  | .arr items =>
    if items.length = (names ρ).length ∨
        (mayEndEarly ρ = true ∧ items.length ≤ (names ρ).length) then
      some (lookup ((names ρ).zip items))
    else none
  | _ => none

/-- The record as an object with all its members. -/
def toJson (r : ρ) : Json := .obj (members.map fun m => (m.name, m.write r))

/-- The record that a value writes. -/
def ofJson? (value : Json) : Option ρ := (row? ρ value).bind build

end Record

end Relocation
