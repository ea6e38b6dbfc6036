-- JSON values. Members of an object keep their order and may repeat a name.
-- Whole numbers are exact; every other number stays as it was written. What
-- JSON can write but no text can hold is kept as a value without content.

namespace Relocation

/-- A JSON value. -/
inductive Json where
  | null
  | bool (value : Bool)
  | int (value : Int)
  /-- A number with a fraction or an exponent, or a negative zero. -/
  | decimal (written : String)
  | str (text : String)
  | arr (items : List Json)
  | obj (members : List (String × Json))
  /-- A string in which half of a surrogate pair stands alone, or an object
  with such a string for a name. No reader takes it for anything. -/
  | garbled

instance : Inhabited Json := ⟨.null⟩

namespace Json

/-! ## Writing values -/

/-- The value written with `write`, or `null` for none. -/
def ofOption {α : Type} (write : α → Json) : Option α → Json
  | some a => write a
  | none => .null

/-- The array of the values written with `write`. -/
def ofList {α : Type} (write : α → Json) (l : List α) : Json := .arr (l.map write)

/-- A natural number as a value. -/
def ofNat (n : Nat) : Json := .int n

/-! ## Reading values -/

def bool? : Json → Option Bool
  | .bool b => some b
  | _ => none

def str? : Json → Option String
  | .str s => some s
  | _ => none

/-- A whole number from `low` to `high`. -/
def intIn? (low high : Int) : Json → Option Int
  | .int n => if low ≤ n ∧ n ≤ high then some n else none
  | _ => none

/-- A whole number of at least zero and below `bound`. -/
def natBelow? (bound : Nat) : Json → Option Nat
  | .int n => if 0 ≤ n ∧ n < bound then some n.toNat else none
  | _ => none

/-- A signed number of 64 bits. -/
def int64? : Json → Option Int := intIn? (-9223372036854775808) 9223372036854775807

/-- An unsigned number of 64 bits. -/
def nat64? : Json → Option Nat := natBelow? 18446744073709551616

/-- An unsigned number of 32 bits. -/
def nat32? : Json → Option Nat := natBelow? 4294967296

/-- An array whose items `read` reads. -/
def list? {α : Type} (read : Json → Option α) : Json → Option (List α)
  | .arr items => items.mapM read
  | _ => none

/-- One of the literals, as a string or as the name of a lone `null` member. -/
def literal? {α : Type} (table : List (String × α)) : Json → Option α
  | .str s => (table.find? fun e => e.1 = s).map (·.2)
  | .obj [(s, .null)] => (table.find? fun e => e.1 = s).map (·.2)
  | _ => none

/-! ## Repeated names -/

mutual

/-- The value in which, of the members with one name, each object keeps the
last, as a reader that gathers them into a map does. -/
def lastWins : Json → Json
  | .arr items => .arr (lastWinsItems items)
  | .obj members => .obj (lastWinsMembers members)
  | value => value

def lastWinsItems : List Json → List Json
  | [] => []
  | x :: xs => lastWins x :: lastWinsItems xs

def lastWinsMembers : List (String × Json) → List (String × Json)
  | [] => []
  | (name, value) :: rest =>
    if rest.any fun m => m.1 = name then lastWinsMembers rest
    else (name, lastWins value) :: lastWinsMembers rest

end

end Json

end Relocation
