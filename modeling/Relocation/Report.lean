-- Reports of violated constraints: messages grouped by field, the fields in
-- the order in which they were first reported.
import Relocation.Json.Record
import Relocation.Table
import Relocation.Text.Blank

namespace Relocation

/-- The messages reported against each field. -/
structure Report where
  fields : Table (String × List String) Prod.fst
deriving DecidableEq

namespace Report

/-- The report without messages. -/
def empty : Report := ⟨.empty⟩

instance : Inhabited Report := ⟨empty⟩

/-- The messages against a field. -/
def get? (r : Report) (field : String) : Option (List String) := (r.fields.find? field).map (·.2)

/-- Adds messages at the end of those against a field. -/
def extend (r : Report) (field : String) (messages : List String) : Report :=
  ⟨r.fields.insert (field, (r.get? field).getD [] ++ messages)⟩

/-- Adds one message against a field. -/
def add (r : Report) (field message : String) : Report := r.extend field [message]

/-- Adds all of another report, with `space.` before each of its fields. -/
def merge (r : Report) (space : String) (other : Report) : Report :=
  other.fields.entries.foldl (fun r e => r.extend (space ++ "." ++ e.1) e.2) r

def isEmpty (r : Report) : Bool := r.fields.entries.isEmpty

/-- How many fields have messages. -/
def size (r : Report) : Nat := r.fields.entries.length

/-- Every message with its field before it. -/
def lines (r : Report) : List String :=
  r.fields.entries.flatMap fun e => e.2.map fun message => e.1 ++ ": " ++ message

instance : ToString Report := ⟨fun r => "; ".intercalate r.lines⟩

/-! ## Constraints -/

/-- Reports a number below zero. -/
def requireNonNegative (r : Report) (field : String) : Option Int → Report
  | some v => if v < 0 then r.add field (toString v ++ " is less than zero") else r
  | none => r

/-- Reports a blank text. -/
def requirePresent (r : Report) (field text : String) : Report :=
  if Text.blank text then r.add field "can not be blank" else r

/-! ## Reports without messages -/

@[simp] theorem isEmpty_empty : empty.isEmpty = true := rfl

@[simp] theorem isEmpty_extend (r : Report) (field : String) (messages : List String) :
    (r.extend field messages).isEmpty = false :=
  List.isEmpty_eq_false_iff.mpr (put_ne_nil _ _ _)

@[simp] theorem isEmpty_add (r : Report) (field message : String) :
    (r.add field message).isEmpty = false := isEmpty_extend r field [message]

@[simp] theorem isEmpty_requirePresent (r : Report) (field text : String) :
    (r.requirePresent field text).isEmpty = (!Text.blank text && r.isEmpty) := by
  unfold requirePresent
  by_cases h : Text.blank text = true <;> simp [h]

@[simp] theorem isEmpty_requireNonNegative (r : Report) (field : String) (n : Option Int) :
    (r.requireNonNegative field n).isEmpty = (n.all (0 ≤ ·) && r.isEmpty) := by
  cases n with
  | none => simp [requireNonNegative]
  | some n =>
    by_cases h : 0 ≤ n
    · simp [requireNonNegative, h, Int.not_lt.mpr h]
    · simp [requireNonNegative, h, Int.not_le.mp h]

/-- A merged report is empty if both reports were. -/
@[simp] theorem isEmpty_merge (r : Report) (space : String) (other : Report) :
    (r.merge space other).isEmpty = (r.isEmpty && other.isEmpty) := by
  unfold merge
  rw [isEmpty.eq_def other]
  induction other.fields.entries generalizing r with
  | nil => simp
  | cons e es ih => simp [ih]

/-! ## JSON -/

/-- The fields with their messages, as an object. -/
def fieldsToJson (t : Table (String × List String) Prod.fst) : Json :=
  .obj (t.entries.map fun e => (e.1, .ofList .str e.2))

/-- A field that comes twice keeps its first place and takes its last messages. -/
def fieldsOfJson? : Json → Option (Table (String × List String) Prod.fst)
  | .obj members => (members.mapM readField).map Table.empty.insertAll
  | _ => none
where
  readField (m : String × Json) : Option (String × List String) :=
    (m.2.list? Json.str?).map fun messages => (m.1, messages)

instance : Record Report where
  members := [.always "errors" fieldsToJson (·.fields)]
  build row := do
    let fields ← row.required "errors" fieldsOfJson?
    some ⟨fields⟩

end Report

end Relocation
