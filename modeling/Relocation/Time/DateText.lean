-- Dates in text, as `2018-06-13`. A year below 0 or above 9999 is written
-- with its sign. Reading allows blanks before each part and fewer digits.
import Relocation.Json.Basic
import Relocation.Text.Decimal
import Relocation.Time.Date

namespace Relocation.Date

/-! ## Writing -/

/-- A year: four digits, or a sign and at least four. -/
def yearChars (y : Int) : List Char :=
  if 0 ≤ y ∧ y ≤ 9999 then Text.padded 4 y.toNat
  else (if y < 0 then '-' else '+') :: Text.padded 4 y.natAbs

def chars (d : Date) : List Char :=
  yearChars d.year ++ '-' :: (Text.padded 2 d.month ++ '-' :: Text.padded 2 d.day)

def text (d : Date) : String := String.ofList d.chars

instance : ToString Date := ⟨text⟩

/-! ## Reading -/

/-- A year after optional blanks: with a sign of any length, without one of
at most four digits. -/
def readYear (cs : List Char) : Option (Int × List Char) :=
  match Text.skipBlanks cs with
  | '-' :: r => (Text.readNumber r.length r).map fun p => (-(p.1 : Int), p.2)
  | '+' :: r => (Text.readNumber r.length r).map fun p => ((p.1 : Int), p.2)
  | r => (Text.readNumber 4 r).map fun p => ((p.1 : Int), p.2)

/-- A date from the front of the characters. -/
def read (cs : List Char) : Option (Date × List Char) := do
  let (year, r) ← readYear cs
  let r ← Text.readMark '-' r
  let (month, r) ← Text.readSpacedNumber 2 r
  let r ← Text.readMark '-' r
  let (day, r) ← Text.readSpacedNumber 2 r
  let d ← ofYmd? year month day
  some (d, r)

/-- The date that the text writes, with blanks allowed at its end. -/
def parse? (s : String) : Option Date :=
  match read s.toList with
  | some (d, r) => if Text.skipBlanks r = [] then some d else none
  | none => none

/-! ## JSON -/

def toJson (d : Date) : Json := .str d.text

def ofJson? (value : Json) : Option Date := value.str?.bind parse?

end Relocation.Date
