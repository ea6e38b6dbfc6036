-- Decimal numbers in text: written with leading zeros to a width, and read
-- off the front of the characters.
import Relocation.Text.Blank

namespace Relocation.Text

/-- The decimal digits of `n`, with zeros in front up to `width` digits. -/
def padded (width n : Nat) : List Char :=
  List.replicate (width - (Nat.toDigits 10 n).length) '0' ++ Nat.toDigits 10 n

/-- At most `most` leading digits: those digits and the rest. -/
def spanDigits (most : Nat) (cs : List Char) : List Char × List Char :=
  let ds := (cs.take most).takeWhile Char.isDigit
  (ds, cs.drop ds.length)

/-- A number of one to `most` digits from the front of the characters. -/
def readNumber (most : Nat) (cs : List Char) : Option (Nat × List Char) :=
  match spanDigits most cs with
  | ([], _) => none
  | (ds, r) => some (Nat.ofDigitChars 10 ds 0, r)

/-- A number after optional blanks. -/
def readSpacedNumber (most : Nat) (cs : List Char) : Option (Nat × List Char) :=
  readNumber most (skipBlanks cs)

/-- The rest after optional blanks and the mark `c`. -/
def readMark (c : Char) (cs : List Char) : Option (List Char) :=
  match skipBlanks cs with
  | [] => none
  | x :: r => if x = c then some r else none

end Relocation.Text
