-- Reading JSON text, strictly by the grammar: one value with blanks around
-- it, no comments, no trailing commas and no raw controls in strings. The
-- grammar lets half of a surrogate pair stand alone in a string, though no
-- text has it: such a string is read as a garbled value. Each function takes
-- what it reads off the front of the characters and gives back the rest.
import Relocation.Json.Basic
import Relocation.Text.Hex

namespace Relocation.Json

/-- The four blanks of the grammar. -/
def isSpace (c : Char) : Bool := c == ' ' || c == '\t' || c == '\n' || c == '\r'

def skipSpaces (cs : List Char) : List Char := cs.dropWhile isSpace

/-! ## Strings -/

/-- What a backslash before the character stands for. -/
def unescape? : Char → Option Char
  | '"' => some '"'
  | '\\' => some '\\'
  | '/' => some '/'
  | 'b' => some '\x08'
  | 'f' => some '\x0c'
  | 'n' => some '\n'
  | 'r' => some '\r'
  | 't' => some '\t'
  | _ => none

/-- What stands in a string: a character, or half of a surrogate pair. -/
inductive Piece where
  | char (c : Char)
  | half (unit : Nat)

/-- What an escape by number stands for. -/
def Piece.ofUnit (u : Nat) : Piece :=
  if 0xD800 ≤ u ∧ u < 0xE000 then .half u else .char (Char.ofNat u)

/-- The pieces of a string after its opening quote, and the rest after its end. -/
def readPieces : List Char → Option (List Piece × List Char)
  | [] => none
  | '"' :: r => some ([], r)
  | '\\' :: 'u' :: a :: b :: c :: d :: r =>
    match Text.Hex.read? [a, b, c, d] with
    | none => none
    | some u => (readPieces r).map fun p => (.ofUnit u :: p.1, p.2)
  | '\\' :: c :: r =>
    match unescape? c with
    | none => none
    | some x => (readPieces r).map fun p => (.char x :: p.1, p.2)
  | c :: r =>
    if c.toNat < 0x20 then none else (readPieces r).map fun p => (.char c :: p.1, p.2)

/-- The character that two halves make: a high one and a low one after it. -/
def pairChar? (high low : Nat) : Option Char :=
  if high < 0xDC00 ∧ 0xDC00 ≤ low then
    some (Char.ofNat (0x10000 + (high - 0xD800) * 0x400 + (low - 0xDC00)))
  else none

/-- The characters of a string, none if half of a pair stands alone in it. -/
def joinPieces : List Piece → Option (List Char)
  | [] => some []
  | .char c :: r => (joinPieces r).map (c :: ·)
  | .half u :: .half v :: r => do
    let c ← pairChar? u v
    let cs ← joinPieces r
    some (c :: cs)
  | .half _ :: _ => none

/-- What a string holds after its opening quote, none if it is garbled, and
the rest after its end. -/
def readString (cs : List Char) : Option (Option (List Char) × List Char) :=
  (readPieces cs).map fun p => (joinPieces p.1, p.2)

/-! ## Numbers -/

/-- The leading decimal digits. -/
def digits (cs : List Char) : List Char := cs.takeWhile Char.isDigit

/-- The rest after the leading decimal digits. -/
def afterDigits (cs : List Char) : List Char := cs.dropWhile Char.isDigit

/-- A fraction, if a point comes next. -/
def readFraction : List Char → Option (List Char × List Char)
  | '.' :: r => if digits r = [] then none else some ('.' :: digits r, afterDigits r)
  | r => some ([], r)

/-- The digits of an exponent after the characters that open it. -/
def readExponentDigits (opening r : List Char) : Option (List Char × List Char) :=
  if digits r = [] then none else some (opening ++ digits r, afterDigits r)

/-- An exponent, if one comes next. -/
def readExponent : List Char → Option (List Char × List Char)
  | 'e' :: '+' :: r => readExponentDigits ['e', '+'] r
  | 'e' :: '-' :: r => readExponentDigits ['e', '-'] r
  | 'e' :: r => readExponentDigits ['e'] r
  | 'E' :: '+' :: r => readExponentDigits ['E', '+'] r
  | 'E' :: '-' :: r => readExponentDigits ['E', '-'] r
  | 'E' :: r => readExponentDigits ['E'] r
  | r => some ([], r)

/-- A whole part has no zero in front of another digit. -/
def wholePart (cs : List Char) : Bool :=
  match cs with
  | [] => false
  | ['0'] => true
  | c :: _ => c != '0'

/-- The number without its sign. -/
def readUnsigned (negative : Bool) (cs : List Char) : Option (Json × List Char) :=
  let whole := digits cs
  if wholePart whole then
    match readFraction (afterDigits cs) with
    | none => none
    | some (fraction, r) =>
      match readExponent r with
      | none => none
      | some (exponent, r) =>
        if fraction = [] ∧ exponent = [] ∧ ¬ (negative ∧ whole = ['0']) then
          let n : Nat := Nat.ofDigitChars 10 whole 0
          some (.int (if negative then -(n : Int) else n), r)
        else
          let sign := if negative then ['-'] else []
          some (.decimal (String.ofList (sign ++ whole ++ fraction ++ exponent)), r)
  else none

def readNumber : List Char → Option (Json × List Char)
  | '-' :: r => readUnsigned true r
  | r => readUnsigned false r

/-! ## Values -/

/-- The string of what was read. -/
def ofChars : Option (List Char) → Json
  | some cs => .str (String.ofList cs)
  | none => .garbled

/-- The object of what was read. -/
def ofMembers : Option (List (String × Json)) → Json
  | some members => .obj members
  | none => .garbled

/-- One more member in front, unless its name or one after it is garbled. -/
def consMember (name : Option (List Char)) (x : Json) (rest : Option (List (String × Json))) :
    Option (List (String × Json)) := do
  let cs ← name
  let members ← rest
  some ((String.ofList cs, x) :: members)

/-- The name of a member with its colon. -/
def readName (cs : List Char) : Option (Option (List Char) × List Char) :=
  match skipSpaces cs with
  | '"' :: r =>
    match readString r with
    | none => none
    | some (name, r) =>
      match skipSpaces r with
      | ':' :: r => some (name, r)
      | _ => none
  | _ => none

mutual

/-- A value and the rest. The first argument bounds how many values and
closing brackets are still read. -/
def readValue : Nat → List Char → Option (Json × List Char)
  | 0, _ => none
  | n + 1, cs =>
    match skipSpaces cs with
    | 'n' :: 'u' :: 'l' :: 'l' :: r => some (.null, r)
    | 't' :: 'r' :: 'u' :: 'e' :: r => some (.bool true, r)
    | 'f' :: 'a' :: 'l' :: 's' :: 'e' :: r => some (.bool false, r)
    | '"' :: r => (readString r).map fun p => (ofChars p.1, p.2)
    | '[' :: r =>
      match skipSpaces r with
      | ']' :: r => some (.arr [], r)
      | r =>
        match readValue n r with
        | none => none
        | some (x, r) => (readItems n r).map fun p => (.arr (x :: p.1), p.2)
    | '\x7b' :: r =>
      match skipSpaces r with
      | '\x7d' :: r => some (.obj [], r)
      | r =>
        match readName r with
        | none => none
        | some (name, r) =>
          match readValue n r with
          | none => none
          | some (x, r) =>
            (readMembers n r).map fun p => (ofMembers (consMember name x p.1), p.2)
    | r => readNumber r

/-- The items after the first, with the closing bracket. -/
def readItems : Nat → List Char → Option (List Json × List Char)
  | 0, _ => none
  | n + 1, cs =>
    match skipSpaces cs with
    | ']' :: r => some ([], r)
    | ',' :: r =>
      match readValue n r with
      | none => none
      | some (x, r) => (readItems n r).map fun p => (x :: p.1, p.2)
    | _ => none

/-- The members after the first, none if a name is garbled, with the closing brace. -/
def readMembers : Nat → List Char → Option (Option (List (String × Json)) × List Char)
  | 0, _ => none
  | n + 1, cs =>
    match skipSpaces cs with
    | '\x7d' :: r => some (some [], r)
    | ',' :: r =>
      match readName r with
      | none => none
      | some (name, r) =>
        match readValue n r with
        | none => none
        | some (x, r) => (readMembers n r).map fun p => (consMember name x p.1, p.2)
    | _ => none

end

/-- The value that the text writes. Every value takes a character, so the
length of the text bounds how many there are. -/
def parse? (s : String) : Option Json :=
  match readValue (s.toList.length + 1) s.toList with
  | some (value, r) => if skipSpaces r = [] then some value else none
  | none => none

end Relocation.Json
