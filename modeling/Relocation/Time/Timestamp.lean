-- Instants in universal time, down to the nanosecond. A leap second is a second
-- of which the nanoseconds go on. In text they follow RFC 3339, where it is
-- second 60, and are written with `Z`; a reader takes any offset and turns the
-- time into universal time.
import Relocation.Time.DateText

namespace Relocation

/-- An instant in universal time. -/
structure Timestamp where
  date : Date
  hour : Fin 24
  minute : Fin 60
  second : Fin 60
  /-- The nanoseconds since the second began. From 1000000000 on they are those
  of a leap second that comes after it. -/
  nano : Fin 2000000000
deriving DecidableEq

namespace Timestamp

instance : Inhabited Timestamp := ⟨⟨default, 0, 0, 0, 0⟩⟩

/-! ## Writing -/

/-- The fraction of a second in three, six or nine digits, whichever is enough. -/
def fractionChars (nano : Nat) : List Char :=
  if nano = 0 then []
  else if nano % 1000000 = 0 then '.' :: Text.padded 3 (nano / 1000000)
  else if nano % 1000 = 0 then '.' :: Text.padded 6 (nano / 1000)
  else '.' :: Text.padded 9 nano

/-- The second that is written: a leap second counts on from the one before it. -/
def writtenSecond (t : Timestamp) : Nat := t.second + t.nano / 1000000000

def chars (t : Timestamp) : List Char :=
  t.date.chars ++ 'T' :: (Text.padded 2 t.hour ++ ':' :: (Text.padded 2 t.minute ++
    ':' :: (Text.padded 2 t.writtenSecond ++ (fractionChars (t.nano % 1000000000) ++ ['Z']))))

def text (t : Timestamp) : String := String.ofList t.chars

instance : ToString Timestamp := ⟨text⟩

/-! ## Reading -/

/-- The nanoseconds of a fraction, if a point comes next. Digits after the
ninth do not count. -/
def readFraction : List Char → Option (Nat × List Char)
  | '.' :: r =>
    match Text.spanDigits 9 r with
    | ([], _) => none
    | (ds, r) =>
      some (Nat.ofDigitChars 10 ds 0 * Nat.pow 10 (9 - ds.length), r.dropWhile Char.isDigit)
  | r => some (0, r)

/-- Two decimal digits. -/
def readPair : List Char → Option (Nat × List Char)
  | a :: b :: r =>
    if a.isDigit && b.isDigit then some (Nat.ofDigitChars 10 [a, b] 0, r) else none
  | _ => none

/-- The minutes of an offset after its sign. Colons and blanks may stand
between its hours and its minutes. -/
def readOffsetMinutes (cs : List Char) : Option (Int × List Char) := do
  let (hours, r) ← readPair cs
  let (minutes, r) ← readPair (r.dropWhile fun c => c == ':' || Text.isBlank c)
  if hours < 24 ∧ minutes < 60 then some (((60 * hours + minutes : Nat) : Int), r) else none

/-- The offset from universal time, in minutes. -/
def readOffset : List Char → Option (Int × List Char)
  | 'Z' :: r => some (0, r)
  | 'z' :: r => some (0, r)
  | '+' :: r => readOffsetMinutes r
  | '-' :: r => (readOffsetMinutes r).map fun p => (-p.1, p.2)
  | '−' :: r => (readOffsetMinutes r).map fun p => (-p.1, p.2)
  | u :: t :: c :: r =>
    if (u == 'U' || u == 'u') && (t == 'T' || t == 't') && (c == 'C' || c == 'c') then some (0, r)
    else none
  | _ => none

/-- The instant in universal time of a time that is `offset` minutes ahead of it.
Second 60 is the leap second after second 59. -/
def ofLocal? (date : Date) (hour minute second nano : Nat) (offset : Int) : Option Timestamp :=
  if hour < 24 ∧ minute < 60 ∧ second < 61 ∧ nano < 1000000000 then
    let total : Int := 60 * (hour : Int) + minute - offset
    (date.addDays? (total / 1440)).map fun d =>
      let within := (total % 1440).toNat
      ⟨d, Fin.ofNat 24 (within / 60), Fin.ofNat 60 within, Fin.ofNat 60 (min second 59),
        Fin.ofNat 2000000000 (if second = 60 then 1000000000 + nano else nano)⟩
  else none

/-- The rest after the letter or the blank between a date and a time. -/
def readDivider : List Char → Option (List Char)
  | 'T' :: r => some r
  | 't' :: r => some r
  | ' ' :: r => some r
  | _ => none

/-- The instant that the text writes, with blanks allowed at its end. -/
def parse? (s : String) : Option Timestamp := do
  let (date, r) ← Date.read s.toList
  let r ← readDivider r
  let (hour, r) ← Text.readSpacedNumber 2 r
  let r ← Text.readMark ':' r
  let (minute, r) ← Text.readSpacedNumber 2 r
  let r ← Text.readMark ':' r
  let (second, r) ← Text.readSpacedNumber 2 r
  let (nano, r) ← readFraction r
  let (offset, r) ← readOffset (Text.skipBlanks r)
  if Text.skipBlanks r = [] then ofLocal? date hour minute second nano offset else none

/-! ## Leap seconds -/

/-- If the instant lies in a leap second, that is written as second 60, because it comes at
the end of a minute. -/
def LeapIsSixty (t : Timestamp) : Prop := 1000000000 ≤ t.nano.val → t.writtenSecond = 60

instance (t : Timestamp) : Decidable t.LeapIsSixty := inferInstanceAs (Decidable (_ → _))

/-- The instant that the text says. A leap second before the last second of a minute is
written as that second of the minute, and there is nothing else that tells it. -/
def reread (t : Timestamp) : Timestamp :=
  if t.LeapIsSixty then t
  else { t with
    second := Fin.ofNat 60 t.writtenSecond
    nano := Fin.ofNat 2000000000 (t.nano - 1000000000) }

/-! ## JSON -/

def toJson (t : Timestamp) : Json := .str t.text

def ofJson? (value : Json) : Option Timestamp := value.str?.bind parse?

end Timestamp

end Relocation
