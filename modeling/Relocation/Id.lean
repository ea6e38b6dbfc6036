-- Identities of records: 128 bits with the kind of record they belong to in
-- their type, so that an offer's id is never taken for a shipment's.
import Relocation.Json.Basic
import Relocation.Text.Hex

namespace Relocation

/-! ## Uuids -/

/-- A number of 128 bits. -/
structure Uuid where
  value : Nat
  lt : value < 0x100000000000000000000000000000000
deriving DecidableEq

namespace Uuid

instance : Inhabited Uuid := ⟨⟨0, by decide⟩⟩

/-- The text form: 32 digits in groups of 8, 4, 4, 4 and 12. -/
def chars (u : Uuid) : List Char :=
  let ds := Text.Hex.fixed 32 u.value
  ds.take 8 ++ '-' :: ((ds.drop 8).take 4 ++ '-' :: ((ds.drop 12).take 4 ++
    '-' :: ((ds.drop 16).take 4 ++ '-' :: ds.drop 20)))

def text (u : Uuid) : String := String.ofList u.chars

/-- The uuid of exactly 32 digits. -/
def ofDigits? (ds : List Char) : Option Uuid :=
  if ds.length = 32 then
    (Text.Hex.read? ds).bind fun n =>
      if h : n < 0x100000000000000000000000000000000 then some ⟨n, h⟩ else none
  else none

/-- The uuid of digits in five groups. -/
def ofGroups? (cs : List Char) : Option Uuid :=
  if cs.length = 36 ∧ cs[8]? = some '-' ∧ cs[13]? = some '-' ∧ cs[18]? = some '-' ∧
      cs[23]? = some '-' then
    ofDigits? (cs.take 8 ++ ((cs.drop 9).take 4 ++ ((cs.drop 14).take 4 ++
      ((cs.drop 19).take 4 ++ cs.drop 24))))
  else none

/-- The uuid in groups between braces. -/
def ofBraced? (cs : List Char) : Option Uuid :=
  if cs.head? = some '\x7b' ∧ cs.getLast? = some '\x7d' then ofGroups? cs.tail.dropLast else none

/-- The uuid in groups after its name space, in letters of either case. -/
def ofUrn? (cs : List Char) : Option Uuid :=
  if (cs.take 9).map Char.toLower = "urn:uuid:".toList then ofGroups? (cs.drop 9) else none

/-- Reads 32 digits, plain or in groups, and the groups also between braces
or as a URN. -/
def parse? (s : String) : Option Uuid :=
  let cs := s.toList
  if cs.length = 32 then ofDigits? cs
  else if cs.length = 36 then ofGroups? cs
  else if cs.length = 38 then ofBraced? cs
  else if cs.length = 45 then ofUrn? cs
  else none

end Uuid

/-! ## Typed ids -/

/-- What an id identifies. -/
inductive IdKind where
  | shipment
  | offer
  | provider
  | agent
  | move
  | distributionList

/-- An id of one kind. -/
structure Id (kind : IdKind) where
  uuid : Uuid
deriving DecidableEq

abbrev ShipmentId := Id .shipment
abbrev OfferId := Id .offer
abbrev ProviderId := Id .provider
abbrev AgentId := Id .agent
abbrev MoveId := Id .move
abbrev DistributionListId := Id .distributionList

namespace Id

variable {kind : IdKind}

instance : Inhabited (Id kind) := ⟨⟨default⟩⟩

instance : Ord (Id kind) := ⟨fun a b => compare a.uuid.value b.uuid.value⟩

/-- The same number as an id of another kind. -/
def cast {other : IdKind} (id : Id kind) : Id other := ⟨id.uuid⟩

def text (id : Id kind) : String := id.uuid.text

instance : ToString (Id kind) := ⟨text⟩

def toJson (id : Id kind) : Json := .str id.text

def ofJson? (value : Json) : Option (Id kind) := value.str?.bind fun s => (Uuid.parse? s).map Id.mk

end Id

end Relocation
