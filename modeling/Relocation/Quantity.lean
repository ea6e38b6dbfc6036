-- Weights in whole pounds and distances in whole miles. A weight may be
-- negative, so that a wrong one can be reported rather than lost.
import Relocation.Json.Basic

namespace Relocation

/-- A weight in pounds. -/
structure Pounds where
  value : Int
deriving DecidableEq

namespace Pounds

instance : Inhabited Pounds := ⟨⟨0⟩⟩

instance : Add Pounds := ⟨fun a b => ⟨a.value + b.value⟩⟩

instance : LT Pounds := ⟨fun a b => a.value < b.value⟩

instance (a b : Pounds) : Decidable (a < b) := inferInstanceAs (Decidable (a.value < b.value))

instance : Ord Pounds := ⟨fun a b => compare a.value b.value⟩

def isNegative (w : Pounds) : Bool := w.value < 0

instance : ToString Pounds := ⟨fun w => toString w.value ++ " lbs"⟩

def toJson (w : Pounds) : Json := .int w.value

def ofJson? (value : Json) : Option Pounds := value.int64?.map Pounds.mk

end Pounds

/-- A distance in miles. -/
structure Miles where
  value : Nat
deriving DecidableEq

namespace Miles

instance : Inhabited Miles := ⟨⟨0⟩⟩

instance : ToString Miles := ⟨fun m => toString m.value ++ " mi"⟩

def toJson (m : Miles) : Json := .ofNat m.value

def ofJson? (value : Json) : Option Miles := value.nat32?.map Miles.mk

end Miles

end Relocation
