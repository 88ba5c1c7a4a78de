import ControlPlane.Json.Reader
import ControlPlane.Json.Value

/-!
# Values with a JSON form

A type whose values are written as JSON and read again.  The two directions
are kept together, so that a type has one form.
-/

namespace ControlPlane.Json

/-- A type with a JSON form. -/
class Wire (α : Type) where
  /-- The form of a value. -/
  json : α → Value
  /-- Reads a value from its form. -/
  reader : Reader α

instance : Wire Bool := ⟨.bool, bool⟩
instance : Wire String := ⟨.text, text⟩
instance : Wire UInt64 := ⟨fun n => .whole n.toNat, word64⟩
instance : Wire UInt32 := ⟨fun n => .whole n.toNat, word32⟩
instance : Wire Int := ⟨.whole, integer64⟩
instance : Wire Float := ⟨.fraction, float⟩

instance {α : Type} [Wire α] : Wire (List α) :=
  ⟨fun l => .array (l.map Wire.json), list Wire.reader⟩

/-- Reads the value that a text holds, and writes it again. -/
def Wire.reprint (α : Type) [Wire α] (s : String) : Except Fault Value :=
  (decode (Wire.reader (α := α)) s).map Wire.json

end ControlPlane.Json
