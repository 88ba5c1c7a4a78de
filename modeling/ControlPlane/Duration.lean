import ControlPlane.Text.Blank
import ControlPlane.Text.Whole

/-!
# Durations

Spans of whole milliseconds and their text.  A duration is read from a whole
number of at most 64 bits with the unit `ms`, `s` or `m`, or with none for
milliseconds; blanks around it are dropped.  It is written in milliseconds.
-/

namespace ControlPlane

/-- A span of time in whole milliseconds. -/
structure Duration where
  millis : Nat
  deriving DecidableEq, Repr

namespace Duration

open Text

/-- Why a text is no duration. -/
inductive Fault
  /-- What stands before the unit is no whole number. -/
  | number (fault : WholeFault)
  /-- The minutes do not fit as seconds; the text without blanks around it. -/
  | overflow (text : List Char)
  deriving DecidableEq, Repr

/-- The sentence for a fault. -/
def Fault.message : Fault → String
  | .number fault => fault.message
  | .overflow text => "duration " ++ String.ofList text ++ " overflows"

/-- A count of units of a given length. -/
def ofCount (unit : Nat) (digits : List Char) : Except Fault Duration :=
  match whole maxWord digits with
  | .error fault => .error (.number fault)
  | .ok n => .ok ⟨n * unit⟩

/-- The duration that a text without blanks around it writes. -/
def parseTrimmed (cs : List Char) : Except Fault Duration :=
  match ['m', 's'].isSuffixOf? cs, ['s'].isSuffixOf? cs, ['m'].isSuffixOf? cs with
  | some digits, _, _ => ofCount 1 digits
  | none, some digits, _ => ofCount 1000 digits
  | none, none, some digits => do
    let d ← ofCount 60000 digits
    if maxWord * 1000 < d.millis then throw (.overflow cs) else return d
  | none, none, none => ofCount 1 cs

/-- The duration that a text writes. -/
def parse (text : String) : Except Fault Duration := parseTrimmed (trim text.toList)

/-- The whole seconds of a duration. -/
def seconds (d : Duration) : Nat := d.millis / 1000

/-- The milliseconds past the whole seconds. -/
def subsecondMillis (d : Duration) : Nat := d.millis % 1000

/-- The text of a duration. -/
def text (d : Duration) : String := Nat.repr d.millis ++ "ms"

end Duration

end ControlPlane
