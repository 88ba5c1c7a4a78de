import ControlPlane.Json.Wire
import ControlPlane.Text.Scan

/-!
# Replication schemes

How the data of a container is spread over nodes: full copies on one or three
nodes that agree through a consensus log, or pieces of an erasure code.
-/

namespace ControlPlane

open Json Text

/-- How many full copies a replicated container has. -/
inductive Copies
  | one
  | three
  deriving DecidableEq, Repr

/-- The two kinds of scheme. -/
inductive Family
  | ratis
  | ec
  deriving DecidableEq, Repr

/-- A replication scheme. -/
inductive Scheme
  /-- Full copies behind a consensus log. -/
  | ratis (copies : Copies)
  /-- Data units and parity units, each on a node of its own. -/
  | ec (data parity : UInt32)
  deriving DecidableEq, Repr

/-- Why a scheme cannot be used. -/
inductive SchemeFault
  | noData
  | noParity
  /-- The number of units does not fit 32 bits. -/
  | tooWide
  deriving DecidableEq, Repr

/-- The number of copies. -/
def Copies.count : Copies → Nat
  | .one => 1
  | .three => 3

namespace Scheme

/-- The number of nodes that a pipeline of the scheme has. -/
def requiredNodes : Scheme → Nat
  | .ratis copies => copies.count
  | .ec data parity => data.toNat + parity.toNat

/-- What is wrong with the scheme, if anything. -/
def fault? : Scheme → Option SchemeFault
  | .ratis _ => none
  | .ec data parity =>
    if data = 0 then some .noData
    else if parity = 0 then some .noParity
    else if UInt32.size ≤ data.toNat + parity.toNat then some .tooWide
    else none

/-- The number of nodes that have to report a container before it counts as
available. -/
def minReplicas : Scheme → Nat
  | .ratis _ => 1
  | .ec data _ => data.toNat

/-- The kind of the scheme. -/
def family : Scheme → Family
  | .ratis _ => .ratis
  | .ec _ _ => .ec

/-- The name of the scheme. -/
def text : Scheme → String
  | .ratis copies => "RATIS/" ++ Nat.repr copies.count
  | .ec data parity => "EC/rs-" ++ Nat.repr data.toNat ++ "-" ++ Nat.repr parity.toNat

/-- The scheme with a name. -/
def ofText? (text : String) : Option Scheme :=
  match text with
  | "RATIS/1" => some (.ratis .one)
  | "RATIS/3" => some (.ratis .three)
  | _ => do
    let units ← ['E', 'C', '/', 'r', 's', '-'].isPrefixOf? text.toList
    let (data, rest) ← scanDecimal (UInt32.size - 1) units
    let ((), rest) ← scanChar '-' rest
    let (parity, rest) ← scanDecimal (UInt32.size - 1) rest
    if rest.isEmpty then some (.ec (UInt32.ofNat data) (UInt32.ofNat parity)) else none

end Scheme

/-- What the fault says. -/
def SchemeFault.message : SchemeFault → String
  | .noData => "EC scheme needs at least one data unit"
  | .noParity => "EC scheme needs at least one parity unit"
  | .tooWide => "EC scheme width overflows"

/-! ## JSON -/

/-- The name of a number of copies. -/
def Copies.name : Copies → String
  | .one => "One"
  | .three => "Three"

/-- Reads a number of copies. -/
def Copies.reader : Reader Copies :=
  enumeration [(Copies.one.name, .one), (Copies.three.name, .three)]

/-- The name of a kind of scheme. -/
def Family.name : Family → String
  | .ratis => "Ratis"
  | .ec => "Ec"

/-- Reads a kind of scheme. -/
def Family.reader : Reader Family :=
  enumeration [(Family.ratis.name, .ratis), (Family.ec.name, .ec)]

namespace Scheme

/-- The scheme in JSON. -/
def json : Scheme → Value
  | .ratis copies => .object [("Ratis", .object [("factor", copies.name)])]
  | .ec data parity =>
    .object [("Ec", .object [("data", data.toNat), ("parity", parity.toNat)])]

/-- Reads a scheme. -/
def reader : Reader Scheme :=
  variant [
    ("Ratis", (Scheme.ratis <$> Record.required "factor" Copies.reader).read),
    ("Ec", (Scheme.ec <$> Record.required "data" word32 <*>
      Record.required "parity" word32).read)]

end Scheme

instance : Wire Copies := ⟨fun c => .text c.name, Copies.reader⟩
instance : Wire Family := ⟨fun f => .text f.name, Family.reader⟩
instance : Wire Scheme := ⟨Scheme.json, Scheme.reader⟩

end ControlPlane
