import ControlPlane.Text.Scan

/-!
# Socket addresses

An IP address with a port.  IPv4 is read as four decimal octets without
leading zeros, then a colon and the port; IPv6 stands in brackets, where one
run of zero groups may be left out, the last two groups may be written as IPv4,
and a numeric zone may follow.  An address is written in its canonical form:
lower-case groups without leading zeros, the first longest run of two or more
zero groups left out, and IPv4-mapped addresses with a dotted tail.
-/

namespace ControlPlane.Net

open Text

/-- The four octets of an IPv4 address. -/
structure Ipv4 where
  a : UInt8
  b : UInt8
  c : UInt8
  d : UInt8
  deriving DecidableEq, Repr

/-- The eight groups of an IPv6 address. -/
structure Ipv6 where
  groups : Vector UInt16 8
  deriving DecidableEq, Repr

/-- An IP address with a port. -/
inductive Address
  | v4 (ip : Ipv4) (port : UInt16)
  | v6 (ip : Ipv6) (zone : UInt32) (port : UInt16)
  deriving DecidableEq, Repr

/-! ## Reading -/

/-- Takes an octet: one to three digits without a leading zero. -/
def scanOctet : Scan UInt8 := fun cs => do
  let ((digits, n), rest) ← scanNumeral digit? 10 255 cs
  if 3 < digits.length || (digits.length ≠ 1 && digits.head? == some 0) then none
  else return (UInt8.ofNat n, rest)

/-- Takes a dotted IPv4 address. -/
def scanIpv4 : Scan Ipv4 := fun cs => do
  let (a, cs) ← scanOctet cs
  let ((), cs) ← scanChar '.' cs
  let (b, cs) ← scanOctet cs
  let ((), cs) ← scanChar '.' cs
  let (c, cs) ← scanOctet cs
  let ((), cs) ← scanChar '.' cs
  let (d, cs) ← scanOctet cs
  return (⟨a, b, c, d⟩, cs)

/-- Takes a group: one to four hexadecimal digits. -/
def scanGroup : Scan UInt16 := fun cs => do
  let ((digits, n), rest) ← scanNumeral hexDigit? 16 (UInt16.size - 1) cs
  if 4 < digits.length then none else return (UInt16.ofNat n, rest)

/-- An IPv4 address as two groups. -/
def Ipv4.groups (ip : Ipv4) : List UInt16 :=
  [ip.a.toUInt16 * 256 + ip.b.toUInt16, ip.c.toUInt16 * 256 + ip.d.toUInt16]

/-- Takes up to `room` groups with colons between, the last two possibly as
IPv4; `first` says that no colon comes before the next one.  The flag tells
whether an IPv4 part was taken. -/
def scanGroups (first : Bool) : Nat → List Char → (List UInt16 × Bool) × List Char
  | 0, cs => (([], false), cs)
  | room + 1, cs =>
    let start := if first then some ((), cs) else scanChar ':' cs
    match (if room = 0 then none else start.bind fun (_, cs) => scanIpv4 cs) with
    | some (ip, rest) => ((ip.groups, true), rest)
    | none =>
      match start.bind fun (_, cs) => scanGroup cs with
      | some (g, rest) =>
        let ((gs, dotted), rest) := scanGroups false room rest
        ((g :: gs, dotted), rest)
      | none => (([], false), cs)

/-- The address whose groups are a head, zeros, and a tail. -/
def Ipv6.ofParts (head tail : List UInt16) : Ipv6 :=
  ⟨Vector.ofFn fun i =>
    (head ++ List.replicate (8 - head.length - tail.length) 0 ++ tail).getD i.val 0⟩

/-- Takes an IPv6 address. -/
def scanIpv6 : Scan Ipv6 := fun cs => do
  let ((head, dotted), cs) := scanGroups true 8 cs
  if head.length = 8 then return (Ipv6.ofParts head [], cs)
  if dotted then none
  let ((), cs) ← scanChar ':' cs
  let ((), cs) ← scanChar ':' cs
  let ((tail, _), cs) := scanGroups true (7 - head.length) cs
  return (Ipv6.ofParts head tail, cs)

/-- Takes a colon and a port. -/
def scanPort : Scan UInt16 := fun cs => do
  let ((), cs) ← scanChar ':' cs
  let (n, cs) ← scanDecimal (UInt16.size - 1) cs
  return (UInt16.ofNat n, cs)

/-- Takes a percent sign and a zone number; no zone is zone zero. -/
def scanZone (cs : List Char) : UInt32 × List Char :=
  match scanChar '%' cs |>.bind fun (_, cs) => scanDecimal (UInt32.size - 1) cs with
  | some (n, rest) => (UInt32.ofNat n, rest)
  | none => (0, cs)

/-- Takes an IPv4 address with a port. -/
def scanV4 : Scan Address := fun cs => do
  let (ip, cs) ← scanIpv4 cs
  let (port, cs) ← scanPort cs
  return (.v4 ip port, cs)

/-- Takes an IPv6 address in brackets with a port. -/
def scanV6 : Scan Address := fun cs => do
  let ((), cs) ← scanChar '[' cs
  let (ip, cs) ← scanIpv6 cs
  let (zone, cs) := scanZone cs
  let ((), cs) ← scanChar ']' cs
  let (port, cs) ← scanPort cs
  return (.v6 ip zone port, cs)

/-- The address that a whole text writes. -/
def Address.parse? (text : String) : Option Address :=
  match (scanV4 text.toList).orElse fun _ => scanV6 text.toList with
  | some (address, []) => some address
  | _ => none

/-! ## Writing -/

/-- The dotted text of an IPv4 address. -/
def Ipv4.text (ip : Ipv4) : String :=
  ".".intercalate ([ip.a, ip.b, ip.c, ip.d].map fun o => Nat.repr o.toNat)

/-- A group without leading zeros. -/
def groupText (g : UInt16) : String := String.ofList (Nat.toDigits 16 g.toNat)

/-- Groups with colons between. -/
def groupsText (gs : List UInt16) : String := ":".intercalate (gs.map groupText)

/-- The length of the run of zero groups at each place. -/
def zeroRuns : List UInt16 → List Nat
  | [] => []
  | g :: gs =>
    let rest := zeroRuns gs
    (if g = 0 then rest.headD 0 + 1 else 0) :: rest

/-- Where the first longest run of zero groups starts, and its length. -/
def longestZeros (gs : List UInt16) : Nat × Nat :=
  let runs := zeroRuns gs
  let longest := runs.foldl max 0
  (runs.findIdx (· == longest), longest)

/-- The IPv4 address that an IPv6 address maps. -/
def Ipv6.mapped? (ip : Ipv6) : Option Ipv4 :=
  match ip.groups.toList with
  | [0, 0, 0, 0, 0, 0xffff, g, h] =>
    some ⟨(g / 256).toUInt8, g.toUInt8, (h / 256).toUInt8, h.toUInt8⟩
  | _ => none

/-- The canonical text of an IPv6 address. -/
def Ipv6.text (ip : Ipv6) : String :=
  match ip.mapped? with
  | some v4 => "::ffff:" ++ v4.text
  | none =>
    let gs := ip.groups.toList
    let (start, length) := longestZeros gs
    if length ≤ 1 then groupsText gs
    else groupsText (gs.take start) ++ "::" ++ groupsText (gs.drop (start + length))

/-- The text of a socket address; zone zero is not written. -/
def Address.text : Address → String
  | .v4 ip port => ip.text ++ ":" ++ Nat.repr port.toNat
  | .v6 ip zone port =>
    "[" ++ ip.text ++ (if zone = 0 then "" else "%" ++ Nat.repr zone.toNat) ++ "]:" ++
      Nat.repr port.toNat

end ControlPlane.Net
