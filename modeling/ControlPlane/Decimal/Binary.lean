/-!
# Binary fractions

A double-precision number taken apart into exact integers, and the conversions
between such numbers and whole words that clamp to the word's range.
-/

namespace ControlPlane.Decimal

/-- A double-precision number as exact data. -/
inductive Parts
  /-- Not a number. -/
  | nan
  /-- An infinity and its sign. -/
  | infinite (negative : Bool)
  /-- The value `significand * 2 ^ exponent` with its sign. -/
  | finite (negative : Bool) (significand : Nat) (exponent : Int)
  deriving DecidableEq, Repr

/-- The first bit of every significand that fills its 53 bits; it is not
stored. -/
def hiddenBit : Nat := 0x10000000000000

/-- The exact data of a number, read off its bits. -/
def parts (x : Float) : Parts :=
  let bits := x.toBits.toNat
  let negative := bits >>> 63 == 1
  let field : Nat := (bits >>> 52) % 0x800
  let fraction : Nat := bits % hiddenBit
  if field = 2047 then
    if fraction = 0 then .infinite negative else .nan
  else if field = 0 then .finite negative fraction (-1074)
  else .finite negative (hiddenBit + fraction) ((field : Int) - 1075)

/-- The greatest whole word at most the number; below zero, and for what is no
number, zero. -/
def roundDown (x : Float) : Nat := x.toUInt64.toNat

/-- The least whole word at least the number; the greatest word where there is
none. -/
def roundUp (x : Float) : Nat :=
  let below := x.toUInt64
  if below.toFloat < x && below != UInt64.ofNat (UInt64.size - 1) then below.toNat + 1
  else below.toNat

/-- The nearest double-precision number to a whole word. -/
def ofWord (n : Nat) : Float := (UInt64.ofNat n).toFloat

end ControlPlane.Decimal
