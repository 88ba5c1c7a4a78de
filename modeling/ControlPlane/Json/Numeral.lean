import ControlPlane.Decimal.Binary
import ControlPlane.Text.Whole

/-!
# JSON numerals

A numeral as its digits, and the number it stands for.  A numeral without a
fraction or an exponent is an exact word if it fits one.  Any other numeral is
a double-precision number: the digits that fit an unsigned word are rounded to
a double and then multiplied or divided by a power of ten, so that the result
is near the numeral's value but not always the nearest double.  A numeral past
the largest double stands for no number.
-/

namespace ControlPlane.Json

open Text Decimal

/-- The digits of a numeral, and its signs. -/
structure Numeral where
  negative : Bool
  whole : List Nat
  fraction : List Nat
  /-- Whether there is a point. -/
  pointed : Bool
  /-- The sign and the digits of the exponent. -/
  exponent : Option (Bool × List Nat)
  deriving DecidableEq, Repr

/-- What a numeral stands for. -/
inductive Number
  /-- A whole number from zero up that fits an unsigned word. -/
  | natural (n : UInt64)
  /-- A number below zero that fits a signed word. -/
  | negative (n : Int)
  /-- Any other number. -/
  | fraction (x : Float)

/-- Adds digits to a significand while it fits an unsigned word; the digits
from the first that does not fit are left. -/
def absorb (significand : Nat) : List Nat → Nat × List Nat
  | [] => (significand, [])
  | d :: ds =>
    if significand * 10 + d ≤ maxWord then absorb (significand * 10 + d) ds
    else (significand, d :: ds)

/-- A power of ten that a double can hold. -/
def powerOfTen (n : Nat) : Float := Float.ofScientific 1 false n

/-- A number divided by a power of ten, in steps that a double can hold. -/
def shrink (x : Float) (places : Nat) : Float :=
  if places ≤ 308 then x / powerOfTen places
  else if x == 0 then x
  else shrink (x / powerOfTen 308) (places - 308)
termination_by places

/-- A significand times a power of ten, unless it is past the largest double. -/
def scale (significand : Nat) (exponent : Int) : Option Float :=
  let x := ofWord significand
  if exponent < 0 then some (shrink x (-exponent).toNat)
  else if exponent ≤ 308 then
    let y := x * powerOfTen exponent.toNat
    if y.isInf then none else some y
  else if significand = 0 then some x
  else none

/-- The greatest exponent that a numeral may write in digits. -/
def maxExponent : Nat := 0x7fffffff

/-- The size of a numeral that is no exact word. -/
def Numeral.magnitude? (n : Numeral) (significand : Nat) (exponent : Int) : Option Float :=
  match n.exponent with
  | none => scale significand exponent
  | some (negative, digits) =>
    let e := digits.foldl (fun e d => e * 10 + d) 0
    if maxExponent < e then
      if significand ≠ 0 && !negative then none else some 0
    else scale significand (if negative then exponent - e else exponent + e)

/-- The number that a numeral stands for. -/
def Numeral.number? (n : Numeral) : Option Number :=
  let (significand, dropped) := absorb 0 n.whole
  if dropped.isEmpty && !n.pointed && n.exponent.isNone then
    if !n.negative then some (.natural (UInt64.ofNat significand))
    else if 0 < significand ∧ significand ≤ 0x8000000000000000 then some (.negative (-(significand : Int)))
    else some (.fraction (-(ofWord significand)))
  else
    let (significand, left) := absorb significand n.fraction
    let exponent : Int := (dropped.length : Int) - ((n.fraction.length - left.length : Nat) : Int)
    (n.magnitude? significand exponent).map fun x => .fraction (if n.negative then -x else x)

end ControlPlane.Json
