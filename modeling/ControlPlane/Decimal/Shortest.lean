import ControlPlane.Decimal.Binary

/-!
# Shortest decimals

The decimal with the fewest digits among those that read back as a given
double-precision number, and of these the one nearest to it.  Where two are
equally near, the form that is written decides between them.  The decimal is
found on the grids around the number, coarsest first: on each grid only the two
neighbours of the number can lie between the halfway points to the next
doubles.
-/

namespace ControlPlane.Decimal

/-- How many decimal digits a natural number is written with. -/
def digitCount (n : Nat) : Nat := (Nat.toDigits 10 n).length

/-- A ratio of natural numbers. -/
structure Ratio where
  num : Nat
  den : Nat

/-- The ratio `n * 2 ^ e`. -/
def Ratio.binary (n : Nat) (e : Int) : Ratio :=
  if 0 ≤ e then ⟨n <<< e.toNat, 1⟩ else ⟨n, 1 <<< (-e).toNat⟩

/-- The ratio divided by `10 ^ e`. -/
def Ratio.scaled (r : Ratio) (e : Int) : Ratio :=
  if 0 ≤ e then ⟨r.num, r.den * Nat.pow 10 e.toNat⟩
  else ⟨r.num * Nat.pow 10 (-e).toNat, r.den⟩

/-- The exponent `k` with `10 ^ (k - 1) ≤ r < 10 ^ k`, for a positive ratio. -/
def Ratio.decade (r : Ratio) : Int :=
  let k := (digitCount r.num : Int) - digitCount r.den
  let unit := r.scaled k
  if unit.den ≤ unit.num then k + 1 else k

/-- A number `digits * 10 ^ exponent`. -/
structure Scaled where
  digits : Nat
  exponent : Int
  deriving DecidableEq, Repr

/-- The same number with no zero at the end of its digits. -/
def Scaled.trimmed (s : Scaled) : Scaled :=
  if h : s.digits ≠ 0 ∧ s.digits % 10 = 0 then
    Scaled.trimmed ⟨s.digits / 10, s.exponent + 1⟩
  else s
termination_by s.digits
decreasing_by omega

/-- Which of two equally near decimals is taken. -/
inductive Tie
  /-- The one whose last digit is even. -/
  | toEven
  /-- The greater one. -/
  | upward
  deriving DecidableEq, Repr

/-- Does a tie go to the smaller of two decimals, with these digits? -/
def Tie.goesBelow (tie : Tie) (below : Nat) : Bool := tie == .toEven && below % 2 == 0

/-- The neighbour of `significand * 2 ^ exponent` on the grid of `10 ^ place`
that reads back as it, if one does. -/
def onGrid (tie : Tie) (significand : Nat) (exponent : Int) (place : Int) : Option Scaled :=
  -- In quarters of the last binary place the halfway points are whole numbers.
  let narrow := significand = hiddenBit ∧ exponent ≠ -1074
  let low := (Ratio.binary (4 * significand - if narrow then 1 else 2) (exponent - 2)).scaled place
  let mid := (Ratio.binary (4 * significand) (exponent - 2)).scaled place
  let high := (Ratio.binary (4 * significand + 2) (exponent - 2)).scaled place
  let closed := significand % 2 == 0
  let inside (d : Nat) : Bool :=
    let atLow := d * low.den
    let atHigh := d * high.den
    (low.num < atLow || (closed && low.num == atLow)) &&
      (atHigh < high.num || (closed && atHigh == high.num))
  let below := mid.num / mid.den
  let rest := mid.num % mid.den
  let above := below + 1
  let belowIsNearer := 2 * rest < mid.den || (2 * rest == mid.den && tie.goesBelow below)
  if inside below && (belowIsNearer || !inside above) then some ⟨below, place⟩
  else if inside above then some ⟨above, place⟩
  else none

/-- The shortest decimal of a positive number `significand * 2 ^ exponent`. -/
def shortest (tie : Tie) (significand : Nat) (exponent : Int) : Scaled :=
  let top := (Ratio.binary significand exponent).decade
  let found := (List.range 17).findSome? fun (n : Nat) =>
    onGrid tie significand exponent (top - 1 - (n : Int))
  (found.getD ⟨significand, exponent⟩).trimmed

end ControlPlane.Decimal
