import ControlPlane.Decimal.Shortest

/-!
# Written forms of fractions

The three ways in which the control plane writes a double-precision number:
`plain` in sentences, `exchange` in JSON, and `fixed` with a set number of
places in reports.
-/

namespace ControlPlane.Decimal

/-- The digits of a number as text. -/
def Scaled.text (s : Scaled) : String := Nat.repr s.digits

/-- A sign before a text. -/
def signed (negative : Bool) (text : String) : String := if negative then "-" ++ text else text

/-- A run of zeros. -/
def zeros (n : Nat) : String := String.ofList (List.replicate n '0')

/-- The number with all its places written out, and a point only before digits
that are not zero. -/
def Scaled.positional (s : Scaled) : String :=
  let digits := s.text
  let point : Int := (digits.length : Int) + s.exponent
  if 0 ≤ s.exponent then digits ++ zeros s.exponent.toNat
  else if 0 < point then
    String.ofList (digits.toList.take point.toNat) ++ "." ++
      String.ofList (digits.toList.drop point.toNat)
  else "0." ++ zeros (-point).toNat ++ digits

/-- The shortest decimal, always positional; whole numbers have no point, and a
tie goes away from zero. -/
def plain (x : Float) : String :=
  match parts x with
  | .nan => "NaN"
  | .infinite negative => signed negative "inf"
  | .finite negative 0 _ => signed negative "0"
  | .finite negative significand exponent =>
    signed negative (shortest .upward significand exponent).positional

/-- The shortest decimal with a point or an exponent: positional from 0.00001
up to sixteen digits before the point, otherwise one digit before the point and
an exponent with its sign.  A tie goes to the even digit.  What is no finite
number is written as `null`. -/
def exchange (x : Float) : String :=
  match parts x with
  | .nan | .infinite _ => "null"
  | .finite negative 0 _ => signed negative "0.0"
  | .finite negative significand exponent =>
    let s := shortest .toEven significand exponent
    let digits := s.text
    let point : Int := (digits.length : Int) + s.exponent
    signed negative <|
      if 0 ≤ s.exponent ∧ point ≤ 16 then s.positional ++ ".0"
      else if -5 < point ∧ point ≤ 16 then s.positional
      else
        let tail := String.ofList (digits.toList.drop 1)
        String.ofList (digits.toList.take 1) ++ (if tail.isEmpty then "" else "." ++ tail) ++
          (if 0 < point then "e+" else "e") ++ toString (point - 1)

/-- A ratio rounded to a whole number; a half goes to the even neighbour. -/
def Ratio.round (r : Ratio) : Nat :=
  let below := r.num / r.den
  let rest := r.num % r.den
  if 2 * rest < r.den ∨ (2 * rest = r.den ∧ below % 2 = 0) then below else below + 1

/-- The exact value rounded to a number of places; a half goes to the even
neighbour. -/
def fixed (places : Nat) (x : Float) : String :=
  match parts x with
  | .nan => "NaN"
  | .infinite negative => signed negative "inf"
  | .finite negative significand exponent =>
    let units := ((Ratio.binary significand exponent).scaled (-(places : Int))).round
    let digits := Nat.repr units
    let digits := zeros (places + 1 - digits.length) ++ digits
    let whole := digits.length - places
    signed negative <|
      String.ofList (digits.toList.take whole) ++
        (if places = 0 then "" else "." ++ String.ofList (digits.toList.drop whole))

end ControlPlane.Decimal
