/-!
# Whole numbers in decimal

Reading an unsigned decimal numeral that has to fit a limit.  A single plus
sign may stand before the digits.  The digits are read from the left and the
first thing wrong decides: a character that is no digit, or a value past the
limit.
-/

namespace ControlPlane.Text

/-- The value of a decimal digit. -/
def digit? (c : Char) : Option Nat :=
  if '0' ≤ c ∧ c ≤ '9' then some (c.toNat - '0'.toNat) else none

/-- The value of a hexadecimal digit of either case. -/
def hexDigit? (c : Char) : Option Nat :=
  if '0' ≤ c ∧ c ≤ '9' then some (c.toNat - '0'.toNat)
  else if 'a' ≤ c ∧ c ≤ 'f' then some (c.toNat - 'a'.toNat + 10)
  else if 'A' ≤ c ∧ c ≤ 'F' then some (c.toNat - 'A'.toNat + 10)
  else none

/-- The lower-case hexadecimal digit of a value below sixteen. -/
def hexDigit (n : Nat) : Char :=
  Char.ofNat (if n < 10 then '0'.toNat + n else 'a'.toNat + (n - 10))

/-- Why a text is no whole number within the limit. -/
inductive WholeFault
  | empty
  | invalidDigit
  | tooLarge
  deriving DecidableEq, Repr

/-- The sentence for a fault. -/
def WholeFault.message : WholeFault → String
  | .empty => "cannot parse integer from empty string"
  | .invalidDigit => "invalid digit found in string"
  | .tooLarge => "number too large to fit in target type"

/-- The value of `n` followed by some more digits. -/
def wholeFrom (limit : Nat) (n : Nat) : List Char → Except WholeFault Nat
  | [] => .ok n
  | c :: cs =>
    match digit? c with
    | none => .error .invalidDigit
    | some d => if limit < n * 10 + d then .error .tooLarge else wholeFrom limit (n * 10 + d) cs

/-- The whole number that a text writes. -/
def whole (limit : Nat) : List Char → Except WholeFault Nat
  | [] => .error .empty
  | ['+'] => .error .invalidDigit
  | '+' :: cs => wholeFrom limit 0 cs
  | cs => wholeFrom limit 0 cs

/-- The greatest value of an unsigned 64-bit word. -/
def maxWord : Nat := UInt64.size - 1

/-- Digits on the left until a numeral has the given width. -/
def padded (width n : Nat) : String :=
  let digits := Nat.repr n
  String.ofList (List.replicate (width - digits.length) '0') ++ digits

end ControlPlane.Text
