import ControlPlane.Text.Whole

/-!
# Scanning

Readers that take something off the front of a text and hand back the rest, or
fail and take nothing.
-/

namespace ControlPlane.Text

/-- A reader of the front of a text: what was read and the rest. -/
abbrev Scan (α : Type) := List Char → Option (α × List Char)

/-- Takes one given character. -/
def scanChar (c : Char) : Scan Unit
  | d :: rest => if d = c then some ((), rest) else none
  | [] => none

/-- The value of digits in a base, the first the most significant. -/
def ofDigits (base : Nat) (digits : List Nat) : Nat :=
  digits.foldl (fun n d => n * base + d) 0

/-- Takes all characters at the front that a digit reader accepts. -/
def spanDigits (digit : Char → Option Nat) : List Char → List Nat × List Char
  | [] => ([], [])
  | c :: cs =>
    match digit c with
    | some d => ((spanDigits digit cs).map (d :: ·) id)
    | none => ([], c :: cs)

/-- Takes a numeral of at least one digit that is at most a limit. -/
def scanNumeral (digit : Char → Option Nat) (base limit : Nat) : Scan (List Nat × Nat) :=
  fun cs =>
    let (digits, rest) := spanDigits digit cs
    let value := ofDigits base digits
    if digits.isEmpty || limit < value then none else some ((digits, value), rest)

/-- Takes a decimal number that is at most a limit; zeros may lead. -/
def scanDecimal (limit : Nat) : Scan Nat := fun cs =>
  (scanNumeral digit? 10 limit cs).map fun ((_, n), rest) => (n, rest)

end ControlPlane.Text
