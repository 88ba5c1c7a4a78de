import ControlPlane.SortedSet
import ControlPlane.Text.Whole

/-!
# Universally unique identifiers

128-bit identifiers and their text.  They are written as lower-case
hexadecimal digits in groups of 8, 4, 4, 4 and 12 with hyphens between.  Four
forms are read, with letters of either case: that one, the same in braces, the
same after `urn:uuid:`, and the 32 digits without hyphens.
-/

namespace ControlPlane

/-- A 128-bit identifier. -/
structure Uuid where
  /-- The identifier as a number, its first digit the most significant. -/
  bits : BitVec 128
  deriving DecidableEq, Repr

namespace Uuid

instance : Ranked Uuid where
  rank u := u.bits.toNat
  rank_injective {a b} h := by
    cases a
    cases b
    simp only [Uuid.mk.injEq]
    exact BitVec.eq_of_toNat_eq h

/-- The identifier with a given number. -/
def ofNat (n : Nat) : Uuid := ⟨BitVec.ofNat 128 n⟩

/-- The identifier of version 4 that some random bits make: the version and the
variant take the place of six of them. -/
def ofRandom (n : Nat) : Uuid :=
  let kept := BitVec.ofNat 128 n &&& ~~~(0xf000c000000000000000#128)
  ⟨kept ||| 0x40008000000000000000#128⟩

/-- The widths of the groups of digits. -/
def groupWidths : List Nat := [8, 4, 4, 4, 12]

/-- The digits of a text in groups of given widths with hyphens between. -/
def ungroup : List Nat → List Char → Option (List Char)
  | [], _ => none
  | [w], cs => if cs.length = w then some cs else none
  | w :: ws, cs =>
    match cs.drop w with
    | '-' :: rest => (ungroup ws rest).map (cs.take w ++ ·)
    | _ => none

/-- Digits in groups of given widths with hyphens between. -/
def group : List Nat → List Char → List Char
  | [], _ => []
  | [_], cs => cs
  | w :: ws, cs => cs.take w ++ '-' :: group ws (cs.drop w)

/-- The identifier with given hexadecimal digits. -/
def ofDigits? (cs : List Char) : Option Uuid := do
  let values ← cs.mapM Text.hexDigit?
  return ofNat (values.foldl (fun n d => n * 16 + d) 0)

/-- The prefix of an identifier that is written as a resource name. -/
def urnMark : List Char := ['u', 'r', 'n', ':', 'u', 'u', 'i', 'd', ':']

/-- The text after the prefix of a resource name, whose letters may have either
case. -/
def afterUrn? (cs : List Char) : Option (List Char) :=
  if (cs.take urnMark.length).map Char.toLower = urnMark then some (cs.drop urnMark.length)
  else none

/-- The digits of an identifier in one of the four forms. -/
def digits? (cs : List Char) : Option (List Char) :=
  match cs.length with
  | 32 => some cs
  | 36 => ungroup groupWidths cs
  | 38 =>
    match cs with
    | '\x7b' :: rest =>
      if rest.getLast? = some '\x7d' then ungroup groupWidths rest.dropLast else none
    | _ => none
  | 45 => (afterUrn? cs).bind (ungroup groupWidths)
  | _ => none

/-- The identifier that a text writes in one of the four forms. -/
def parse? (text : String) : Option Uuid := (digits? text.toList).bind ofDigits?

/-- The 32 digits of an identifier. -/
def digits (u : Uuid) : List Char :=
  (List.range 32).map fun i => Text.hexDigit ((u.bits.toNat >>> (4 * (31 - i))) % 16)

/-- The text of an identifier. -/
def text (u : Uuid) : String := String.ofList (group groupWidths u.digits)

end Uuid

end ControlPlane
