import ControlPlane.Json.Document
import ControlPlane.Json.Value

/-!
# Canonical JSON

One text for all JSON texts with the same content: without blanks, the members
of objects in ascending order of their names, and of members with the same name
the last one only.  Numerals keep their digits.
-/

namespace ControlPlane.Json

/-- The text of digits. -/
def digitsText (ds : List Nat) : String := String.ofList (ds.map Text.hexDigit)

/-- The text of a numeral. -/
def Numeral.text (n : Numeral) : String :=
  (if n.negative then "-" else "") ++ digitsText n.whole ++
    (if n.pointed then "." ++ digitsText n.fraction else "") ++
    match n.exponent with
    | none => ""
    | some (negative, ds) => "e" ++ (if negative then "-" else "") ++ digitsText ds

/-- Members in ascending order of their names, the last of those with the same
name. -/
def canonicalMembers (ms : List (String × String)) : List (String × String) :=
  let last := ms.reverse.foldl (fun ms m => if (ms.lookup m.1).isSome then ms else m :: ms) []
  last.mergeSort fun a b => a.1 ≤ b.1

mutual

/-- The canonical text of a tree; a break has none. -/
def Document.canonical : Document → String
  | .null => "null"
  | .bool b => if b then "true" else "false"
  | .number n => n.text
  | .text s => quoted (s.getD "")
  | .array items => "[" ++ ",".intercalate (canonicalItems items) ++ "]"
  | .object members =>
    "\x7b" ++ ",".intercalate ((canonicalMembers (memberTexts members)).map fun m =>
      quoted m.1 ++ ":" ++ m.2) ++ "\x7d"
  | .broken => ""

/-- The canonical texts of items. -/
def canonicalItems : List Document → List String
  | [] => []
  | d :: ds => d.canonical :: canonicalItems ds

/-- The names of members with the canonical texts of their values. -/
def memberTexts : List (Document × Document) → List (String × String)
  | [] => []
  | (.text (some name), d) :: ms => (name, d.canonical) :: memberTexts ms
  | _ :: ms => memberTexts ms

end

/-- The tree of the canonical text of a tree. -/
def Document.normal (d : Document) : Document := (Document.ofText d.canonical).1

end ControlPlane.Json
