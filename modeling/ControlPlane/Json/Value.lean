import ControlPlane.Decimal.Format
import ControlPlane.Text.Whole

/-!
# JSON values and their text

The values that the control plane writes, in two layouts: `compact` without
any blanks and `pretty` with a line for each item and two blanks of indent for
each level.  Members keep the order in which they are given.
-/

namespace ControlPlane.Json

/-- A JSON value. -/
inductive Value
  | null
  | bool (b : Bool)
  | whole (n : Int)
  | fraction (x : Float)
  | text (s : String)
  | array (items : List Value)
  | object (members : List (String × Value))
  deriving Inhabited

instance : Coe Bool Value := ⟨.bool⟩
instance : Coe Nat Value := ⟨fun n => .whole n⟩
instance : Coe String Value := ⟨.text⟩

/-- The text of one character inside quotes. -/
def escape (c : Char) : String :=
  if c = '"' then "\\\""
  else if c = '\\' then "\\\\"
  else if c = '\n' then "\\n"
  else if c = '\r' then "\\r"
  else if c = '\t' then "\\t"
  else if c = '\x08' then "\\b"
  else if c = '\x0c' then "\\f"
  else if c.toNat < 32 then
    "\\u00" ++ String.ofList [Text.hexDigit (c.toNat / 16), Text.hexDigit (c.toNat % 16)]
  else c.toString

/-- A text in quotes. -/
def quoted (s : String) : String := "\"" ++ String.join (s.toList.map escape) ++ "\""

mutual

/-- The text of a value without blanks. -/
def Value.compact : Value → String
  | .null => "null"
  | .bool b => if b then "true" else "false"
  | .whole n => toString n
  | .fraction x => Decimal.exchange x
  | .text s => quoted s
  | .array items => "[" ++ ",".intercalate (compactItems items) ++ "]"
  | .object members => "\x7b" ++ ",".intercalate (compactMembers members) ++ "\x7d"

/-- The texts of items without blanks. -/
def compactItems : List Value → List String
  | [] => []
  | v :: vs => v.compact :: compactItems vs

/-- The texts of members without blanks. -/
def compactMembers : List (String × Value) → List String
  | [] => []
  | (k, v) :: ms => (quoted k ++ ":" ++ v.compact) :: compactMembers ms

end

/-- A new line at a level of indent. -/
def newLine (level : Nat) : String := "\n" ++ String.ofList (List.replicate (2 * level) ' ')

/-- Parts on lines of their own between two brackets; none leave no line. -/
def block (level : Nat) (left right : String) (parts : List String) : String :=
  if parts.isEmpty then left ++ right
  else left ++ ",".intercalate (parts.map (newLine (level + 1) ++ ·)) ++ newLine level ++ right

mutual

/-- The text of a value in lines, at a level of indent. -/
def Value.prettyAt (level : Nat) : Value → String
  | .array items => block level "[" "]" (prettyItems (level + 1) items)
  | .object members => block level "\x7b" "\x7d" (prettyMembers (level + 1) members)
  | .null => Value.null.compact
  | .bool b => (Value.bool b).compact
  | .whole n => (Value.whole n).compact
  | .fraction x => (Value.fraction x).compact
  | .text s => (Value.text s).compact

/-- The texts of items in lines. -/
def prettyItems (level : Nat) : List Value → List String
  | [] => []
  | v :: vs => v.prettyAt level :: prettyItems level vs

/-- The texts of members in lines. -/
def prettyMembers (level : Nat) : List (String × Value) → List String
  | [] => []
  | (k, v) :: ms => (quoted k ++ ": " ++ v.prettyAt level) :: prettyMembers level ms

end

/-- The text of a value in lines. -/
def Value.pretty (v : Value) : String := v.prettyAt 0

end ControlPlane.Json
