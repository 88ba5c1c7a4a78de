import ControlPlane.Json.Document

/-!
# Typed JSON

Readers that turn a JSON tree into a value of the domain.  A reader fails with
the first thing wrong in the order of the text, and tells a text that is no
JSON from JSON of the wrong shape.

A record is read from an object, where unknown members are skipped and a known
member may come only once, or from an array of its fields in order.  An
enumeration is read from the name of a case, or from an object that has the
name as its only key.
-/

namespace ControlPlane.Json

/-- Why a text does not hold the value that is read. -/
inductive Fault
  /-- The text is no JSON, or has a number past the largest double. -/
  | malformed
  /-- The text is JSON of another shape; what was expected. -/
  | mismatch (expected : String)
  deriving DecidableEq, Repr

/-- The sentence for a fault. -/
def Fault.message : Fault → String
  | .malformed => "malformed JSON"
  | .mismatch expected => "expected " ++ expected

/-- A reader of a JSON tree. -/
abbrev Reader (α : Type) := Document → Except Fault α

/-- The fault of a tree that is not what was expected. -/
def Document.unexpected (expected : String) : Document → Fault
  | .broken | .text none => .malformed
  | .number n => if n.number?.isNone then .malformed else .mismatch expected
  | _ => .mismatch expected

/-! ## Single values -/

/-- Reads a truth value. -/
def bool : Reader Bool
  | .bool b => .ok b
  | d => .error (d.unexpected "a truth value")

/-- Reads a text. -/
def text : Reader String
  | .text (some s) => .ok s
  | d => .error (d.unexpected "a string")

/-- Reads a text that has to be in a form. -/
def parsed (expected : String) (parse? : String → Option α) : Reader α := fun d => do
  let s ← text d
  match parse? s with
  | some a => return a
  | none => throw (.mismatch expected)

/-- Reads an unsigned 64-bit word. -/
def word64 : Reader UInt64
  | d@(.number n) =>
    match n.number? with
    | some (.natural w) => .ok w
    | _ => .error (d.unexpected "an unsigned 64-bit integer")
  | d => .error (d.unexpected "an unsigned 64-bit integer")

/-- Reads an unsigned 32-bit word. -/
def word32 : Reader UInt32 := fun d => do
  let w ← word64 d
  if w.toNat < UInt32.size then return w.toUInt32
  else throw (.mismatch "an unsigned 32-bit integer")

/-- Reads a signed 64-bit integer. -/
def integer64 : Reader Int
  | d@(.number n) =>
    match n.number? with
    | some (.natural w) =>
      if w.toNat < 0x8000000000000000 then .ok w.toNat else .error (.mismatch "a signed 64-bit integer")
    | some (.negative i) => .ok i
    | _ => .error (d.unexpected "a signed 64-bit integer")
  | d => .error (d.unexpected "a signed 64-bit integer")

/-- Reads a double-precision number. -/
def float : Reader Float
  | d@(.number n) =>
    match n.number? with
    | some (.natural w) => .ok w.toFloat
    | some (.negative i) => .ok (-(Decimal.ofWord i.natAbs))
    | some (.fraction x) => .ok x
    | none => .error (d.unexpected "a number")
  | d => .error (d.unexpected "a number")

/-- Reads a list of values. -/
def list (item : Reader α) : Reader (List α)
  | .array items => items.mapM item
  | d => .error (d.unexpected "a sequence")

/-- Reads a value or `null`. -/
def nullable (value : Reader α) : Reader (Option α)
  | .null => .ok none
  | d => (value d).map some

/-! ## Enumerations -/

/-- Reads a case that may carry data: an object whose only key is its name. -/
def variant (cases : List (String × Reader α)) : Reader α
  | .text (some _) => .error (.mismatch "a case with its data")
  | .object ((.text (some name), d) :: more) =>
    match cases.lookup name with
    | none => .error (.mismatch "a known case")
    | some read => do
      let a ← read d
      if more.isEmpty then return a else throw .malformed
  | _ => .error .malformed

/-- Reads nothing from `null`. -/
def unit (a : α) : Reader α
  | .null => .ok a
  | d => .error (d.unexpected "null")

/-- Reads a case without data: its name, or an object with `null` under it. -/
def enumeration (cases : List (String × α)) : Reader α
  | .text (some name) =>
    match cases.lookup name with
    | some a => .ok a
    | none => .error (.mismatch "a known case")
  | d => variant (cases.map fun (name, a) => (name, unit a)) d

/-! ## Records -/

/-- The fields that a text gives a record. -/
structure Fields where
  /-- Whether they were given by place, and not by name. -/
  positional : Bool
  values : List (String × Document)

/-- A reader of some fields of a record. -/
structure Record (α : Type) where
  /-- The names of the fields in order, each with a check of its value. -/
  checks : List (String × Reader Unit)
  /-- The value that the fields make. -/
  build : Fields → Except Fault α

namespace Record

instance : Functor Record where
  map f r := ⟨r.checks, fun fields => (r.build fields).map f⟩

instance : Seq Record where
  seq f r := ⟨f.checks ++ (r ()).checks, fun fields => do
    let g ← f.build fields
    return g (← (r ()).build fields)⟩

/-- The check that a reader accepts a value. -/
def check (read : Reader α) : Reader Unit := fun d => (read d).map fun _ => ()

/-- A field that has to be given. -/
def required (name : String) (read : Reader α) : Record α where
  checks := [(name, check read)]
  build fields :=
    match fields.values.lookup name with
    | some d => read d
    | none => .error (.mismatch ("the field " ++ name))

/-- A field with a value to take where it is left out. -/
def withDefault (name : String) (read : Reader α) (a : α) : Record α where
  checks := [(name, check read)]
  build fields :=
    match fields.values.lookup name with
    | some d => read d
    | none => .ok a

/-- A field that may be `null`, and may be left out where fields have names. -/
def optional (name : String) (read : Reader α) : Record (Option α) where
  checks := [(name, check (nullable read))]
  build fields :=
    match fields.values.lookup name with
    | some d => nullable read d
    | none =>
      if fields.positional then .error (.mismatch ("the field " ++ name)) else .ok none

/-- Checks the items of an array as the fields of a record. -/
def items : List (String × Reader Unit) → List Document → Except Fault (List (String × Document))
  | _, [] => .ok []
  | [], _ :: _ => .error .malformed
  | (name, check) :: checks, d :: ds => do
    check d
    return (name, d) :: (← items checks ds)

/-- Checks the members of an object as the fields of a record, after some that
were seen before. -/
def members (checks : List (String × Reader Unit)) :
    List (String × Document) → List (Document × Document) →
      Except Fault (List (String × Document))
  | seen, [] => .ok seen
  | seen, (.text (some name), d) :: ms =>
    match checks.lookup name with
    | some check => do
      if (seen.lookup name).isSome then throw (.mismatch ("the field " ++ name ++ " once"))
      check d
      members checks ((name, d) :: seen) ms
    | none => if d.intact then members checks seen ms else .error .malformed
  | _, _ :: _ => .error .malformed

/-- Reads a record. -/
def read (r : Record α) : Reader α
  | .array ds => do r.build ⟨true, ← items r.checks ds⟩
  | .object ms => do r.build ⟨false, ← members r.checks [] ms⟩
  | d => .error (d.unexpected "a record")

end Record

/-! ## Whole texts -/

/-- Reads the value that a text holds, with nothing but blanks around it. -/
def decode (read : Reader α) (s : String) : Except Fault α := do
  let (d, trailing) := Document.ofText s
  let a ← read d
  if trailing then throw .malformed else return a

end ControlPlane.Json
