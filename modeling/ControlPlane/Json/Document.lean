import ControlPlane.Json.Token

/-!
# JSON documents

The tree of a JSON text as far as the text can be read.  Where the text breaks
the rules of JSON the tree holds the mark `broken`, and nothing after it.  The
members of an object keep their order and their repetitions.  A reader that
walks the tree from the left meets what is wrong with the text in the order of
the text: a value of the wrong kind before a break behind it.
-/

namespace ControlPlane.Json

/-- A JSON text as a tree. -/
inductive Document
  | null
  | bool (b : Bool)
  | number (n : Numeral)
  | text (s : Option String)
  | array (items : List Document)
  | object (members : List (Document × Document))
  /-- Here the text stops to be JSON. -/
  | broken
  deriving Inhabited

mutual

/-- Is there no break in the tree? -/
def Document.intact : Document → Bool
  | .broken => false
  | .array items => itemsIntact items
  | .object members => membersIntact members
  | .null => true
  | .bool _ => true
  | .number _ => true
  | .text _ => true

/-- Is there no break in a list of trees? -/
def itemsIntact : List Document → Bool
  | [] => true
  | d :: ds => d.intact && itemsIntact ds

/-- Is there no break in a list of members? -/
def membersIntact : List (Document × Document) → Bool
  | [] => true
  | (k, d) :: ms => k.intact && d.intact && membersIntact ms

end

namespace Document

/-- An array or an object that is being read, with its parts so far in reverse
order; in an object, also the key whose value comes next. -/
inductive Frame
  | array (items : List Document)
  | object (members : List (Document × Document)) (key : Document)

/-- What may come next. -/
inductive State
  /-- A value, or the end of an array that has no item yet. -/
  | item (start : Bool)
  /-- A key, or the end of an object that has no member yet. -/
  | key (members : List (Document × Document)) (start : Bool)
  /-- A colon. -/
  | colon (members : List (Document × Document)) (key : Document)
  /-- Whatever may follow a value. -/
  | after (value : Document)

/-- A tree put into the frames around it. -/
def close (d : Document) : List Frame → Document
  | [] => d
  | .array items :: frames => close (.array (d :: items).reverse) frames
  | .object members key :: frames => close (.object ((key, d) :: members).reverse) frames

/-- The tree of a text that breaks off in a state. -/
def breakOff (frames : List Frame) : State → Document
  | .item _ => close .broken frames
  | .key members _ => close (.object ((.broken, .broken) :: members).reverse) frames
  | .colon members key => close (.object ((key, .broken) :: members).reverse) frames
  | .after d =>
    match frames with
    | [] => d
    | .array items :: frames => close (.array (.broken :: d :: items).reverse) frames
    | .object members key :: frames =>
      close (.object ((.broken, .broken) :: (key, d) :: members).reverse) frames

/-- The value that a token is by itself. -/
def ofToken : Token → Document
  | .null => .null
  | .bool b => .bool b
  | .number n => .number n
  | .text s => .text s
  | _ => .broken

/-- Reads tokens in a state inside some frames.  The flag tells whether tokens
are left after the tree. -/
def build : List Frame → State → List Token → Document × Bool
  | frames, state, [] => (breakOff frames state, false)
  | frames, .item start, t :: ts =>
    match t, start, frames with
    | .null, _, _ | .bool _, _, _ | .number _, _, _ | .text _, _, _ =>
      build frames (.after (ofToken t)) ts
    | .leftBracket, _, _ => build (.array [] :: frames) (.item true) ts
    | .leftBrace, _, _ => build frames (.key [] true) ts
    | .rightBracket, true, .array items :: frames =>
      build frames (.after (.array items.reverse)) ts
    | _, _, _ => (breakOff frames (.item start), true)
  | frames, .key members start, t :: ts =>
    match t, start with
    | .text s, _ => build frames (.colon members (.text s)) ts
    | .rightBrace, true => build frames (.after (.object members.reverse)) ts
    | _, _ => (breakOff frames (.key members start), true)
  | frames, .colon members key, t :: ts =>
    match t with
    | .colon => build (.object members key :: frames) (.item false) ts
    | _ => (breakOff frames (.colon members key), true)
  | [], .after d, _ :: _ => (d, true)
  | .array items :: frames, .after d, t :: ts =>
    match t with
    | .comma => build (.array (d :: items) :: frames) (.item false) ts
    | .rightBracket => build frames (.after (.array (d :: items).reverse)) ts
    | _ => (breakOff (.array items :: frames) (.after d), true)
  | .object members key :: frames, .after d, t :: ts =>
    match t with
    | .comma => build frames (.key ((key, d) :: members) false) ts
    | .rightBrace => build frames (.after (.object ((key, d) :: members).reverse)) ts
    | _ => (breakOff (.object members key :: frames) (.after d), true)

/-- The tree of a text, and whether anything but blanks follows it. -/
def ofText (text : String) : Document × Bool := build [] (.item false) (tokens text.toList)

end Document

end ControlPlane.Json
