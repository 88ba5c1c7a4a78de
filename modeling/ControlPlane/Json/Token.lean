import ControlPlane.Json.Numeral
import ControlPlane.Text.Scan

/-!
# JSON tokens

A text cut into tokens.  The first thing that starts no token ends the list
with the token `bad`.  Escapes in a string are checked for their form only; a
string whose escapes do not pair up as surrogates has no text.
-/

namespace ControlPlane.Json

open Text

/-- A token of a JSON text. -/
inductive Token
  | leftBrace
  | rightBrace
  | leftBracket
  | rightBracket
  | colon
  | comma
  | null
  | bool (b : Bool)
  | number (n : Numeral)
  /-- A string; `none` if its escapes denote no text. -/
  | text (s : Option String)
  /-- What starts no token. -/
  | bad
  deriving DecidableEq, Repr

/-- A piece of a string: a character, or a code unit written in hexadecimal. -/
inductive Piece
  | char (c : Char)
  | unit (n : Nat)

/-- The character that a one-letter escape writes. -/
def escaped? (c : Char) : Option Char :=
  match c with
  | '"' | '\\' | '/' => some c
  | 'b' => some '\x08'
  | 'f' => some '\x0c'
  | 'n' => some '\n'
  | 'r' => some '\r'
  | 't' => some '\t'
  | _ => none

/-- The code unit that four hexadecimal digits write. -/
def codeUnit? (digits : List Char) : Option Nat := do
  let values ← digits.mapM hexDigit?
  if values.length = 4 then some (ofDigits 16 values) else none

/-- The pieces of a string up to its closing quote, and the rest. -/
def lexPieces : List Char → Option (List Piece × List Char)
  | [] => none
  | '"' :: rest => some ([], rest)
  | '\\' :: 'u' :: a :: b :: c :: d :: rest => do
    let n ← codeUnit? [a, b, c, d]
    let (pieces, rest) ← lexPieces rest
    return (.unit n :: pieces, rest)
  | '\\' :: e :: rest => do
    let c ← escaped? e
    let (pieces, rest) ← lexPieces rest
    return (.char c :: pieces, rest)
  | c :: rest => do
    if c.toNat < 32 then none
    let (pieces, rest) ← lexPieces rest
    return (.char c :: pieces, rest)

/-- The characters that pieces denote; surrogates have to come in pairs. -/
def joinPieces : List Piece → Option (List Char)
  | [] => some []
  | .char c :: rest => (joinPieces rest).map (c :: ·)
  | .unit high :: .unit low :: rest =>
    if 0xD800 ≤ high ∧ high < 0xDC00 then
      if 0xDC00 ≤ low ∧ low < 0xE000 then
        (joinPieces rest).map
          (Char.ofNat ((high - 0xD800) * 0x400 + (low - 0xDC00) + 0x10000) :: ·)
      else none
    else if 0xDC00 ≤ high ∧ high < 0xE000 then none
    else (joinPieces (.unit low :: rest)).map (Char.ofNat high :: ·)
  | .unit n :: rest =>
    if 0xD800 ≤ n ∧ n < 0xE000 then none
    else (joinPieces rest).map (Char.ofNat n :: ·)

/-- The part of a numeral from its point on, and the rest. -/
def lexFraction (cs : List Char) : Option ((Bool × List Nat) × List Char) :=
  match cs with
  | '.' :: rest =>
    let (digits, rest) := spanDigits digit? rest
    if digits.isEmpty then none else some ((true, digits), rest)
  | _ => some ((false, []), cs)

/-- The digits of an exponent after its sign, and the rest. -/
def lexPower (negative : Bool) (cs : List Char) :
    Option (Option (Bool × List Nat) × List Char) :=
  let (digits, rest) := spanDigits digit? cs
  if digits.isEmpty then none else some (some (negative, digits), rest)

/-- The exponent of a numeral, and the rest. -/
def lexExponent (cs : List Char) : Option (Option (Bool × List Nat) × List Char) :=
  match cs with
  | 'e' :: '+' :: rest | 'E' :: '+' :: rest => lexPower false rest
  | 'e' :: '-' :: rest | 'E' :: '-' :: rest => lexPower true rest
  | 'e' :: rest | 'E' :: rest => lexPower false rest
  | _ => some (none, cs)

/-- A numeral after its sign, and the rest.  Zero is the only whole part that
starts with a zero. -/
def lexNumeral (negative : Bool) (cs : List Char) : Option (Numeral × List Char) := do
  let (whole, cs) := spanDigits digit? cs
  if whole.isEmpty || (whole.head? == some 0 && whole.length ≠ 1) then none
  let ((pointed, fraction), cs) ← lexFraction cs
  let (exponent, cs) ← lexExponent cs
  return (⟨negative, whole, fraction, pointed, exponent⟩, cs)

/-- The token that starts with a given character, and the rest. -/
def lexToken (c : Char) (rest : List Char) : Token × List Char :=
  match c, rest with
  | '\x7b', rest => (.leftBrace, rest)
  | '\x7d', rest => (.rightBrace, rest)
  | '[', rest => (.leftBracket, rest)
  | ']', rest => (.rightBracket, rest)
  | ':', rest => (.colon, rest)
  | ',', rest => (.comma, rest)
  | 'n', 'u' :: 'l' :: 'l' :: rest => (.null, rest)
  | 't', 'r' :: 'u' :: 'e' :: rest => (.bool true, rest)
  | 'f', 'a' :: 'l' :: 's' :: 'e' :: rest => (.bool false, rest)
  | '"', rest =>
    match lexPieces rest with
    | some (pieces, rest) => (.text ((joinPieces pieces).map String.ofList), rest)
    | none => (.bad, [])
  | '-', rest =>
    match lexNumeral true rest with
    | some (n, rest) => (.number n, rest)
    | none => (.bad, [])
  | c, rest =>
    match lexNumeral false (c :: rest) with
    | some (n, rest) => (.number n, rest)
    | none => (.bad, [])

/-- The blanks of JSON. -/
def isSpace (c : Char) : Bool := c == ' ' || c == '\n' || c == '\t' || c == '\r'

/-- The tokens of a text, up to a number of tokens and blanks. -/
def lex : Nat → List Char → List Token
  | 0, _ => []
  | _ + 1, [] => []
  | n + 1, c :: rest =>
    if isSpace c then lex n rest
    else
      let (token, left) := lexToken c rest
      token :: lex n left

/-- The tokens of a text.  Every blank and every token takes a character, so
that the length of the text bounds their number. -/
def tokens (cs : List Char) : List Token := lex cs.length cs

end ControlPlane.Json
