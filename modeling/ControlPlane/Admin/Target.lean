import ControlPlane.Text.Whole

/-!
# Request targets

The path and the query of a request.  A path is split at its slashes before
percent escapes are decoded.  A query is a list of names and values in which a
plus sign stands for a blank.  A percent sign without two hexadecimal digits
stands for itself.
-/

namespace ControlPlane.Admin

/-- The bytes of a text with percent escapes. -/
def unescape : List Char → List UInt8
  | [] => []
  | '%' :: a :: b :: rest =>
    match Text.hexDigit? a, Text.hexDigit? b with
    | some x, some y => UInt8.ofNat (x * 16 + y) :: unescape rest
    | _, _ => '%'.toString.toUTF8.toList ++ unescape (a :: b :: rest)
  | c :: rest => c.toString.toUTF8.toList ++ unescape rest

/-- The text that a text with percent escapes stands for, unless its bytes are
no UTF-8. -/
def decodePercent? (cs : List Char) : Option String :=
  String.fromUTF8? (ByteArray.mk (unescape cs).toArray)

/-- A text split at a character. -/
def splitAt (c : Char) (cs : List Char) : List (List Char) :=
  match cs with
  | [] => [[]]
  | d :: rest =>
    if d = c then [] :: splitAt c rest
    else
      match splitAt c rest with
      | [] => [[d]]
      | part :: parts => (d :: part) :: parts

/-- A target as the segments of its path and the text of its query. -/
structure Target where
  segments : List (List Char)
  query : List Char
  deriving DecidableEq, Repr

/-- The rest of a text after a scheme and an authority, if it starts with them. -/
def dropAuthority (cs : List Char) : List Char :=
  match cs.dropWhile (· != ':') with
  | ':' :: '/' :: '/' :: rest =>
    if cs.head? = some '/' then cs else rest.dropWhile fun c => c != '/' && c != '?'
  | _ => cs

/-- The target that a text writes; what follows a number sign is dropped. -/
def Target.ofText (text : String) : Target :=
  let cs := dropAuthority (text.toList.takeWhile (· != '#'))
  { segments := (splitAt '/' (cs.takeWhile (· != '?'))).drop 1
    query := (cs.dropWhile (· != '?')).drop 1 }

/-- A name or a value of a query.  Bytes that are no UTF-8 make a text that is
no name. -/
def queryPart (cs : List Char) : String :=
  (decodePercent? (cs.map fun c => if c = '+' then ' ' else c)).getD "\uFFFD"

/-- The names and values of a query. -/
def queryPairs (cs : List Char) : List (String × String) :=
  ((splitAt '&' cs).filter fun part => !part.isEmpty).map fun part =>
    (queryPart (part.takeWhile (· != '=')), queryPart ((part.dropWhile (· != '=')).drop 1))

end ControlPlane.Admin
