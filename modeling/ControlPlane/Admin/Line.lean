import ControlPlane.Admin.Router

/-!
# Requests as lines

The surface for operators on a plain text stream.  A request is one line: the
method, the target and, if there is one, the body as JSON, with blanks between.
An answer is a line with the status, and a line with what it carries if it
carries anything.
-/

namespace ControlPlane.Admin

/-- The characters before the first blank, and those after it. -/
def cutAtBlank (cs : List Char) : List Char × List Char :=
  (cs.takeWhile (· != ' '), (cs.dropWhile (· != ' ')).tail)

/-- Reads a request.  A body is taken to be JSON. -/
def Query.ofLine (line : String) : Query :=
  let (method, rest) := cutAtBlank (line.toList.filter fun c => c != '\n' && c != '\r')
  let (target, body) := cutAtBlank rest
  { method := String.ofList method
    target := String.ofList target
    contentType := if body.isEmpty then none else some "application/json"
    body := String.ofList body }

/-- The lines of an answer. -/
def Answer.lines (a : Answer) : List String :=
  Nat.repr a.status ::
    match a.body with
    | .empty => []
    | .text s => [s]
    | .json v => [v.compact]

end ControlPlane.Admin
