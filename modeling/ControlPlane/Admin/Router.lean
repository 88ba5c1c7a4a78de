import ControlPlane.Admin.MediaType
import ControlPlane.Admin.Target
import ControlPlane.Manager

/-!
# The surface for operators

Requests by path and method, and their answers: the state of safe mode and of
the nodes to look at, reports to take in, and containers to allocate.  What
fails is answered with the code of the error and its sentence.  A request that
is malformed is refused before it reaches the control plane.
-/

namespace ControlPlane.Admin

open Json Readiness

/-- A request of an operator or a client. -/
structure Query where
  method : String
  target : String
  contentType : Option String := none
  body : String := ""
  deriving DecidableEq, Repr

/-- What an answer carries. -/
inductive Body
  | empty
  | text (s : String)
  | json (v : Value)

/-- An answer. -/
structure Answer where
  status : Nat
  body : Body := .empty

/-- An answer with the control plane after it, and what the request did.  There is none if
a request for a container broke off. -/
structure Reply where
  answer : Option Answer
  manager : Manager
  trace : Trace := []

/-- The answer without what it carries. -/
def Answer.bare (a : Answer) : Answer :=
  { a with body := match a.body with
      | .text _ => .text ""
      | _ => .empty }

/-- A refusal without an explanation. -/
def refuse (status : Nat) : Answer := { status }

/-- A successful answer. -/
def ok (v : Value) : Answer := { status := 200, body := .json v }

/-- The answer that an error becomes. -/
def failure (e : Error) : Answer where
  status := e.httpStatus
  body := .json (.object [("code", e.code), ("error", e.message)])

/-! ## Reading requests -/

/-- The value in the body of a request, or the refusal. -/
def readBody (read : Reader α) (q : Query) : Except Answer α :=
  if !(q.contentType.any isJson) then .error (refuse 415)
  else
    match decode read q.body with
    | .ok a => .ok a
    | .error .malformed => .error (refuse 400)
    | .error (.mismatch _) => .error (refuse 422)

/-- One criterion of a query that may be given once. -/
def criterion? (name : String) (ofName? : String → Option α) (pairs : List (String × String)) :
    Option (Option α) :=
  match pairs.filter fun p => p.1 == name with
  | [] => some none
  | [p] => (ofName? p.2).map some
  | _ => none

/-- The demand on nodes that a query makes. -/
def filter? (query : List Char) : Option StatusFilter := do
  let pairs := queryPairs query
  let operation ← criterion? "state" Operation.ofName? pairs
  let health ← criterion? "health" Health.ofName? pairs
  return { operation, health }

/-- Reads a request for a container; its exclusions may be left out. -/
def allocationReader : Reader Request :=
  Record.read (Request.mk <$> Record.required "size" word64 <*>
    Record.required "replication" Scheme.reader <*>
    Record.required "owner" Json.text <*>
    Record.withDefault "exclude" Exclusions.reader {})

/-! ## Answering -/

/-- What a request asks for. -/
inductive Route
  | health
  | status
  | rules
  | exit
  | nodes
  | node (name : List Char)
  | report
  | containers
  deriving DecidableEq, Repr

/-- The route of a path. -/
def Route.ofSegments? (segments : List (List Char)) : Option Route :=
  match segments.map String.ofList with
  | ["health"] => some .health
  | ["safemode", "status"] => some .status
  | ["safemode", "rules"] => some .rules
  | ["safemode", "exit"] => some .exit
  | ["nodes"] => some .nodes
  | ["nodes", "report"] => some .report
  | ["nodes", name] => if name.isEmpty then none else some (.node name.toList)
  | ["containers"] => some .containers
  | _ => none

/-- Does the route change the control plane, so that it has to be posted? -/
def Route.isPosted : Route → Bool
  | .exit | .report | .containers => true
  | _ => false

/-- The node that a segment names. -/
def nodeOf (name : List Char) : Except Answer NodeId :=
  match decodePercent? name with
  | none => .error (refuse 400)
  | some text =>
    match NodeId.parse? text with
    | some id => .ok id
    | none => .error (failure (.input (.nodeId "not a UUID")))

/-- The answer about a node. -/
def describe (m : Manager) (name : List Char) : Answer :=
  match nodeOf name with
  | .error a => a
  | .ok id =>
    match m.cluster.nodes.info id with
    | .ok i => ok i.json
    | .error e => failure e

/-- The answer to a request that asks for a state only. -/
def look (m : Manager) (query : List Char) : Route → Answer
  | .health => { status := 200, body := .text "OK" }
  | .status => ok m.status.json
  | .rules => ok (.array (m.safeMode.reports.map RuleReport.json))
  | .nodes =>
    match filter? query with
    | some f => ok (.array ((m.cluster.nodes.listing f).map NodeInfo.json))
    | none => refuse 400
  | .node name => describe m name
  | _ => refuse 405

/-- Answers a request for a container. -/
def allocate (m : Manager) (env : Environment) (draws : List Pipeline → Nat × Nat) (q : Query) :
    Reply :=
  match readBody allocationReader q with
  | .error a => { answer := a, manager := m }
  | .ok r =>
    match m.allocate env draws r with
    | (some (.ok c), manager, trace) =>
      { answer := some { status := 201, body := .json c.json }, manager, trace }
    | (some (.error e), manager, trace) => { answer := failure e, manager, trace }
    | (none, manager, trace) => { answer := none, manager, trace }

/-- Answers a request that changes the control plane. -/
def act (m : Manager) (env : Environment) (draws : List Pipeline → Nat × Nat) (q : Query) :
    Route → Reply
  | .exit => { answer := ok m.forceExit.status.json, manager := m.forceExit }
  | .report =>
    match readBody NodeReport.reader q with
    | .error a => { answer := a, manager := m }
    | .ok r => let m := m.reportNode r; { answer := ok m.status.json, manager := m }
  | .containers => allocate m env draws q
  | _ => { answer := refuse 405, manager := m }

/-- Answers a request.  `HEAD` is answered like `GET` without a body. -/
def reply (m : Manager) (env : Environment) (draws : List Pipeline → Nat × Nat) (q : Query) :
    Reply :=
  let target := Target.ofText q.target
  match Route.ofSegments? target.segments with
  | none => { answer := refuse 404, manager := m }
  | some route =>
    if route.isPosted then
      if q.method = "POST" then act m env draws q route
      else { answer := refuse 405, manager := m }
    else if q.method = "GET" then { answer := look m target.query route, manager := m }
    else if q.method = "HEAD" then
      { answer := (look m target.query route).bare, manager := m }
    else { answer := refuse 405, manager := m }

end ControlPlane.Admin
