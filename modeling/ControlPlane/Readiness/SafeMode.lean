import ControlPlane.Readiness.Rule
import ControlPlane.Readiness.Services

/-!
# Safe mode

Safe mode lasts until every rule has held once, or until an operator ends it.
A rule that holds is recorded as validated and is not looked at again.  The
pre-check is complete when its rules are validated.  Each milestone is
published on the board and services are told of it, once.  Outside safe mode
no operation changes anything.
-/

namespace ControlPlane.Readiness

open Json

/-- The state of safe mode, with the board, the services and the metrics that
it tells of its milestones. -/
structure SafeMode where
  rules : List Rule
  /-- The rules that the pre-check waits for. -/
  preCheck : SortedSet RuleName
  status : Status := .initial
  /-- The rules that have held. -/
  validated : SortedSet RuleName := ∅
  board : Board := {}
  services : Services := {}
  metrics : Metrics := {}

namespace SafeMode

/-- Publishes the status and tells services of the milestone that it shows. -/
def announce (m : SafeMode) : SafeMode :=
  { m with
    board := m.board.publish m.status
    services :=
      if !m.status.inSafeMode then m.services.notify (.statusChanged m.status)
      else if m.status.preCheckComplete then m.services.notify .preCheckCompleted
      else m.services }

/-- Ends safe mode. -/
def leave (m : SafeMode) (forced : Bool) : SafeMode :=
  { m with status := .exited forced, metrics := m.metrics.exited forced }.announce

/-- Enters safe mode with some rules, on a board and over some services.
Without rules, and where safe mode is disabled, it ends at once; where it is
disabled the rules are dropped. -/
def start (enabled : Bool) (rules : List Rule) (board : Board) (services : Services)
    (metrics : Metrics) : SafeMode :=
  if !enabled then
    SafeMode.leave { rules := [], preCheck := ∅, board, services, metrics } true
  else
    let m : SafeMode := { rules, preCheck := preCheckOf rules, board, services, metrics }
    if rules.isEmpty then m.leave false
    else if m.preCheck.isEmpty then
      announce { m with status := { m.status with preCheckComplete := true } }
    else m.announce

/-- Completes the pre-check, if its rules are all validated and it was not
complete before. -/
def completePreCheck (m : SafeMode) : SafeMode :=
  if (m.validated.filter m.preCheck.contains).size = m.preCheck.size ∧
      m.status.preCheckComplete = false then
    announce { m with status := { m.status with preCheckComplete := true } }
  else m

/-- Adds a rule to those that have held. -/
def note (m : SafeMode) (name : RuleName) : SafeMode :=
  { m with
    validated := m.validated.insert name
    metrics := { m.metrics with rulesValidated := m.metrics.rulesValidated + 1 } }

/-- Looks at the pre-check after a rule was added, if it waits for the rule. -/
def check (m : SafeMode) (name : RuleName) : SafeMode :=
  if m.preCheck.contains name then m.completePreCheck else m

/-- Records that a rule has held.  The last rule ends safe mode. -/
def record (m : SafeMode) (name : RuleName) : SafeMode :=
  if m.validated.contains name then m
  else
    let m := (m.note name).check name
    if m.validated.size = m.rules.length then m.leave false else m

/-- Records that the rule with a given name has held, while safe mode lasts.  A
name that no rule has is ignored. -/
def validate (m : SafeMode) (name : String) : SafeMode :=
  if !m.status.inSafeMode then m
  else
    match RuleName.ofText? name with
    | none => m
    | some n => if (m.rules.map Rule.name).contains n then m.record n else m

/-- A pass over some rules that looks at those not validated yet, counts them
anew if asked to, and records the ones that hold.  It stops when safe mode
ends.  The result has the rules after the pass. -/
def visit (k : Cluster) (anew : Bool) : List Rule → SafeMode → List Rule × SafeMode
  | [], m => ([], m)
  | r :: rs, m =>
    if !m.status.inSafeMode then (r :: rs, m)
    else if m.validated.contains r.name then
      let (rs, m) := visit k anew rs m
      (r :: rs, m)
    else
      let r := r.recounted k anew
      if r.holds then
        let (rs, m) := visit k anew rs (m.record r.name)
        (r.cleanup :: rs, m)
      else
        let (rs, m) := visit k anew rs m
        (r :: rs, m)

/-- A pass over all rules. -/
def pass (m : SafeMode) (k : Cluster) (anew : Bool) : SafeMode :=
  let (rules, m) := visit k anew m.rules m
  { m with rules }

/-- Tells every rule of an event and records those that hold after it. -/
def handle (m : SafeMode) (k : Cluster) (e : Event) : SafeMode :=
  if !m.status.inSafeMode then m
  else pass { m with rules := m.rules.map (Rule.process k e) } k false

/-- Counts every rule anew and records nothing. -/
def refresh (m : SafeMode) (k : Cluster) : SafeMode :=
  if !m.status.inSafeMode then m
  else { m with rules := m.rules.map (Rule.refresh k true) }

/-- Counts the rules that are not validated yet anew and records those that
hold. -/
def refreshAndValidate (m : SafeMode) (k : Cluster) : SafeMode := m.pass k true

/-- Ends safe mode whatever the rules say. -/
def force (m : SafeMode) : SafeMode := if !m.status.inSafeMode then m else m.leave true

/-- The states of the rules for operators. -/
def reports (m : SafeMode) : List RuleReport := m.rules.map Rule.report

end SafeMode

end ControlPlane.Readiness
