import ControlPlane.Readiness.NodeRule
import ControlPlane.Readiness.PipelineRules
import ControlPlane.Readiness.ReplicaRule
import ControlPlane.Settings.Basic

/-!
# The rules of safe mode

The four kinds of rule as one type, and the rules that settings ask for.
-/

namespace ControlPlane.Readiness

open Json

/-- A rule of safe mode with what it has counted. -/
inductive Rule
  | nodes (rule : NodeRule)
  | containers (rule : ReplicaRule)
  | healthy (rule : HealthyRule)
  | reported (rule : ReportedRule)

namespace Rule

/-- The name of a rule. -/
def name : Rule → RuleName
  | .nodes _ => .nodes
  | .containers r =>
    match r.family with
    | .ratis => .ratisContainers
    | .ec => .ecContainers
  | .healthy _ => .healthyPipelines
  | .reported _ => .reportedPipelines

/-- Does the pre-check wait for the rule? -/
def isPreCheck : Rule → Bool
  | .nodes _ => true
  | _ => false

/-- Does the rule hold? -/
def holds : Rule → Bool
  | .nodes r => r.holds
  | .containers r => r.holds
  | .healthy r => r.holds
  | .reported r => r.holds

/-- The rule after an event in a cluster. -/
def process (k : Cluster) (e : Event) : Rule → Rule
  | .nodes r => .nodes (r.process e)
  | .containers r => .containers (r.process e)
  | .healthy r => .healthy (r.process k.nodes e)
  | .reported r => .reported (r.process e)

/-- The rule counted anew from a cluster; one that holds is left alone unless
it is forced. -/
def refresh (k : Cluster) (force : Bool) : Rule → Rule
  | .nodes r => .nodes (r.refresh k.nodes force)
  | .containers r => .containers (r.refresh k force)
  | .healthy r => .healthy (r.refresh k force)
  | .reported r => .reported (r.refresh k.pipelines force)

/-- The rule counted anew if that is asked for and it does not hold. -/
def recounted (k : Cluster) (anew : Bool) (r : Rule) : Rule :=
  if anew then r.refresh k false else r

/-- The rule after it was validated, without what it needs no longer. -/
def cleanup : Rule → Rule
  | .containers r => .containers r.freeze
  | r => r

/-- The state of the rule in words. -/
def text : Rule → String
  | .nodes r => r.text
  | .containers r => r.text
  | .healthy r => r.text
  | .reported r => r.text

end Rule

/-- The rules that settings ask for, over a cluster. -/
def rulesOf (s : SafeModeSettings) (k : Cluster) : List Rule :=
  if !s.enabled then []
  else
    [.nodes { required := s.minNodes },
      .containers (.make .ratis s.containerThreshold k.containers),
      .containers (.make .ec s.containerThreshold k.containers)] ++
    if s.pipelineCheck then
      [.healthy (.make s.healthyThreshold k.pipelines),
        .reported (.make s.reportedThreshold k.pipelines)]
    else []

/-- The names of the rules that the pre-check waits for. -/
def preCheckOf (rules : List Rule) : SortedSet RuleName :=
  .ofList ((rules.filter Rule.isPreCheck).map Rule.name)

/-! ## What operators see of a rule -/

/-- The state of a rule for operators. -/
structure RuleReport where
  name : String
  validated : Bool
  text : String
  preCheck : Bool
  deriving DecidableEq, Repr

/-- The state of a rule for operators, as of now. -/
def Rule.report (r : Rule) : RuleReport where
  name := r.name.text
  validated := r.holds
  text := r.text
  preCheck := r.isPreCheck

/-- The state of a rule in JSON. -/
def RuleReport.json (r : RuleReport) : Value :=
  .object [
    ("name", r.name),
    ("validated", r.validated),
    ("status_text", r.text),
    ("pre_check", r.preCheck)]

/-- Reads the state of a rule. -/
def RuleReport.reader : Reader RuleReport :=
  Record.read (RuleReport.mk <$> Record.required "name" Json.text <*>
    Record.required "validated" Json.bool <*>
    Record.required "status_text" Json.text <*>
    Record.required "pre_check" Json.bool)

instance : Wire RuleReport := ⟨RuleReport.json, RuleReport.reader⟩

end ControlPlane.Readiness
