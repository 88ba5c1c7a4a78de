import ControlPlane.Readiness.Event

/-!
# Enough pipelines are healthy, or reported

Both rules go by the open pipelines with three copies that are there when the
rule is made or refreshed; a fraction of their number is the cutoff.  One rule
counts pipelines that were opened with healthy members only, the other one
pipelines that some node reported.
-/

namespace ControlPlane.Readiness

/-- The open pipelines that both rules go by. -/
def observed (pipelines : Pool) : List Pipeline := pipelines.opened (.ratis .three)

/-! ## Healthy pipelines -/

/-- The rule on healthy pipelines. -/
structure HealthyRule where
  threshold : Float
  cutoff : Nat
  healthy : SortedSet PipelineId := ∅

namespace HealthyRule

/-- The rule over a pool. -/
def make (threshold : Float) (pipelines : Pool) : HealthyRule where
  threshold
  cutoff := Readiness.cutoff threshold (observed pipelines).length

/-- Does the rule hold? -/
def holds (r : HealthyRule) : Bool := r.cutoff ≤ r.healthy.size

/-- Has the pipeline members, and are they all known and healthy? -/
def accepts (nodes : Registry) (p : Pipeline) : Bool :=
  !p.members.isEmpty && p.members.all nodes.isHealthy

/-- The rule after an event. -/
def process (r : HealthyRule) (nodes : Registry) : Event → HealthyRule
  | .pipelineOpened p =>
    if p.scheme = .ratis .three ∧ accepts nodes p then
      { r with healthy := r.healthy.insert p.id }
    else r
  | _ => r

/-- The rule counted anew; one that holds is left alone unless it is forced. -/
def refresh (r : HealthyRule) (k : Cluster) (force : Bool) : HealthyRule :=
  if !force && r.holds then r
  else
    let pipelines := observed k.pipelines
    { r with
      cutoff := Readiness.cutoff r.threshold pipelines.length
      healthy := .ofList ((pipelines.filter (accepts k.nodes)).map (·.id)) }

/-- The state of the rule in words. -/
def text (r : HealthyRule) : String :=
  "healthy Ratis/THREE pipelines (=" ++ Nat.repr r.healthy.size ++
    ") >= healthy pipeline threshold (=" ++ Nat.repr r.cutoff ++ ")"

end HealthyRule

/-! ## Reported pipelines -/

/-- The rule on reported pipelines. -/
structure ReportedRule where
  threshold : Float
  cutoff : Nat
  /-- The pipelines that can be reported. -/
  tracked : SortedSet PipelineId
  reported : SortedSet PipelineId := ∅

namespace ReportedRule

/-- The pipelines of a pool that can be reported. -/
def tracks (pipelines : Pool) : SortedSet PipelineId :=
  .ofList ((observed pipelines).map (·.id))

/-- The rule over a pool. -/
def make (threshold : Float) (pipelines : Pool) : ReportedRule where
  threshold
  cutoff := Readiness.cutoff threshold (tracks pipelines).size
  tracked := tracks pipelines

/-- Does the rule hold? -/
def holds (r : ReportedRule) : Bool := r.cutoff ≤ r.reported.size

/-- The rule after an event. -/
def process (r : ReportedRule) : Event → ReportedRule
  | .pipelinesReported _ pipelines =>
    { r with reported := r.reported.insertAll (pipelines.filter r.tracked.contains) }
  | _ => r

/-- The rule over the pool as it is now, with the reports that still apply; one
that holds is left alone unless it is forced. -/
def refresh (r : ReportedRule) (pipelines : Pool) (force : Bool) : ReportedRule :=
  if !force && r.holds then r
  else
    { r with
      cutoff := Readiness.cutoff r.threshold (tracks pipelines).size
      tracked := tracks pipelines
      reported := r.reported.filter (tracks pipelines).contains }

/-- The state of the rule in words. -/
def text (r : ReportedRule) : String :=
  "reported Ratis/THREE pipelines with at least one datanode (=" ++ Nat.repr r.reported.size ++
    ") >= threshold (=" ++ Nat.repr r.cutoff ++ ")"

end ReportedRule

end ControlPlane.Readiness
