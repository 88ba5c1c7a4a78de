import ControlPlane.Decimal.Format
import ControlPlane.Duration
import ControlPlane.Error
import ControlPlane.Net.Address

/-!
# Settings

Everything that an operator can set, in five sections, with the defaults of a
cluster and the profile of a single development node.
-/

namespace ControlPlane

open Net

/-- When the cluster leaves safe mode. -/
structure SafeModeSettings where
  /-- Without safe mode the control plane starts ready. -/
  enabled : Bool := true
  /-- How many nodes have to register. -/
  minNodes : UInt64 := 1
  /-- The fraction of the closed containers that have to be reported. -/
  containerThreshold : Float := 0.99
  /-- Whether the two rules on pipelines are in force. -/
  pipelineCheck : Bool := true
  /-- The fraction of the pipelines that have to be healthy. -/
  healthyThreshold : Float := 0.1
  /-- The fraction of the pipelines that a member has to report. -/
  reportedThreshold : Float := 0.9
  /-- How long background work waits after safe mode. -/
  exitDelay : Duration := ⟨300000⟩
  deriving DecidableEq

/-- How one of several pipelines is chosen for a request. -/
inductive Policy
  /-- Any of them. -/
  | random
  /-- The roomier of any two. -/
  | capacity
  /-- Any of those with healthy members only. -/
  | healthy
  deriving DecidableEq, Repr

/-- How many pipelines are opened, and which of them is used. -/
structure ProviderSettings where
  /-- The number of open pipelines that a scheme may always have. -/
  minPipelines : UInt64 := 5
  /-- How many open pipelines a scheme may have for each healthy volume, to be
  divided by the number of nodes of a pipeline. -/
  factor : Float := 1.0
  policy : Policy := .random
  deriving DecidableEq

/-- The size of containers. -/
structure ContainerSettings where
  /-- The greatest number of bytes in a container. -/
  maxSize : UInt64 := 5 * 1024 * 1024 * 1024
  deriving DecidableEq, Repr

/-- The surface for operators. -/
structure AdminSettings where
  enabled : Bool := true
  address : Address := .v4 ⟨0, 0, 0, 0⟩ 9860
  deriving DecidableEq

/-- Logs and metrics. -/
structure ObservabilitySettings where
  metricsEnabled : Bool := true
  metricsAddress : Address := .v4 ⟨0, 0, 0, 0⟩ 9090
  logLevel : String := "info"
  jsonLogs : Bool := false
  deriving DecidableEq

/-- All settings; each has its default. -/
structure Settings where
  safeMode : SafeModeSettings := {}
  provider : ProviderSettings := {}
  container : ContainerSettings := {}
  admin : AdminSettings := {}
  observability : ObservabilitySettings := {}
  deriving DecidableEq

instance : Inhabited Settings := ⟨{}⟩

namespace Settings

/-- The profile of a single development node. -/
def development : Settings where
  safeMode := { minNodes := 1, pipelineCheck := false, exitDelay := ⟨0⟩ }
  provider := { minPipelines := 1 }
  admin := { address := .v4 ⟨127, 0, 0, 1⟩ 9860 }
  observability := { metricsEnabled := false, logLevel := "debug" }

/-- The thresholds with the names by which an operator knows them. -/
def thresholds (s : Settings) : List (String × Float) :=
  [("safe_mode.container_threshold_pct", s.safeMode.containerThreshold),
    ("safe_mode.healthy_pipeline_threshold_pct", s.safeMode.healthyThreshold),
    ("safe_mode.one_replica_pipeline_threshold_pct", s.safeMode.reportedThreshold)]

/-- Is the number between 0 and 1? -/
def isFraction (x : Float) : Bool := 0.0 ≤ x && x ≤ 1.0

/-- The first thing that makes the settings unusable, with the setting's name. -/
def fault? (s : Settings) : Option (String × SettingFault) :=
  match s.thresholds.find? fun (_, x) => !isFraction x with
  | some (name, x) => some (name, .noFraction (Decimal.plain x))
  | none =>
    if s.provider.minPipelines = 0 then some ("provider.minimum_pipelines", .noPipelines)
    else if s.provider.factor < 0.0 then
      some ("provider.pipeline_per_volume_factor", .negativeFactor)
    else if s.container.maxSize = 0 then some ("container.max_size_bytes", .noSize)
    else none

/-- Can the settings be used? -/
def validate (s : Settings) : Except Error Unit :=
  match s.fault? with
  | none => .ok ()
  | some (name, fault) => .error (.setting name fault)

end Settings

end ControlPlane
