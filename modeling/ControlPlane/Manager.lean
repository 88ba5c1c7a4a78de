import ControlPlane.Allocation
import ControlPlane.Readiness.SafeMode

/-!
# The control plane

The manager joins the cluster, safe mode and the allocator.  Reports go to the
registry first and then to the rules of safe mode.  Requests for containers are
refused until safe mode ends.
-/

namespace ControlPlane

open Readiness

/-- The control plane. -/
structure Manager where
  settings : Settings
  cluster : Cluster
  safeMode : SafeMode

namespace Manager

/-- Starts the control plane over a cluster.  The rules of safe mode take
account of the pipelines and containers that are there. -/
def start (settings : Settings) (cluster : Cluster) (metrics : Metrics) : Except Error Manager :=
  settings.validate.map fun _ =>
    { settings
      cluster
      safeMode := .start settings.safeMode.enabled (rulesOf settings.safeMode cluster) {} {}
        metrics }

/-- Starts the control plane over an empty cluster. -/
def inMemory (settings : Settings) (metrics : Metrics) : Except Error Manager :=
  start settings {} metrics

/-- How ready the cluster is. -/
def status (m : Manager) : Status := m.safeMode.status

/-- The counters and gauges. -/
def metrics (m : Manager) : Metrics := m.safeMode.metrics

/-- The control plane with other metrics. -/
def withMetrics (m : Manager) (metrics : Metrics) : Manager :=
  { m with safeMode := { m.safeMode with metrics } }

/-- Tells the rules of safe mode of an event. -/
def handle (m : Manager) (e : Event) : Manager :=
  { m with safeMode := m.safeMode.handle m.cluster e }

/-! ## Reports -/

/-- Takes the report of a node in. -/
def reportNode (m : Manager) (r : NodeReport) : Manager :=
  let (isNew, cluster, metrics) := m.cluster.report m.metrics r
  let m := { m with cluster }.withMetrics metrics
  m.handle (if isNew then .nodeRegistered r else .containersReported r)

/-- Takes the health in that heartbeats show of a node, and tells its new status. -/
def heartbeat (m : Manager) (id : NodeId) (health : Health) : Except Error NodeStatus × Manager :=
  match m.cluster.nodes.setHealth id health with
  | .error e => (.error e, m)
  | .ok nodes => (nodes.status id, { m with cluster := { m.cluster with nodes } })

/-- Takes the list of pipelines in that a node says it is a member of. -/
def reportPipelines (m : Manager) (id : NodeId) (pipelines : List PipelineId) :
    Except Error Unit × Manager :=
  if m.cluster.nodes.contains id then (.ok (), m.handle (.pipelinesReported id pipelines))
  else (.error (.nodeNotFound id), m)

/-! ## Sessions -/

/-- Runs an action on the cluster. -/
def run (m : Manager) (act : Session → α × Session) : α × Manager × Trace :=
  let (result, s) := act { cluster := m.cluster, metrics := m.metrics }
  (result, { m.withMetrics s.metrics with cluster := s.cluster }, s.trace)

/-- Opens a pipeline and tells the rules of safe mode. -/
def openPipeline (m : Manager) (env : Environment) (id : PipelineId) :
    Except Error Unit × Manager :=
  let (opened, m, _) := m.run fun s =>
    match Session.openPipeline env id s with
    | (.error e, s) => (.error e, s)
    | (.ok (), s) => Session.pipeline env id s
  match opened with
  | .error e => (.error e, m)
  | .ok p => (.ok (), m.handle (.pipelineOpened p))

/-- The allocator with the settings of the control plane. -/
def allocator (m : Manager) : Allocator := .ofSettings m.settings

/-- Why a request is refused at once, if it is. -/
def refusal? (m : Manager) (r : Request) : Option Error :=
  if m.status.inSafeMode then some (.safeMode .allocation)
  else if m.settings.container.maxSize < r.size then
    some (.allocation (.tooLarge r.size m.settings.container.maxSize))
  else none

/-- Serves a request for a container, with the draws for the policy. -/
def allocate (m : Manager) (env : Environment) (draws : List Pipeline → Nat × Nat)
    (r : Request) : Allocator.Ending × Manager × Trace :=
  match m.refusal? r with
  | some e => (some (.error e), m, [])
  | none =>
    let choose := m.settings.provider.policy.chooser m.cluster.nodes draws
    m.run (m.allocator.allocate env choose r)

/-! ## Operators and services -/

/-- Ends safe mode by force. -/
def forceExit (m : Manager) : Manager := { m with safeMode := m.safeMode.force }

/-- Counts the rules of safe mode anew and records those that hold. -/
def refresh (m : Manager) : Manager :=
  { m with safeMode := m.safeMode.refreshAndValidate m.cluster }

/-- Registers a service that waits for the cluster. -/
def register (m : Manager) (name : String) : Manager :=
  { m with safeMode := { m.safeMode with services := m.safeMode.services.register name } }

/-- Registers a gate for background work, and tells its place among the services. -/
def registerGate (m : Manager) (name : String) : Nat × Manager :=
  (m.safeMode.services.size, m.register name)

/-- What a gate of the control plane knows. -/
def gate (m : Manager) (place : Nat) : Gate := .ofNotices (m.safeMode.services.received place)

/-- May work behind a gate of the control plane run when some time has passed
since safe mode ended? -/
def mayRun (m : Manager) (place : Nat) (elapsed : Duration) : Bool :=
  (m.gate place).mayRun m.settings.safeMode.exitDelay elapsed

/-- The gauges as of now. -/
def gauges (m : Manager) : Gauges where
  nodes := UInt64.ofNat m.cluster.nodes.size
  healthyNodes := UInt64.ofNat (m.cluster.nodes.countLike .inServiceHealthy)
  inSafeMode := m.status.inSafeMode

/-- The regular upkeep: the rules are counted anew while safe mode lasts, and
the gauges are set. -/
def tick (m : Manager) : Manager :=
  let m := if m.status.inSafeMode then m.refresh else m
  m.withMetrics { m.metrics with gauges := some m.gauges }

end Manager

end ControlPlane
