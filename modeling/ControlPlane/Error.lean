import ControlPlane.Pipeline.Basic

/-!
# Errors

Everything that an operation of the control plane can fail with.  An error
names its cause; the sentence for an operator, the stable code, and the answer
to a client all follow from the cause.
-/

namespace ControlPlane

/-- Why no container could be allocated. -/
inductive AllocationFault
  /-- The request is larger than any container. -/
  | tooLarge (size limit : UInt64)
  /-- There are as many open pipelines as the scheme may have, and none of them
  was closed. -/
  | limitReached (scheme : Scheme) (limit : Nat)
  /-- A reason of a collaborator. -/
  | other (reason : String)
  deriving DecidableEq, Repr

/-- Why no members could be chosen for a pipeline. -/
inductive PlacementFault
  | noMembers
  | tooFewNodes (needed available excluded : Nat)
  /-- A reason of a collaborator. -/
  | other (reason : String)
  deriving DecidableEq, Repr

/-- What safe mode refuses. -/
inductive SafeModeFault
  | allocation
  /-- A reason of a collaborator. -/
  | other (reason : String)
  deriving DecidableEq, Repr

/-- Why no settings could be loaded, or an argument could not be read. -/
inductive InputFault
  /-- The file of settings could not be read; the reason of the system. -/
  | unreadable (reason : String)
  /-- The file of settings holds something else; the reason of the reader. -/
  | unparsable (reason : String)
  /-- The text names no node; the reason of the reader. -/
  | nodeId (reason : String)
  /-- A reason of a collaborator. -/
  | other (reason : String)
  deriving DecidableEq, Repr

/-- Why a setting cannot be used. -/
inductive SettingFault
  | scheme (fault : SchemeFault) (scheme : Scheme)
  /-- The setting is not between 0 and 1; its text. -/
  | noFraction (value : String)
  | noPipelines
  | negativeFactor
  | noSize
  /-- A reason of a collaborator. -/
  | other (reason : String)
  deriving DecidableEq, Repr

/-- Why an operation failed. -/
inductive Error
  | nodeNotFound (id : NodeId)
  | nodeExists (id : NodeId)
  | pipelineNotFound (id : PipelineId)
  | containerNotFound (id : ContainerId)
  | wrongPipelineState (id : PipelineId) (expected actual : PipelineState)
  | allocation (fault : AllocationFault)
  | placement (fault : PlacementFault)
  | safeMode (fault : SafeModeFault)
  | input (fault : InputFault)
  | setting (field : String) (fault : SettingFault)
  | io (reason : String)
  | serialization (reason : String)
  | network (reason : String)
  | internal (reason : String)
  deriving DecidableEq, Repr

/-- What the fault says. -/
def AllocationFault.message : AllocationFault → String
  | .tooLarge size limit =>
    "requested size " ++ Nat.repr size.toNat ++ " exceeds maximum container size " ++
      Nat.repr limit.toNat
  | .limitReached scheme limit =>
    "Unable to allocate a pipeline for " ++ scheme.text ++
      " after trying all existing pipelines: the limit of " ++ Nat.repr limit ++
      " open pipelines has been reached and no pipelines were closed"
  | .other reason => reason

/-- What the fault says. -/
def PlacementFault.message : PlacementFault → String
  | .noMembers => "A pipeline needs at least one node"
  | .tooFewNodes needed available excluded =>
    "Not enough healthy nodes: need " ++ Nat.repr needed ++ ", have " ++ Nat.repr available ++
      " (excluded " ++ Nat.repr excluded ++ ")"
  | .other reason => reason

/-- What the fault says. -/
def SafeModeFault.message : SafeModeFault → String
  | .allocation => "container allocation is not allowed in safe mode"
  | .other reason => reason

/-- What the fault says. -/
def InputFault.message : InputFault → String
  | .unreadable reason => "Failed to read config file: " ++ reason
  | .unparsable reason => "Failed to parse config: " ++ reason
  | .nodeId reason => "invalid node id: " ++ reason
  | .other reason => reason

/-- What the fault says. -/
def SettingFault.message : SettingFault → String
  | .scheme fault s => fault.message ++ ": " ++ s.text
  | .noFraction value => "must be within [0, 1], got " ++ value
  | .noPipelines => "At least one pipeline must be allowed"
  | .negativeFactor => "Factor must not be negative"
  | .noSize => "Container size must be non-zero"
  | .other reason => reason

namespace Error

/-- The sentence for an operator. -/
def message : Error → String
  | .nodeNotFound id => "Node not found: " ++ id.text
  | .nodeExists id => "Node already exists: " ++ id.text
  | .pipelineNotFound id => "Pipeline not found: " ++ id.text
  | .containerNotFound id => "Container not found: " ++ id.text
  | .wrongPipelineState id expected actual =>
    "Invalid pipeline state for " ++ id.text ++ ": expected " ++ expected.name ++ ", found " ++
      actual.name
  | .allocation fault => "Container allocation failed: " ++ fault.message
  | .placement fault => "Placement failed: " ++ fault.message
  | .safeMode fault => "Safe mode: " ++ fault.message
  | .input fault => "Configuration error: " ++ fault.message
  | .setting field fault => "Invalid configuration: " ++ field ++ ": " ++ fault.message
  | .io reason => "IO error: " ++ reason
  | .serialization reason => "Serialization error: " ++ reason
  | .network reason => "Network error: " ++ reason
  | .internal reason => "Internal error: " ++ reason

/-- Does the error say that a node, a pipeline or a container does not exist? -/
def isNotFound : Error → Bool
  | .nodeNotFound _ | .pipelineNotFound _ | .containerNotFound _ => true
  | _ => false

/-- May the same request succeed later? -/
def isRetryable : Error → Bool
  | .allocation _ | .placement _ | .safeMode _ => true
  | _ => false

/-- The code by which the tools of operators know the error. -/
def code : Error → String
  | .nodeNotFound _ => "NO_SUCH_DATANODE"
  | .nodeExists _ => "DUPLICATE_DATANODE"
  | .pipelineNotFound _ => "PIPELINE_NOT_FOUND"
  | .containerNotFound _ => "CONTAINER_NOT_FOUND"
  | .wrongPipelineState .. => "INVALID_PIPELINE_STATE"
  | .allocation _ => "FAILED_TO_ALLOCATE_CONTAINER"
  | .placement _ => "FAILED_TO_FIND_SUITABLE_NODE"
  | .safeMode _ => "SAFE_MODE_EXCEPTION"
  | .input _ | .setting .. => "INVALID_CONFIGURATION"
  | .io _ => "IO_EXCEPTION"
  | .serialization _ | .network _ | .internal _ => "INTERNAL_ERROR"

/-- The status of the HTTP answer that the error becomes. -/
def httpStatus : Error → Nat
  | .nodeNotFound _ | .pipelineNotFound _ | .containerNotFound _ => 404
  | .nodeExists _ => 409
  | .safeMode _ | .allocation _ | .placement _ => 503
  | .input _ | .setting .. => 400
  | _ => 500

end Error

/-- The scheme, if it can be used. -/
def Scheme.validate (s : Scheme) : Except Error Unit :=
  match s.fault? with
  | none => .ok ()
  | some fault => .error (.setting "replication" (.scheme fault s))

end ControlPlane
