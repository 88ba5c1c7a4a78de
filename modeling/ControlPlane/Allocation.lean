import ControlPlane.Choice
import ControlPlane.Cluster
import ControlPlane.Decimal.Binary
import ControlPlane.Exclusions

/-!
# Allocating writable containers

A request asks for an open container of a scheme with room for some bytes.
While the scheme has fewer open pipelines than its limit, the request gets a
new container on a new pipeline.  Otherwise it tries the open pipelines that it
does not exclude, one after the other as a chooser picks them, and gets the
first open container with room.  On the way it closes the pipelines that can
serve nobody any more: the excluded ones without containers, those whose
containers are all known and full, and those that list an unknown container.
When no pipeline is left it tries once more to make one, since closing
pipelines may have made room below the limit.

Excluding pipelines narrows what may be used again.  It does not change which
pipelines count against the limit.

The limit may grow with the healthy volumes of the cluster, which are added up in a
machine word.  If they do not fit, the request breaks off before it does anything.
-/

namespace ControlPlane

open Decimal

/-- A request for a container. -/
structure Request where
  size : UInt64
  scheme : Scheme
  owner : String
  exclude : Exclusions := {}

/-- The place of the pipeline to try next, among those that are left. -/
abbrev Chooser := List Pipeline → Option Nat

/-- The chooser of a policy with two draws for each offer. -/
def Policy.chooser (policy : Policy) (nodes : Registry) (draws : List Pipeline → Nat × Nat) :
    Chooser :=
  fun candidates => policy.choose nodes (draws candidates) candidates

/-- What bounds the allocator. -/
structure Allocator where
  minPipelines : UInt64
  factor : Float
  /-- The greatest number of bytes in a container. -/
  maxSize : UInt64

namespace Allocator

/-- The allocator with some settings. -/
def ofSettings (s : Settings) : Allocator where
  minPipelines := s.provider.minPipelines
  factor := s.provider.factor
  maxSize := s.container.maxSize

/-- Do the healthy volumes of the cluster count for the limit of a scheme? -/
def Scales (a : Allocator) (scheme : Scheme) : Prop :=
  a.factor > 0.0 ∧ 0 < scheme.requiredNodes

instance (a : Allocator) (scheme : Scheme) : Decidable (a.Scales scheme) :=
  inferInstanceAs (Decidable (_ ∧ _))

/-- How many open pipelines some healthy volumes allow a scheme. -/
def volumeLimit (a : Allocator) (volumes : UInt64) (scheme : Scheme) : Nat :=
  roundDown (a.factor * volumes.toFloat / ofWord scheme.requiredNodes)

/-- How many open pipelines a scheme may have.  It cannot be told if the healthy volumes
count and do not fit a word. -/
def limit (a : Allocator) (nodes : Registry) (scheme : Scheme) : Option Nat :=
  if a.Scales scheme then
    nodes.healthyVolumes.map fun volumes =>
      max (a.volumeLimit volumes scheme) a.minPipelines.toNat
  else some a.minPipelines.toNat

/-! ## Pipelines that are there -/

/-- What comes of trying a pipeline. -/
inductive Reuse
  /-- A container with room. -/
  | found (c : Container)
  /-- Nothing, but excluded containers were not looked at. -/
  | skipped
  /-- Nothing, and nothing ever will. -/
  | exhausted

/-- Looks for a container with room among some containers of a pipeline. -/
def scan (a : Allocator) (env : Environment) (r : Request) :
    Bool → List ContainerId → Action Reuse
  | skipped, [], s => (.ok (if skipped then .skipped else .exhausted), s)
  | skipped, id :: ids, s =>
    if r.exclude.excludesContainer id then a.scan env r true ids s
    else
      match Session.container env id s with
      | (.error e, s) => (.error e, s)
      | (.ok c, s) =>
        if c.accepts r.size a.maxSize then
          match Session.touch env id s with
          | (.error e, s) => (.error e, s)
          | (.ok (), s) => (.ok (.found c), s)
        else a.scan env r skipped ids s

/-- Looks for a container with room on a pipeline. -/
def reuse (a : Allocator) (env : Environment) (r : Request) (p : Pipeline) : Action Reuse :=
  fun s =>
    match Session.containers env p.id s with
    | (.error e, s) => (.error e, s)
    | (.ok ids, s) => a.scan env r false ids.toList s

/-- Closes a pipeline and counts it, unless the collaborator refuses. -/
def close (env : Environment) (p : Pipeline) (s : Session) : Session :=
  match Session.closePipeline env p.id s with
  | (.ok (), s) =>
    { s with metrics := { s.metrics with pipelinesClosed := s.metrics.pipelinesClosed + 1 } }
  | (.error _, s) => s

/-- The pipelines of a list that the request may use.  The excluded ones
without containers are closed. -/
def candidates (env : Environment) (r : Request) :
    List Pipeline → Session → List Pipeline × Session
  | [], s => ([], s)
  | p :: ps, s =>
    if r.exclude.excludesPipeline p then
      match Session.containers env p.id s with
      | (.ok ids, s) => candidates env r ps (if ids.isEmpty then close env p s else s)
      | (.error _, s) => candidates env r ps s
    else
      let (rest, s) := candidates env r ps s
      (p :: rest, s)

/-- Tries one pipeline, and closes it if it can serve nobody any more. -/
def attempt (a : Allocator) (env : Environment) (r : Request) (p : Pipeline) (s : Session) :
    Option Container × Session :=
  match a.reuse env r p s with
  | (.ok (.found c), s) =>
    (some c, { s with metrics := { s.metrics with reuses := s.metrics.reuses + 1 } })
  | (.ok .skipped, s) => (none, s)
  | (.ok .exhausted, s) => (none, close env p s)
  | (.error e, s) => (none, if e.isNotFound then close env p s else s)

/-- Tries the candidates in the order of a chooser until one of them has a
container with room.  The number bounds the rounds; each takes one candidate. -/
def drain (a : Allocator) (env : Environment) (choose : Chooser) (r : Request) :
    Nat → List Pipeline → Session → Option Container × Session
  | 0, _, s => (none, s)
  | n + 1, candidates, s =>
    let s := s.offer candidates
    match (choose candidates).bind fun i => candidates[i]?.map fun p => (p, candidates.eraseIdx i)
    with
    | none => (none, s)
    | some (p, rest) =>
      match a.attempt env r p s with
      | (some c, s) => (some c, s)
      | (none, s) => a.drain env choose r n rest s

/-! ## New pipelines -/

/-- Makes a pipeline with a container and opens it.  A pipeline that was made
in vain is closed. -/
def create (env : Environment) (r : Request) : Action Container := fun s =>
  match Session.create env r.scheme r.exclude.nodes.toList [] s with
  | (.error e, s) => (.error e, s)
  | (.ok p, s) =>
    match Session.allocate env r.owner p s with
    | (.error e, s) => (.error e, close env p s)
    | (.ok c, s) =>
      match Session.openPipeline env p.id s with
      | (.error e, s) => (.error e, close env p s)
      | (.ok (), s) =>
        (.ok c, { s with metrics :=
          { s.metrics with
            pipelinesCreated := s.metrics.pipelinesCreated + 1
            newAllocations := s.metrics.newAllocations + 1 } })

/-! ## Requests -/

/-- The number of open pipelines of a scheme. -/
def openCount (s : Session) (scheme : Scheme) : Nat :=
  (s.cluster.pipelines.opened scheme).length

/-- The last attempt of a request, when no candidate is left.  The error of the
first attempt stands if there is still no room for a pipeline. -/
def lastAttempt (env : Environment) (r : Request) (limit : Nat) (first : Option Error) :
    Action Container := fun s =>
  match
    if openCount s r.scheme < limit then create env r s
    else (.error (first.getD (.allocation (.limitReached r.scheme limit))), s)
  with
  | (.ok c, s) => (.ok c, s)
  | (.error e, s) =>
    (.error e, { s with metrics := { s.metrics with failures := s.metrics.failures + 1 } })

/-- Serves a request from the pipelines that are there, after a first attempt
to make one failed or was not due. -/
def fallBack (a : Allocator) (env : Environment) (choose : Chooser) (r : Request) (limit : Nat)
    (first : Option Error) : Action Container := fun s =>
  let (candidates, s) := candidates env r (s.cluster.pipelines.opened r.scheme) s
  match a.drain env choose r candidates.length candidates s with
  | (some c, s) => (.ok c, s)
  | (none, s) => lastAttempt env r limit first s

/-- Serves a request of a scheme that can be used, under a limit of open pipelines. -/
def allocateWithin (a : Allocator) (env : Environment) (choose : Chooser) (r : Request)
    (limit : Nat) : Action Container := fun s =>
  if openCount s r.scheme < limit then
    match create env r s with
    | (.ok c, s) => (.ok c, s)
    | (.error e, s) => a.fallBack env choose r limit (some e) s
  else a.fallBack env choose r limit none s

/-- How a request ends: with a result, or with none if the limit could not be told. -/
abbrev Ending := Option (Except Error Container)

/-- Serves a request. -/
def allocate (a : Allocator) (env : Environment) (choose : Chooser) (r : Request) (s : Session) :
    Ending × Session :=
  match r.scheme.validate with
  | .error e => (some (.error e), s)
  | .ok () =>
    match a.limit s.cluster.nodes r.scheme with
    | none => (none, s)
    | some limit =>
      let (result, s) := a.allocateWithin env choose r limit s
      (some result, s)

end Allocator

end ControlPlane
