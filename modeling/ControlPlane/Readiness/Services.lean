import ControlPlane.Duration
import ControlPlane.Readiness.Status

/-!
# Services that wait for the cluster

Every registered service is told of the milestones of safe mode.  A service
that registers after a milestone is told of it at once, so that each service
sees the same whenever it joined.  The notices that were delivered are kept in
order.  A gate is a service that tells background work when to run; its state
follows from the notices it got.
-/

namespace ControlPlane.Readiness

/-- The registered services and what they were told. -/
structure Services where
  /-- The names in order of registration. -/
  names : List String := []
  /-- The status that services were told last. -/
  lastStatus : Option Status := none
  /-- Whether services were told of the pre-check. -/
  announced : Bool := false
  /-- Who was told what, in order; a service is known by its place. -/
  deliveries : List (Nat × Notice) := []
  deriving DecidableEq, Repr

namespace Services

/-- The number of services. -/
def size (s : Services) : Nat := s.names.length

/-- Tells one service. -/
def deliver (s : Services) (service : Nat) (notice : Notice) : Services :=
  { s with deliveries := s.deliveries ++ [(service, notice)] }

/-- Tells every service in order of registration. -/
def broadcast (s : Services) (notice : Notice) : Services :=
  { s with deliveries := s.deliveries ++ (List.range s.size).map fun i => (i, notice) }

/-- What a service is told when it registers. -/
def missed (s : Services) : Option Notice :=
  match s.lastStatus with
  | some status => some (.statusChanged status)
  | none => if s.announced then some .preCheckCompleted else none

/-- Registers a service and tells it what it missed. -/
def register (s : Services) (name : String) : Services :=
  let joined := { s with names := s.names ++ [name] }
  s.missed.elim joined (joined.deliver s.size)

/-- Tells every service of a milestone. -/
def notify (s : Services) (notice : Notice) : Services :=
  match notice with
  | .statusChanged status => { s with lastStatus := some status }.broadcast notice
  | .preCheckCompleted => { s with announced := true }.broadcast notice

/-- What one service was told, in order. -/
def received (s : Services) (service : Nat) : List Notice :=
  (s.deliveries.filter fun d => d.1 == service).map (·.2)

end Services

/-! ## Gates for background work -/

/-- What a gate knows. -/
structure Gate where
  inSafeMode : Bool := true
  preCheckComplete : Bool := false
  deriving DecidableEq, Repr

namespace Gate

/-- The gate after a notice.  A gate that has opened stays open. -/
def receive (g : Gate) : Notice → Gate
  | .statusChanged s =>
    { preCheckComplete := g.preCheckComplete || s.preCheckComplete
      inSafeMode := g.inSafeMode && s.inSafeMode }
  | .preCheckCompleted => { g with preCheckComplete := true }

/-- The gate after some notices. -/
def ofNotices (notices : List Notice) : Gate := notices.foldl receive {}

/-- May work with a delay run when some time has passed since the gate opened? -/
def mayRun (g : Gate) (delay elapsed : Duration) : Bool :=
  !g.inSafeMode && delay.millis ≤ elapsed.millis

end Gate

end ControlPlane.Readiness
