import ControlPlane.Json.Wire

/-!
# The readiness of the cluster

While the cluster is in safe mode it takes no writes.  Safe mode has two
milestones: the pre-check, after which some services may start, and the exit.
The board holds the status that was published last, so that anybody can read
it and see that it changed.
-/

namespace ControlPlane.Readiness

open Json

/-- How ready the cluster is. -/
structure Status where
  inSafeMode : Bool
  preCheckComplete : Bool
  /-- Whether safe mode ended by force. -/
  forced : Bool
  deriving DecidableEq, Repr

/-- The status at the start. -/
def Status.initial : Status := ⟨true, false, false⟩

/-- The status after safe mode. -/
def Status.exited (forced : Bool) : Status := ⟨false, true, forced⟩

/-- The status in JSON. -/
def Status.json (s : Status) : Value :=
  .object [
    ("in_safe_mode", s.inSafeMode),
    ("pre_check_complete", s.preCheckComplete),
    ("force_exit", s.forced)]

/-- Reads a status. -/
def Status.reader : Reader Status :=
  Record.read (Status.mk <$> Record.required "in_safe_mode" Json.bool <*>
    Record.required "pre_check_complete" Json.bool <*>
    Record.required "force_exit" Json.bool)

instance : Wire Status := ⟨Status.json, Status.reader⟩

/-- What services are told. -/
inductive Notice
  /-- Safe mode has ended, with the status after it. -/
  | statusChanged (status : Status)
  /-- The pre-check is complete and safe mode goes on. -/
  | preCheckCompleted
  deriving DecidableEq, Repr

/-! ## The published status -/

/-- The status published last, with the number of changes before it. -/
structure Board where
  status : Status := .initial
  changes : Nat := 0
  deriving DecidableEq, Repr

/-- Publishes a status; the one that is published already changes nothing. -/
def Board.publish (b : Board) (s : Status) : Board :=
  if b.status = s then b else { status := s, changes := b.changes + 1 }

/-- Was a status published since a reader had seen some number of changes? -/
def Board.changedSince (b : Board) (seen : Nat) : Bool := seen < b.changes

end ControlPlane.Readiness
