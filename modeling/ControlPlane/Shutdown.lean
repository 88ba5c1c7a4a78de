/-!
# Shutdown

A one-way signal that every task of the server can raise and wait for.
-/

namespace ControlPlane

/-- Has the server been asked to stop? -/
structure Shutdown where
  requested : Bool := false
  deriving DecidableEq, Repr

namespace Shutdown

/-- Asks the server to stop; asking again changes nothing. -/
def request (_ : Shutdown) : Shutdown := ⟨true⟩

/-- Does waiting for the signal end at once? -/
def isResolved (s : Shutdown) : Bool := s.requested

end Shutdown

end ControlPlane
