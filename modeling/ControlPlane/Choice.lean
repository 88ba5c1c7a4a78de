import ControlPlane.Pipeline.Basic
import ControlPlane.Registry
import ControlPlane.Settings.Basic

/-!
# Choosing among pipelines

A policy picks one of several pipelines for a request.  All three policies
draw; the draws are arguments here, any two natural numbers, and are taken
modulo the number of things to draw from.
-/

namespace ControlPlane

namespace Policy

/-- The bytes left on the fullest member of a pipeline; none if it has no
member. -/
def headroom (nodes : Registry) (p : Pipeline) : Nat :=
  ((p.members.map nodes.headroom).min?).getD 0

/-- Are all members of a pipeline known and healthy? -/
def isHealthy (nodes : Registry) (p : Pipeline) : Bool := p.members.all nodes.isHealthy

/-- Any of some number of things. -/
def any (draw count : Nat) : Option Nat := if count = 0 then none else some (draw % count)

/-- The second of two different draws from `count` things, given the first. -/
def another (first draw count : Nat) : Nat :=
  let second := draw % (count - 1)
  if first ≤ second then second + 1 else second

/-- The roomier of two different pipelines that are drawn. -/
def roomier (nodes : Registry) (draws : Nat × Nat) (candidates : List Pipeline) : Option Nat :=
  match candidates.length with
  | 0 => none
  | 1 => some 0
  | count =>
    let first := draws.1 % count
    let second := another first draws.2 count
    let room (i : Nat) := candidates[i]?.elim 0 (headroom nodes)
    some (if room first < room second then second else first)

/-- The places of the pipelines that satisfy a test. -/
def places (test : Pipeline → Bool) (candidates : List Pipeline) : List Nat :=
  (candidates.zipIdx.filter fun c => test c.1).map (·.2)

/-- Any pipeline with healthy members only, or any at all if there is none. -/
def healthiest (nodes : Registry) (draw : Nat) (candidates : List Pipeline) : Option Nat :=
  let healthy := places (isHealthy nodes) candidates
  if healthy.isEmpty then any draw candidates.length else healthy[draw % healthy.length]?

/-- The place of the pipeline that a policy chooses. -/
def choose (policy : Policy) (nodes : Registry) (draws : Nat × Nat)
    (candidates : List Pipeline) : Option Nat :=
  match policy with
  | .random => any draws.1 candidates.length
  | .capacity => roomier nodes draws candidates
  | .healthy => healthiest nodes draws.1 candidates

/-- Every place that a policy may choose, in ascending order without
repetition; `none` for no place. -/
def support (policy : Policy) (nodes : Registry) (candidates : List Pipeline) :
    List (Option Nat) :=
  let draws := List.range (max 1 candidates.length)
  let chosen := draws.flatMap fun a => draws.map fun b => policy.choose nodes (a, b) candidates
  ((none : Option Nat) :: (List.range candidates.length).map some).filter chosen.contains

end Policy

end ControlPlane
