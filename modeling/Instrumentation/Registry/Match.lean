import Instrumentation.Registry.Basic

set_option autoImplicit false

/-!
# Matching units

A unit that the loader reports gets the plan of the exact rule that waits for it, which claims the unit,
or else the plan of the pattern rule of its package, if that accepts its simple name. Patterns do not
apply to excluded units.
-/

namespace Instrumentation.Registry

/-- The pattern rule of the unit's package, if it accepts the unit's simple name. -/
def patternFor? (r : Registry) (unit : String) : Option Rule := do
  let (package, simple) ← splitUnitName unit
  let rule ← r.patterns.find? package
  if rule.accepts simple then some rule else none

/-- Takes the exact rule that waits for a unit. The unit is claimed from then on. -/
def claim? (r : Registry) (unit : String) : Option (Plan × Registry) :=
  (r.pending.find? unit).map fun rule =>
    Registry.givePlan
      ({ r with
        pending := r.pending.erase unit
        claimed := r.claimed.insert unit }.count .claimedExact) rule

/-- Matches a unit against the pattern rules. -/
def matchPattern (r : Registry) (unit : String) : Option Plan × Registry :=
  match r.patternFor? unit with
  | none => (none, r.count .missed)
  | some rule =>
      if rule.origin == .configured && r.isExcluded unit then (none, r.count .droppedExcluded)
      else
        let (plan, r) := (r.count .matchedPattern).givePlan (rule.forUnit unit)
        (some plan, r)

/-- Matches a unit against the rules. -/
def matchUnit (r : Registry) (unit : String) : Option Plan × Registry :=
  match r.claim? unit with
  | some (plan, r) => (some plan, r)
  | none => r.matchPattern unit

end Instrumentation.Registry
