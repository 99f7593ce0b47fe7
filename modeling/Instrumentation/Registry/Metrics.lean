set_option autoImplicit false

/-!
# Counts of the registry's decisions
-/

namespace Instrumentation

/-- How often each decision was taken. Counts have 64 bits. -/
structure RegistryMetrics where
  claimedExact : UInt64 := 0
  matchedPattern : UInt64 := 0
  discoveredExecutors : UInt64 := 0
  missed : UInt64 := 0
  droppedExcluded : UInt64 := 0
deriving DecidableEq, Repr, Inhabited

/-- The decisions that are counted. -/
inductive RegistryDecision where
  /-- An exact rule was claimed. -/
  | claimedExact
  /-- A pattern rule gave a plan. -/
  | matchedPattern
  /-- An executor was discovered. -/
  | discoveredExecutor
  /-- No rule applied to a unit. -/
  | missed
  /-- A rule or a unit was refused because it is excluded. -/
  | droppedExcluded
deriving DecidableEq, Repr, Inhabited

/-- Counts one decision. -/
def RegistryMetrics.record (m : RegistryMetrics) : RegistryDecision → RegistryMetrics
  | .claimedExact => { m with claimedExact := m.claimedExact + 1 }
  | .matchedPattern => { m with matchedPattern := m.matchedPattern + 1 }
  | .discoveredExecutor => { m with discoveredExecutors := m.discoveredExecutors + 1 }
  | .missed => { m with missed := m.missed + 1 }
  | .droppedExcluded => { m with droppedExcluded := m.droppedExcluded + 1 }

end Instrumentation
