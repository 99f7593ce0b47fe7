import Instrumentation.BuiltIn
import Instrumentation.Plan
import Instrumentation.Registry.Metrics
import Instrumentation.UnitIndex

set_option autoImplicit false

/-!
# The registry of rules

The registry holds the rules that wait for their units. An exact rule is pending until its unit is
matched; the unit is then claimed, and no rule is pending for it again. Pattern rules stay, one for each
package.

A unit is excluded when its name begins with one of the excluded beginnings, unless it is marked as a
thread pool.
-/

namespace Instrumentation

/-- The beginnings of unit names that are excluded from the start. -/
def defaultExclusions : List String :=
  ["java/", "javax/", "org/apache", "com/microsoft/applicationinsights", "com/mysql/", "org/sqlite/",
    "org/hsqldb/", "org/postgresql/", "sun/nio/", "sun/rmi/", "com/sun/jmx/",
    "sun/net/www/http/KeepAlive", "com.google"]

/-- The rules that wait for units, and what is known about the units seen so far. -/
structure Registry where
  /-- The exact rules that have not been claimed, by unit. -/
  pending : Table Rule := ∅
  /-- The pattern rules, by package. -/
  patterns : Table Rule := ∅
  /-- The beginnings of unit names that are excluded. -/
  excluded : NameSet := .ofList defaultExclusions
  /-- The units whose one consuming plan has been given out. -/
  claimed : NameSet := ∅
  builtInEnabled : Bool := false
  debugMode : Bool := false
  /-- The kinds of the units that got a plan. -/
  index : UnitIndex := {}
  metrics : RegistryMetrics := {}

namespace Registry

/-- The registry before any configuration. -/
def initial : Registry := {}

instance : Inhabited Registry := ⟨initial⟩

/-- A name is excluded by a set of beginnings. -/
def excludes (beginnings : NameSet) (name : String) : Bool :=
  !occursIn threadPoolMark.toList name.toList && beginnings.names.any fun b => beginsWith b name

/-- A unit is excluded from configured rules and from discovery. -/
def isExcluded (r : Registry) (unit : String) : Bool := excludes r.excluded unit

/-- A rule that comes from a configuration and whose name is excluded. -/
def dropsRule (r : Registry) (rule : Rule) : Bool :=
  rule.origin == .configured && r.isExcluded rule.name

/-- An exact rule waits for the unit. -/
def hasPending (r : Registry) (unit : String) : Bool := r.pending.contains unit

/-- Counts a decision. -/
def count (r : Registry) (d : RegistryDecision) : Registry :=
  { r with metrics := r.metrics.record d }

/-- Gives out the plan of a rule: the kind of the unit is noted. -/
def givePlan (r : Registry) (rule : Rule) : Plan × Registry :=
  (.ofRule rule r.debugMode, { r with index := r.index.record rule.name rule.kind })

end Registry

end Instrumentation
