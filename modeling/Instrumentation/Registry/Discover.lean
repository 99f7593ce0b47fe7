import Instrumentation.Registry.Basic

set_option autoImplicit false

/-!
# Discovering executors

A unit that no rule names may still be an executor. The loader is asked to describe it; a concrete
executor is claimed and gets the plan of a thread pool. Claimed and excluded units are not asked about,
and a description that fails leaves no trace.
-/

namespace Instrumentation

/-- What the loader knows about a unit. -/
structure UnitDescription where
  name : String
  isAbstract : Bool := false
  isExecutor : Bool := false
deriving DecidableEq, Repr, Inhabited

/-- An executor of which there can be instances. -/
def UnitDescription.isConcreteExecutor (d : UnitDescription) : Bool :=
  d.isExecutor && !d.isAbstract

/-- Why the loader cannot describe a unit. -/
inductive IntrospectionFailure where
  | notFound (unit : String)
  | failed (unit message : String)
deriving DecidableEq, Repr, Inhabited

/-- The text of a failure. -/
def IntrospectionFailure.message : IntrospectionFailure → String
  | notFound unit => "Unit not found: " ++ unit
  | failed unit m => "Failed to introspect '" ++ unit ++ "': " ++ m

/-- What comes of asking the loader. -/
inductive Introspection where
  | described (d : UnitDescription)
  | failed (f : IntrospectionFailure)
  | panicked

/-- The loader as the registry sees it. -/
abbrev Introspector := String → Introspection

namespace Registry

/-- The loader is worth asking about a unit. -/
def mayDiscover (r : Registry) (unit : String) : Bool :=
  !r.claimed.contains unit && !r.isExcluded unit

/-- Acts on the loader's answer about a unit. A unit that was claimed while the loader was asked gets no
second plan. -/
def concludeDiscovery (r : Registry) (unit : String) (answer : Introspection) :
    Option Plan × Registry :=
  match answer with
  | .described d =>
      if d.isConcreteExecutor && !r.claimed.contains unit then
        let r := { r with claimed := r.claimed.insert unit }.count .discoveredExecutor
        let (plan, r) := r.givePlan (threadPoolRule unit)
        (some plan, r)
      else (none, r)
  | .failed _ => (none, r)
  | .panicked => (none, r)

/-- Asks the loader about a unit and acts on its answer. -/
def discoverExecutor (r : Registry) (introspect : Introspector) (unit : String) :
    Option Plan × Registry :=
  if r.mayDiscover unit then r.concludeDiscovery unit (introspect unit) else (none, r)

end Registry

end Instrumentation
