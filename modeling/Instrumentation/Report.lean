import Instrumentation.Config.LoadError
import Instrumentation.Config.Written
import Instrumentation.Dispatch.Metrics
import Instrumentation.Plan
import Instrumentation.Registry.Metrics

set_option autoImplicit false

/-!
# Reports

What is shown of rules, plans, counts and errors, as dynamic values. A report has no more in it than can be
told from outside: of a hook it shows the action that the hook chooses, not how it is chosen.
-/

namespace Instrumentation

/-- The method that hooks are shown at. -/
def Hook.sample : MethodOccurrence := { owner := "o", method := "m", signature := "s" }

/-- The report of a hook. -/
def Hook.report (h : Hook) : Json :=
  .object [("method", .string h.method), ("signature", .string h.signature),
    ("caught", .bool h.reportCaughtExceptions), ("entry", .bool h.reportOnEntry),
    ("min", .ofNat h.minDurationNanos.toNat), ("action", (h.instrument Hook.sample).action.toJson)]

/-- The report of a table of hooks. -/
def HookTable.report (hooks : HookTable) : Json := .array (hooks.map Hook.report)

/-- The word for an origin. -/
def Origin.text : Origin → String
  | .builtIn => "built_in"
  | .configured => "configured"

/-- The fields of the report of a rule. -/
def Rule.reportFields (r : Rule) : List (String × Json) :=
  [("name", .string r.name), ("kind", r.kind.toJson), ("pattern", .bool r.isPattern),
    ("origin", .string r.origin.text), ("caught", .bool r.reportCaughtExceptions),
    ("timing", .bool r.reportExecutionTime), ("key", .string r.key), ("hooks", r.hooks.report)]

/-- The report of a rule. -/
def Rule.report (r : Rule) : Json := .object r.reportFields

/-- The report of the instrumentation of a method. -/
def MethodInstrumentation.report (m : MethodInstrumentation) : Json :=
  .object [("name", .string m.qualifiedName), ("signature", .string m.signature),
    ("action", m.action.toJson), ("entry", .bool m.reportOnEntry),
    ("caught", .bool m.reportCaughtExceptions), ("min", .ofNat m.minDurationNanos.toNat)]

/-- The fields of the report of a plan. -/
def Plan.reportFields (p : Plan) : List (String × Json) :=
  [("unit", .string p.unit), ("kind", p.kind.toJson), ("caught", .bool p.reportCaughtExceptions),
    ("timing", .bool p.reportExecutionTime), ("debug", .bool p.debugMode),
    ("hooks", p.hooks.report)]

/-- The report of the counts of one kind of event. -/
def EventCounts.report (c : EventCounts) : Json :=
  .object [("delivered", .ofNat c.delivered.toNat), ("unrouted", .ofNat c.unrouted.toNat),
    ("filtered", .ofNat c.filtered.toNat), ("failed", .ofNat c.failed.toNat)]

/-- The report of all counts of events at one moment. -/
def DispatchSnapshot.report (s : DispatchSnapshot) : Json :=
  .object [("by_kind", .object (s.byKind.map fun (k, c) => (k.text, c.report))),
    ("totals", s.totals.report)]

/-- The report of the counts of a registry. -/
def RegistryMetrics.report (m : RegistryMetrics) : Json :=
  .object [("claimed_exact", .ofNat m.claimedExact.toNat),
    ("matched_pattern", .ofNat m.matchedPattern.toNat),
    ("discovered_executors", .ofNat m.discoveredExecutors.toNat),
    ("missed", .ofNat m.missed.toNat), ("dropped_excluded", .ofNat m.droppedExcluded.toNat)]

/-- The word for the kind of an error of a configuration. -/
def SetupError.kindText : SetupError → String
  | .invalidArgument _ => "InvalidArgument"
  | .alreadyRegistered _ => "AlreadyRegistered"
  | .invalidPattern .. => "InvalidPattern"
  | .invalidTarget _ => "InvalidTarget"

/-- The report of an error of a configuration. -/
def SetupError.report (e : SetupError) : Json :=
  .object [("error", .string e.kindText), ("message", .string e.message)]

/-- The word for the kind of an error of a configuration file. -/
def LoadError.kindText : LoadError → String
  | .notFound _ => "NotFound"
  | .invalidFormat _ => "InvalidFormat"
  | .io _ => "IoError"
  | .yaml _ => "YamlError"
  | .json _ => "JsonError"
  | .rejected _ => "Configuration"

/-- The report of an error of a configuration file. The text is in it where it is all our own. -/
def LoadError.report (e : LoadError) : Json :=
  let message : List (String × Json) := match e with
    | .rejected inner => [("message", .string e.message), ("inner", inner.report)]
    | .notFound (.stated _) => [("message", .string e.message)]
    | _ => []
  .object (("error", .string e.kindText) :: message)

end Instrumentation
