import Instrumentation.Event.Written
import Instrumentation.Report
import Instrumentation.Scenario.Answer

set_option autoImplicit false

/-!
# Reports of scripts

The answers of a script as dynamic values.
-/

namespace Instrumentation.Scenario

/-- The report of a fault. -/
def Fault.report : Fault → Json
  | .badInput field => .object [("error", .string "BadInput"), ("message", .string field)]
  | .unreadable => .object [("error", .string "Deserialize")]
  | .invalidOperation => .object [("error", .string "InvalidUuid")]
  | .setup e => e.report

/-- The report of a plan, with the answers to queries if there are any. -/
def reportPlan (queries : List Query) (p : Plan) : Json :=
  let answer (q : Query) : Json :=
    .ofOption MethodInstrumentation.report (p.instrument q.method q.signature q.access)
  let answers : List (String × Json) :=
    if queries.isEmpty then [] else [("instrumented", .array (queries.map answer))]
  .object (p.reportFields ++ answers)

/-- The report of a kind that may be unknown. -/
def reportKind : Option UnitKind → Json := Json.ofOption UnitKind.toJson

/-- The report of a text that may be absent. -/
def reportText : Option String → Json := Json.ofOption .string

/-- The type and the value of what a context holds. -/
def ContextValue.report : ContextValue → Json × Json
  | .text s => (.string "string", .string s)
  | .number n => (.string "u64", .ofNat n.toNat)
  | .operation o => (.string "operation", .string o.text)

/-- The report of a context. -/
def ContextView.report (c : ContextView) : Json :=
  let (type, value) := c.value.report
  .object [("type", type), ("value", value), ("ids", .ofStrings c.names)]

/-- The report of a thread's context. -/
def ContextReading.report (r : ContextReading) : Json :=
  .object [("context", .ofOption ContextView.report r.context), ("string", reportText r.text),
    ("u64", .ofOption (fun n : UInt64 => .ofNat n.toNat) r.number),
    ("operation", reportText (r.operation.map OperationId.text))]

/-- The report of a registry. -/
def RegistryState.report (s : RegistryState) : Json :=
  .object [("pending", .ofNat s.pending), ("patterns", .ofNat s.patterns),
    ("excluded", .ofStrings s.excluded), ("debug_mode", .bool s.debugMode),
    ("built_in_enabled", .bool s.builtInEnabled), ("claimed_kinds", .ofNat s.indexed),
    ("metrics", s.metrics.report)]

/-- The report of a router. -/
def RouterState.report (s : RouterState) : Json :=
  .object [("handlers", .ofNat s.handlers), ("has_default", .bool s.hasFallback),
    ("query_threshold_ms", .ofNat s.queryThresholdMs.toNat),
    ("cache_threshold_ns", .ofNat s.cacheThresholdNs.toNat), ("debug", .string s.shown)]

/-- The report of a registration. -/
def RegistrationView.report (r : RegistrationView) : Json :=
  .object [("key", .string r.key), ("handler", .string r.handler),
    ("owner", reportText r.owner), ("debug", .string r.shown), ("owner_debug", .string r.shownOwner)]

/-- The field that tells of a panic. -/
def reportPanic : Option PanicPayload → List (String × Json)
  | none => []
  | some (.text m) => [("panicked", .string m)]
  | some .other => [("panicked", .null)]

mutual

/-- The fields of the report of a script. -/
def Transcript.reportFields : Transcript → List (String × Json)
  | .mk answers panic => ("results", .array (reportAnswers answers)) :: reportPanic panic

/-- The reports of several scripts. -/
def reportTranscripts : List Transcript → List Json
  | [] => []
  | t :: ts => .object t.reportFields :: reportTranscripts ts

/-- The report of an entry of the log. -/
def LogEntry.report : LogEntry → Json
  | .handled label event none => .object [("handler", .string label), ("event", event.toJson)]
  | .handled label event (some nested) =>
      .object [("handler", .string label), ("event", event.toJson),
        ("nested", .object nested.reportFields)]
  | .asked unit nested =>
      .object [("loader", .string unit), ("nested", .object nested.reportFields)]

/-- The report of a log. -/
def reportLog : List LogEntry → List Json
  | [] => []
  | e :: es => e.report :: reportLog es

/-- The report of an answer. -/
def Answer.report : Answer → Json
  | .done => .string "ok"
  | .fault f => f.report
  | .number n => .ofNat n
  | .flag b => .bool b
  | .flags bs => .array (bs.map .bool)
  | .ruleCounts pending patterns =>
      .object [("pending", .ofNat pending), ("patterns", .ofNat patterns)]
  | .plan plan queries => .ofOption (reportPlan queries) plan
  | .discovered plan queries log =>
      .object [("plan", .ofOption (reportPlan queries) plan), ("log", .array (reportLog log))]
  | .kinds ks => .array (ks.map reportKind)
  | .kindPairs ps => .array (ps.map fun (a, b) => .array [reportKind a, reportKind b])
  | .registryState s => s.report
  | .routerState s => s.report
  | .metrics registry dispatch =>
      .object [("registry", registry.report), ("dispatch", dispatch.report)]
  | .registered key count => .object [("key", .string key), ("count", .ofNat count)]
  | .registration r => .ofOption RegistrationView.report r
  | .log entries => .array (reportLog entries)
  | .snapshot s => s.report
  | .counts c => c.report
  | .key raw effective => .array [reportText raw, reportText effective]
  | .context c => .ofOption ContextView.report c
  | .reading r => r.report
  | .nested t => .object t.reportFields
  | .nestedThen t after =>
      .object (t.reportFields ++ [("after", .ofOption ContextView.report after)])
  | .transcripts ts => .array (reportTranscripts ts)

/-- The reports of the answers of a script. -/
def reportAnswers : List Answer → List Json
  | [] => []
  | a :: as => a.report :: reportAnswers as

end

end Instrumentation.Scenario
