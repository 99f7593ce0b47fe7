import Instrumentation.Event

set_option autoImplicit false

/-!
# Written events

An event is written as a record with its tag under `kind` and its fields beside it. Reading takes the
other fields in whole first, since the tag decides what they are.
-/

namespace Instrumentation.Event

/-- The written fields of an event, without the tag. -/
def toFields : Event → List (String × Json)
  | methodStarted name => [("name", .string name)]
  | methodFinished name durationNanos args error =>
      [("name", .string name), ("duration_nanos", .ofNat durationNanos.toNat),
        ("args", .array args), ("error", .ofOption Throwable.toJson error)]
  | methodFinishedWithThreshold name thresholdMs =>
      [("name", .string name), ("threshold_ms", .ofNat thresholdMs.toNat)]
  | exceptionCaught name error => [("name", .string name), ("error", error.toJson)]
  | sqlStatementStarted name sql => [("name", .string name), ("sql", .string sql)]
  | sqlQueryPlanCandidate name sql => [("name", .string name), ("sql", .string sql)]
  | preparedStatementStarted name sql args =>
      [("name", .string name), ("sql", .string sql), ("args", .array args)]
  | preparedStatementBatchStarted name sql batchCount =>
      [("name", .string name), ("sql", .string sql), ("batch_count", .ofNat batchCount.toNat)]
  | httpStarted name url => [("name", .string name), ("url", .string url)]
  | httpFinished call => call.toFields
  | cacheCallStarted name => [("name", .string name)]
  | exceptionThrown error stackDepth =>
      [("error", error.toJson), ("stack_depth", .ofNat stackDepth.toNat)]
  | corePoolSizeChanged size => [("size", .ofNat size.toNat)]

/-- The written form of an event. -/
def toJson (e : Event) : Json := .object (("kind", .string e.kind.tag) :: e.toFields)

/-- The values of a list of dynamic values. -/
def readArgs? (u : Untyped) : Option (List Json) := Document.list? Untyped.toJson? u

/-- Reads the fields of an event of the given kind. -/
def ofFields? (kind : EventKind) (u : Untyped) : Option Event :=
  let record (names : List String) : Option (Record Untyped) := Document.record? names u
  match kind with
  | .methodStarted => do
      let r ← record ["name"]
      some (methodStarted (← r.required "name" Document.text?))
  | .methodFinished => do
      let r ← record ["name", "duration_nanos", "args", "error"]
      some (methodFinished (← r.required "name" Document.text?)
        (← r.required "duration_nanos" Document.uint64?) (← r.required "args" readArgs?)
        (← r.optional "error" Throwable.read?))
  | .methodFinishedWithThreshold => do
      let r ← record ["name", "threshold_ms"]
      some (methodFinishedWithThreshold (← r.required "name" Document.text?)
        (← r.required "threshold_ms" Document.uint64?))
  | .exceptionCaught => do
      let r ← record ["name", "error"]
      some (exceptionCaught (← r.required "name" Document.text?)
        (← r.required "error" Throwable.read?))
  | .sqlStatementStarted => do
      let r ← record ["name", "sql"]
      some (sqlStatementStarted (← r.required "name" Document.text?)
        (← r.required "sql" Document.text?))
  | .sqlQueryPlanCandidate => do
      let r ← record ["name", "sql"]
      some (sqlQueryPlanCandidate (← r.required "name" Document.text?)
        (← r.required "sql" Document.text?))
  | .preparedStatementStarted => do
      let r ← record ["name", "sql", "args"]
      some (preparedStatementStarted (← r.required "name" Document.text?)
        (← r.required "sql" Document.text?) (← r.required "args" readArgs?))
  | .preparedStatementBatchStarted => do
      let r ← record ["name", "sql", "batch_count"]
      some (preparedStatementBatchStarted (← r.required "name" Document.text?)
        (← r.required "sql" Document.text?) (← r.required "batch_count" Document.uint32?))
  | .httpStarted => do
      let r ← record ["name", "url"]
      some (httpStarted (← r.required "name" Document.text?) (← r.required "url" Document.text?))
  | .httpFinished => (HttpCall.read? u).map httpFinished
  | .cacheCallStarted => do
      let r ← record ["name"]
      some (cacheCallStarted (← r.required "name" Document.text?))
  | .exceptionThrown => do
      let r ← record ["error", "stack_depth"]
      some (exceptionThrown (← r.required "error" Throwable.read?)
        (← r.required "stack_depth" Document.uint64?))
  | .corePoolSizeChanged => do
      let r ← record ["size"]
      some (corePoolSizeChanged (← r.required "size" Document.uint32?))

/-- Reads an event. -/
def read? {δ : Type} [Document δ] (d : δ) : Option Event := do
  let (tag, rest) ← Document.tagged? "kind" d
  ofFields? (← EventKind.ofTag? tag) rest

end Instrumentation.Event
