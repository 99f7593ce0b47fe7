import Instrumentation.Json.Document

set_option autoImplicit false

/-!
# Outbound web requests
-/

namespace Instrumentation

/-- A web request that has been answered. -/
structure HttpCall where
  identifier : String := ""
  method : String := ""
  correlationId : Option String := none
  uri : String := ""
  target : Option String := none
  resultCode : Int32 := 0
  durationNanos : UInt64 := 0
deriving DecidableEq, Repr, Inhabited

namespace HttpCall

/-- The fields as they are written. -/
def outline : Outline :=
  .record [("identifier", .value), ("method", .value), ("correlationId", .value), ("uri", .value),
    ("target", .value), ("resultCode", .value), ("durationNanos", .value)]

/-- The written fields. -/
def toFields (c : HttpCall) : List (String × Json) :=
  [("identifier", .string c.identifier), ("method", .string c.method),
    ("correlationId", .ofOption .string c.correlationId), ("uri", .string c.uri),
    ("target", .ofOption .string c.target), ("resultCode", .ofInt c.resultCode.toInt),
    ("durationNanos", .ofNat c.durationNanos.toNat)]

/-- The written form. -/
def toJson (c : HttpCall) : Json := .object c.toFields

/-- Reads a web request. The correlation and the target may be left out. -/
def read? {δ : Type} [Document δ] (d : δ) : Option HttpCall := do
  let r ← Document.record? outline.fieldNames d
  let identifier ← r.required "identifier" Document.text?
  let method ← r.required "method" Document.text?
  let correlationId ← r.optional "correlationId" Document.text?
  let uri ← r.required "uri" Document.text?
  let target ← r.optional "target" Document.text?
  let resultCode ← r.required "resultCode" Document.int32?
  let durationNanos ← r.required "durationNanos" Document.uint64?
  some { identifier, method, correlationId, uri, target, resultCode, durationNanos }

end HttpCall

end Instrumentation
