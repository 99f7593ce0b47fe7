import Instrumentation.Json.Document

set_option autoImplicit false

/-!
# Exceptions in instrumented code
-/

namespace Instrumentation

/-- What is known about an exception. Frames are listed outermost first. -/
structure Throwable where
  typeName : String := ""
  message : Option String := none
  stackTrace : List String := []
deriving DecidableEq, Repr, Inhabited

namespace Throwable

/-- The number of frames. -/
def stackDepth (t : Throwable) : Nat := t.stackTrace.length

/-- The type, and the message if there is one. -/
def text (t : Throwable) : String :=
  match t.message with
  | some m => t.typeName ++ ": " ++ m
  | none => t.typeName

/-- The fields as they are written. -/
def outline : Outline :=
  .record [("typeName", .value), ("message", .value), ("stackTrace", .list .value)]

/-- The written form. -/
def toJson (t : Throwable) : Json :=
  .object [("typeName", .string t.typeName), ("message", .ofOption .string t.message),
    ("stackTrace", .ofStrings t.stackTrace)]

/-- Reads an exception. Only the message may be left out. -/
def read? {δ : Type} [Document δ] (d : δ) : Option Throwable := do
  let r ← Document.record? outline.fieldNames d
  let typeName ← r.required "typeName" Document.text?
  let message ← r.optional "message" Document.text?
  let stackTrace ← r.required "stackTrace" (Document.list? Document.text?)
  some { typeName, message, stackTrace }

end Throwable

end Instrumentation
