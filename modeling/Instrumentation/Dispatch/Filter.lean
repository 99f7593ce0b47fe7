import Instrumentation.Event.Throwable

set_option autoImplicit false

/-!
# Filtering of uncaught exceptions

Exceptions are filtered by the beginning of their type name. A type that is listed as valid is reported
even where a suppressed beginning covers it. The filter also bounds how many frames are reported.
-/

namespace Instrumentation

/-- The default number of frames that are reported. -/
def defaultMaxStackSize : UInt64 := 300

/-- Which uncaught exceptions are reported, and with how many frames. -/
structure ExceptionFilter where
  enabled : Bool := true
  suppressedTypes : List String := []
  validTypes : List String := []
  maxStackSize : UInt64 := defaultMaxStackSize
deriving DecidableEq, Repr, Inhabited

namespace ExceptionFilter

/-- A type name begins with one of the listed beginnings. -/
def covers (beginnings : List String) (typeName : String) : Bool :=
  beginnings.any fun b => b.toList.isPrefixOf typeName.toList

/-- An exception of this type is reported. -/
def reports (f : ExceptionFilter) (typeName : String) : Bool :=
  f.enabled && (covers f.validTypes typeName || !covers f.suppressedTypes typeName)

/-- The number of frames with which an exception is reported; none if it is not reported. -/
def decide (f : ExceptionFilter) (t : Throwable) : Option UInt64 :=
  if f.reports t.typeName then some (UInt64.ofNat (min t.stackDepth f.maxStackSize.toNat))
  else none

end ExceptionFilter

end Instrumentation
