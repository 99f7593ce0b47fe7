import Instrumentation.Event.HttpCall
import Instrumentation.Event.Kind
import Instrumentation.Event.Throwable

set_option autoImplicit false

/-!
# Events

What instrumented code reports. Most events carry the qualified name of the method that raised them.
-/

namespace Instrumentation

/-- An event. -/
inductive Event where
  | methodStarted (name : String)
  | methodFinished (name : String) (durationNanos : UInt64) (args : List Json)
      (error : Option Throwable)
  | methodFinishedWithThreshold (name : String) (thresholdMs : UInt64)
  | exceptionCaught (name : String) (error : Throwable)
  | sqlStatementStarted (name sql : String)
  | sqlQueryPlanCandidate (name sql : String)
  | preparedStatementStarted (name sql : String) (args : List Json)
  | preparedStatementBatchStarted (name sql : String) (batchCount : UInt32)
  | httpStarted (name url : String)
  | httpFinished (call : HttpCall)
  | cacheCallStarted (name : String)
  /-- The number of frames that the handler should keep is filled in when the event is dispatched. -/
  | exceptionThrown (error : Throwable) (stackDepth : UInt64)
  | corePoolSizeChanged (size : UInt32)
deriving Inhabited

namespace Event

/-- The kind of an event. -/
def kind : Event → EventKind
  | methodStarted .. => .methodStarted
  | methodFinished .. => .methodFinished
  | methodFinishedWithThreshold .. => .methodFinishedWithThreshold
  | exceptionCaught .. => .exceptionCaught
  | sqlStatementStarted .. => .sqlStatementStarted
  | sqlQueryPlanCandidate .. => .sqlQueryPlanCandidate
  | preparedStatementStarted .. => .preparedStatementStarted
  | preparedStatementBatchStarted .. => .preparedStatementBatchStarted
  | httpStarted .. => .httpStarted
  | httpFinished .. => .httpFinished
  | cacheCallStarted .. => .cacheCallStarted
  | exceptionThrown .. => .exceptionThrown
  | corePoolSizeChanged .. => .corePoolSizeChanged

/-- The name of the method that raised the event, for the events that carry one. -/
def name? : Event → Option String
  | methodStarted name => some name
  | methodFinished name .. => some name
  | methodFinishedWithThreshold name _ => some name
  | exceptionCaught name _ => some name
  | sqlStatementStarted name _ => some name
  | sqlQueryPlanCandidate name _ => some name
  | preparedStatementStarted name .. => some name
  | preparedStatementBatchStarted name .. => some name
  | httpStarted name _ => some name
  | httpFinished _ => none
  | cacheCallStarted name => some name
  | exceptionThrown .. => none
  | corePoolSizeChanged _ => none

/-- Changes the name of the events of method entry and exit, and of no others. -/
def mapMethodName (f : String → String) : Event → Event
  | methodStarted name => methodStarted (f name)
  | methodFinished name durationNanos args error => methodFinished (f name) durationNanos args error
  | e => e

end Event

end Instrumentation
