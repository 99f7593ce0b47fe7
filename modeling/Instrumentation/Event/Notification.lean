import Instrumentation.Event

set_option autoImplicit false

/-!
# Entry points

Instrumented code reports through entry points, one for each kind of event. An entry point names the kind under
which its event is counted, and builds the event itself only when somebody is to get it. A whole event can also
be submitted as it is; its kind is then read from it.

`Submission.kind_event` says that both ways count an event under its own kind.
-/

namespace Instrumentation

/-- A call of an entry point. -/
inductive Notification where
  | methodStarted (name : String)
  | methodFinished (name : String) (durationNanos : UInt64) (args : List Json)
      (error : Option Throwable)
  | methodFinishedWithThreshold (name : String) (thresholdMs : UInt64)
  | exceptionCaught (name : String) (error : Throwable)
  | sqlStatementStarted (name sql : String)
  | sqlQueryPlanCandidate (name sql : String)
  | preparedStatementStarted (name sql : String) (args : List Json)
  | preparedStatementBatchStarted (name sql : String) (batchCount : UInt32)
  | httpStarted (name url : String)
  | httpFinished (call : HttpCall)
  | cacheCallStarted (name : String)
  | exceptionThrown (error : Throwable)
  | corePoolSizeChanged (size : UInt32)
deriving Inhabited

namespace Notification

/-- The kind that an entry point names. -/
def kind : Notification → EventKind
  | methodStarted .. => .methodStarted
  | methodFinished .. => .methodFinished
  | methodFinishedWithThreshold .. => .methodFinishedWithThreshold
  | exceptionCaught .. => .exceptionCaught
  | sqlStatementStarted .. => .sqlStatementStarted
  | sqlQueryPlanCandidate .. => .sqlQueryPlanCandidate
  | preparedStatementStarted .. => .preparedStatementStarted
  | preparedStatementBatchStarted .. => .preparedStatementBatchStarted
  | httpStarted .. => .httpStarted
  | httpFinished .. => .httpFinished
  | cacheCallStarted .. => .cacheCallStarted
  | exceptionThrown .. => .exceptionThrown
  | corePoolSizeChanged .. => .corePoolSizeChanged

/-- The event that an entry point builds. -/
def event : Notification → Event
  | methodStarted name => .methodStarted name
  | methodFinished name durationNanos args error => .methodFinished name durationNanos args error
  | methodFinishedWithThreshold name thresholdMs => .methodFinishedWithThreshold name thresholdMs
  | exceptionCaught name error => .exceptionCaught name error
  | sqlStatementStarted name sql => .sqlStatementStarted name sql
  | sqlQueryPlanCandidate name sql => .sqlQueryPlanCandidate name sql
  | preparedStatementStarted name sql args => .preparedStatementStarted name sql args
  | preparedStatementBatchStarted name sql batchCount =>
      .preparedStatementBatchStarted name sql batchCount
  | httpStarted name url => .httpStarted name url
  | httpFinished call => .httpFinished call
  | cacheCallStarted name => .cacheCallStarted name
  -- The number of frames is decided when the event is dispatched.
  | exceptionThrown error => .exceptionThrown error 0
  | corePoolSizeChanged size => .corePoolSizeChanged size

theorem kind_event (n : Notification) : n.event.kind = n.kind := by
  cases n <;> rfl

end Notification

/-- How an event is submitted. -/
inductive Submission where
  /-- As it is. -/
  | whole (e : Event)
  /-- Through an entry point. -/
  | entry (n : Notification)
deriving Inhabited

namespace Submission

/-- The kind under which an event is submitted. -/
def kind : Submission → EventKind
  | whole e => e.kind
  | entry n => n.kind

/-- The event that is submitted. -/
def event : Submission → Event
  | whole e => e
  | entry n => n.event

/-- Every event is submitted under its own kind. -/
theorem kind_event (x : Submission) : x.event.kind = x.kind := by
  cases x with
  | whole e => rfl
  | entry n => exact n.kind_event

end Submission

end Instrumentation
