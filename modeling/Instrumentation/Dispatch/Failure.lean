set_option autoImplicit false

/-!
# Failures of handlers

A handler may refuse an event, fail on it or panic. None of this reaches the code that raised the event:
it is described and counted.
-/

namespace Instrumentation

/-- The error with which a handler answers an event. -/
inductive HandlerError where
  | rejected (message : String)
  | failed (message : String)
deriving DecidableEq, Repr, Inhabited

/-- The text of an error. -/
def HandlerError.message : HandlerError → String
  | rejected m => "Event rejected: " ++ m
  | failed m => "Handler failed: " ++ m

/-- What a panic carries. Only texts can be shown. -/
inductive PanicPayload where
  | text (message : String)
  | other
deriving DecidableEq, Repr, Inhabited

/-- The text of a payload. -/
def PanicPayload.message : PanicPayload → String
  | text m => m
  | other => "non-string panic payload"

/-- How a handler answers an event. -/
inductive Reaction where
  | accepted
  | refused (error : HandlerError)
  | panicked (payload : PanicPayload)
deriving DecidableEq, Repr, Inhabited

/-- Why an event was not delivered by the handler that it was offered to. -/
inductive DispatchFailure where
  | refused (handler : String) (source : HandlerError)
  | panicked (handler message : String)
deriving DecidableEq, Repr, Inhabited

namespace DispatchFailure

/-- The failure of a handler that panicked. -/
def ofPanic (handler : String) (payload : PanicPayload) : DispatchFailure :=
  panicked handler payload.message

/-- The text of a failure. -/
def message : DispatchFailure → String
  | refused handler source => "Handler '" ++ handler ++ "' returned an error: " ++ source.message
  | panicked handler m => "Handler '" ++ handler ++ "' panicked: " ++ m

/-- The error behind a failure. -/
def source? : DispatchFailure → Option HandlerError
  | refused _ source => some source
  | panicked .. => none

end DispatchFailure

end Instrumentation
