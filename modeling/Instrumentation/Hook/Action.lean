import Instrumentation.Json.Document

set_option autoImplicit false

/-!
# Actions of hooks

What the instrumentation of a method does. An action is written as a record with its name under `type`;
the action that wraps a submitted task also has the index of the argument that holds the task.
-/

namespace Instrumentation

/-- What the instrumentation of a method does. -/
inductive HookAction where
  | reportTiming
  | sqlStatement
  | preparedStatement
  | preparedStatementBatch
  | httpRequest
  | cacheCall
  | exceptionThrown
  /-- The task among the arguments is wrapped, so that it runs with the context of its submitter. -/
  | wrapSubmittedTask (argumentIndex : UInt64)
deriving DecidableEq, Repr, Inhabited

namespace HookAction

/-- The name of an action. -/
def name : HookAction → String
  | reportTiming => "reportTiming"
  | sqlStatement => "sqlStatement"
  | preparedStatement => "preparedStatement"
  | preparedStatementBatch => "preparedStatementBatch"
  | httpRequest => "httpRequest"
  | cacheCall => "cacheCall"
  | exceptionThrown => "exceptionThrown"
  | wrapSubmittedTask _ => "wrapSubmittedTask"

/-- The actions without an argument. -/
def simple : List HookAction :=
  [reportTiming, sqlStatement, preparedStatement, preparedStatementBatch, httpRequest, cacheCall,
    exceptionThrown]

/-- The written form of an action. -/
def toJson (a : HookAction) : Json :=
  match a with
  | wrapSubmittedTask index =>
      .object [("type", .string a.name), ("argument_index", .ofNat index.toNat)]
  | a => .object [("type", .string a.name)]

/-- Reads an action from its tag and the rest of its record. -/
def ofTagged? (tag : String) (rest : Untyped) : Option HookAction :=
  if tag = "wrapSubmittedTask" then do
    let r ← Document.record? ["argument_index"] rest
    let index ← r.required "argument_index" Document.uint64?
    some (wrapSubmittedTask index)
  else do
    let a ← simple.find? fun a => a.name == tag
    if rest.isBare then some a else none

/-- Reads an action. -/
def read? {δ : Type} [Document δ] (d : δ) : Option HookAction := do
  let (tag, rest) ← Document.tagged? "type" d
  ofTagged? tag rest

end HookAction

end Instrumentation
