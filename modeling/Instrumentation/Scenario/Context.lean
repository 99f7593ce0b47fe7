import Instrumentation.Ambient.OperationId
import Instrumentation.Ambient.Slots

set_option autoImplicit false

/-!
# Contexts of scripted hosts

The contexts that scripts work with hold a text, a number or an operation. Two contexts are the same only
if they come from one creation, whatever they hold; so each creation has an identity.
-/

namespace Instrumentation.Scenario

/-- What a context holds. -/
inductive ContextValue where
  | text (value : String)
  | number (value : UInt64)
  | operation (id : OperationId)
deriving DecidableEq, Repr, Inhabited

/-- A context: the creation it comes from, and what it holds. -/
structure Context where
  identity : Nat
  value : ContextValue
deriving DecidableEq, Repr, Inhabited

namespace Context

/-- Two contexts come from one creation. -/
def sameAs (a b : Context) : Bool := a.identity == b.identity

/-- The text in a context. -/
def text? (c : Context) : Option String :=
  match c.value with
  | .text s => some s
  | _ => none

/-- The number in a context. -/
def number? (c : Context) : Option UInt64 :=
  match c.value with
  | .number n => some n
  | _ => none

/-- The operation in a context. -/
def operation? (c : Context) : Option OperationId :=
  match c.value with
  | .operation o => some o
  | _ => none

end Context

end Instrumentation.Scenario
