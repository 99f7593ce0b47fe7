set_option autoImplicit false

/-!
# The slots of a thread

Every thread has two slots: the ambient context, which describes what the thread works on, and the key
that selects the handler of its events. A scope sets one slot and holds what was there before, to put it
back when the scope is left.

The type of contexts is a parameter.
-/

namespace Instrumentation

variable {κ : Type}

/-- The two slots of a thread. -/
structure Slots (κ : Type) where
  context : Option κ := none
  key : Option String := none
deriving DecidableEq, Repr

instance : Inhabited (Slots κ) := ⟨{}⟩

/-- A scope that has been entered: the slot it set, and what was in the slot before. -/
inductive Scope (κ : Type) where
  | context (previous : Option κ)
  | key (previous : Option String)
deriving DecidableEq, Repr

namespace Slots

/-- The slots of a new thread. -/
def unset : Slots κ := {}

/-- Puts something or nothing into the context slot. -/
def replaceContext (s : Slots κ) (c : Option κ) : Slots κ := { s with context := c }

/-- Sets the context. -/
def setContext (s : Slots κ) (c : κ) : Slots κ := s.replaceContext (some c)

/-- Takes the context away. -/
def clearContext (s : Slots κ) : Slots κ := s.replaceContext none

/-- Sets the key. -/
def setKey (s : Slots κ) (k : String) : Slots κ := { s with key := some k }

/-- Takes the key away. -/
def clearKey (s : Slots κ) : Slots κ := { s with key := none }

/-- Enters a scope with a context, or with none. -/
def enterContext (s : Slots κ) (c : Option κ) : Scope κ × Slots κ :=
  (.context s.context, s.replaceContext c)

/-- Enters a scope with a key. -/
def enterKey (s : Slots κ) (k : String) : Scope κ × Slots κ := (.key s.key, s.setKey k)

/-- Leaves a scope: its slot holds again what it held before, the other slot is left alone. -/
def leave (s : Slots κ) : Scope κ → Slots κ
  | .context previous => s.replaceContext previous
  | .key previous => { s with key := previous }

/-- A context scope that is left again restores the context and keeps the key. -/
theorem leave_enterContext (s t : Slots κ) (c : Option κ) :
    t.leave (s.enterContext c).1 = ⟨s.context, t.key⟩ := rfl

/-- A key scope that is left again restores the key and keeps the context. -/
theorem leave_enterKey (s t : Slots κ) (k : String) :
    t.leave (s.enterKey k).1 = ⟨t.context, s.key⟩ := rfl

end Slots

end Instrumentation
