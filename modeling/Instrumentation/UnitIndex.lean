import Instrumentation.Table
import Instrumentation.UnitKind
import Instrumentation.UnitName

set_option autoImplicit false

/-!
# The index of instrumented units

For every unit that got a plan, the kind in its latest plan. The registry writes the index, the router
reads it to mark method events.
-/

namespace Instrumentation

/-- The kinds of instrumented units. -/
structure UnitIndex where
  kinds : Table UnitKind := ∅

namespace UnitIndex

/-- The index before any plan. -/
def empty : UnitIndex := {}

instance : Inhabited UnitIndex := ⟨empty⟩

/-- Notes the kind of a unit, in place of an earlier one. -/
def record (index : UnitIndex) (unit : String) (kind : UnitKind) : UnitIndex :=
  { kinds := index.kinds.insert unit kind }

/-- The kind of a unit, if it got a plan. -/
def kindOf? (index : UnitIndex) (unit : String) : Option UnitKind := index.kinds.find? unit

/-- The kind of the unit of a method, if the unit got a plan. -/
def kindOfMethod? (index : UnitIndex) (method : String) : Option UnitKind :=
  (methodOwner? method).bind index.kindOf?

/-- The number of units. -/
def size (index : UnitIndex) : Nat := index.kinds.size

/-- The latest record of a unit counts. -/
theorem kindOf?_record (index : UnitIndex) (unit u : String) (kind : UnitKind) :
    (index.record unit kind).kindOf? u = if u = unit then some kind else index.kindOf? u :=
  Table.find?_insert ..

end UnitIndex

end Instrumentation
