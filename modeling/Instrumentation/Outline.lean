set_option autoImplicit false

/-!
# Outlines

An outline says which parts of a document a reader of a type looks at. A format whose documents refer to
their own parts can tell from it how much reading is going to be done before it is done.
-/

namespace Instrumentation

/-- What a reader looks at. -/
inductive Outline where
  /-- A single value. -/
  | value
  /-- All items of a list. -/
  | list (item : Outline)
  /-- The names of all fields of a record, and the values of those that are listed. -/
  | record (fields : List (String × Outline))
  /-- Everything. -/
  | whole
deriving Inhabited

/-- The names of the listed fields of a record. -/
def Outline.fieldNames : Outline → List String
  | .record fields => fields.map Prod.fst
  | _ => []

end Instrumentation
