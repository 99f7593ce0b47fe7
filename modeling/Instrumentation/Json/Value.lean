import Instrumentation.Json.Number

set_option autoImplicit false

/-!
# Values of the data format

The dynamic values that events carry as arguments and that configurations and events are written as.
The fields of an object are listed in the order in which they are written.
-/

namespace Instrumentation

/-- A dynamic value. -/
inductive Json where
  | null
  | bool (value : Bool)
  | number (value : Json.Number)
  | string (value : String)
  | array (items : List Json)
  | object (fields : List (String × Json))

namespace Json

instance : Inhabited Json := ⟨.null⟩

/-- An integer as a value. -/
def ofInt (i : Int) : Json := .number (.integer i)

/-- A natural number as a value. -/
def ofNat (n : Nat) : Json := ofInt n

/-- A list of texts as a value. -/
def ofStrings (xs : List String) : Json := .array (xs.map .string)

/-- A value that may be missing; `null` stands for its absence. -/
def ofOption {α : Type} (f : α → Json) : Option α → Json
  | none => .null
  | some a => f a

/-- A field of an object; none for other values and for names that are not there. -/
def field? (name : String) : Json → Option Json
  | .object fields => fields.lookup name
  | _ => none

/-- Sets a field in a list of fields: a name that is there already keeps its place and gets the new value. -/
def setField (name : String) (value : Json) : List (String × Json) → List (String × Json)
  | [] => [(name, value)]
  | (k, v) :: rest =>
      if k = name then (name, value) :: rest else (k, v) :: setField name value rest

/-- An object in which of several fields of one name the last one counts. -/
def ofFields (fields : List (String × Json)) : Json :=
  .object (fields.foldl (fun acc f => setField f.1 f.2 acc) [])

end Json

end Instrumentation
