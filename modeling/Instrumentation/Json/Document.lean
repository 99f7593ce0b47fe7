import Instrumentation.Document
import Instrumentation.Json.Text

set_option autoImplicit false

/-!
# Values and texts of the data format as documents

A value and a text answer alike, with three differences that come from writing: a text can repeat a
member, can hold unreadable leaves and can be nested too deeply. Where a text is taken in whole, its
nesting must stay below the limit. Members that nobody asks for are not looked at.
-/

namespace Instrumentation

namespace Json

mutual

/-- A value taken in whole. -/
def toUntyped : Json → Untyped
  | .null => .null
  | .bool b => .bool b
  | .number (.integer i) => .integer i
  | .number (.float x) => .float x
  | .string s => .text s
  | .array items => .list (itemsToUntyped items)
  | .object fields => .mapping (fieldsToUntyped fields)

/-- The items of an array. -/
def itemsToUntyped : List Json → List Untyped
  | [] => []
  | v :: vs => toUntyped v :: itemsToUntyped vs

/-- The fields of an object. -/
def fieldsToUntyped : List (String × Json) → List (Untyped × Untyped)
  | [] => []
  | (k, v) :: fs => (.text k, toUntyped v) :: fieldsToUntyped fs

end

instance : Document Json where
  bool? | .bool b => some b | _ => none
  signed? | .number (.integer i) => some i | _ => none
  unsigned? | .number (.integer i) => if 0 ≤ i then some i.toNat else none | _ => none
  text? | .string s => some s | _ => none
  optional? | .null => some none | v => some (some v)
  items? | .array items => some items | _ => none
  record? names
    | .object fields => Record.ofNamed? names fields
    | .array items => Record.ofPositional? names items
    | _ => none
  constant?
    | .string s => some s
    | .object [(s, .null)] => some s
    | _ => none
  tagged? tag v := v.toUntyped.tagged? tag

/-- The deepest nesting of a text that is taken in whole. -/
def nestingLimit : Nat := 127

mutual

/-- A text taken in whole, inside a number of brackets; none where it is unreadable or nested too deeply. -/
def Text.toUntyped? (level : Nat) : Text → Option Untyped
  | .null => some .null
  | .bool b => some (.bool b)
  | .number (some (.integer i)) => some (.integer i)
  | .number (some (.float x)) => some (.float x)
  | .number none => none
  | .string s => s.map .text
  | .array items =>
      if level < nestingLimit then (Text.itemsToUntyped? (level + 1) items).map .list else none
  | .object members =>
      if level < nestingLimit then (Text.membersToUntyped? (level + 1) members).map .mapping
      else none

/-- The items of an array. -/
def Text.itemsToUntyped? (level : Nat) : List Text → Option (List Untyped)
  | [] => some []
  | t :: ts => do
      let u ← Text.toUntyped? level t
      let us ← Text.itemsToUntyped? level ts
      some (u :: us)

/-- The members of an object. -/
def Text.membersToUntyped? (level : Nat) :
    List (Option String × Text) → Option (List (Untyped × Untyped))
  | [] => some []
  | (k, t) :: ms => do
      let k ← k
      let u ← Text.toUntyped? level t
      let us ← Text.membersToUntyped? level ms
      some ((.text k, u) :: us)

end

/-- A piece of a text with the number of brackets around it. -/
structure Piece where
  level : Nat
  text : Text

namespace Piece

/-- A whole text. -/
def whole (t : Text) : Piece := ⟨0, t⟩

/-- A piece one level further in. -/
def inner (p : Piece) (t : Text) : Piece := ⟨p.level + 1, t⟩

/-- The names of the members of an object, each of which must be readable. -/
def members? (p : Piece) (ms : List (Option String × Text)) : Option (List (String × Piece)) :=
  ms.mapM fun (k, t) => k.map fun k => (k, p.inner t)

instance : Document Piece where
  bool? p := match p.text with | .bool b => some b | _ => none
  signed? p := match p.text with | .number (some (.integer i)) => some i | _ => none
  unsigned? p :=
    match p.text with
    | .number (some (.integer i)) => if 0 ≤ i then some i.toNat else none
    | _ => none
  text? p := match p.text with | .string s => s | _ => none
  optional? p := match p.text with | .null => some none | _ => some (some p)
  items? p := match p.text with | .array items => some (items.map p.inner) | _ => none
  record? names p :=
    match p.text with
    | .object ms => do Record.ofNamed? names (← p.members? ms)
    | .array items => Record.ofPositional? names (items.map p.inner)
    | _ => none
  constant? p :=
    match p.text with
    | .string s => s
    | .object [(some s, .null)] => some s
    | _ => none
  tagged? tag p := do (← p.text.toUntyped? p.level).tagged? tag

end Piece

end Json

end Instrumentation
