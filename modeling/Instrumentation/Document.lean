import Instrumentation.Json.Value
import Instrumentation.Outline

set_option autoImplicit false

/-!
# Documents and the values read from them

Configurations and events are written in several formats. A format is an instance of `Document`: it says
what a piece of a document is when a reader asks for a truth value, a number, a text, a list or a record.
Types are read through this interface only, so that one reader serves all formats.

A value whose type depends on a tag inside it is read without a type first, apart from the tag: `Untyped`
is a document that has been taken in whole. It is a format of its own.
-/

namespace Instrumentation

/-- A value that was read before its type was known. -/
inductive Untyped where
  | null
  | bool (value : Bool)
  | integer (value : Int)
  | float (value : Float)
  | text (value : String)
  | list (items : List Untyped)
  | mapping (entries : List (Untyped × Untyped))
deriving Inhabited

/-- The fields of a record that are there. A record may be written as a list of its fields in order. -/
structure Record (δ : Type) where
  positional : Bool
  fields : List (String × δ)

/-- Formats of documents. Every question has no answer where the piece is of another type. -/
class Document (δ : Type) where
  bool? : δ → Option Bool
  signed? : δ → Option Int
  unsigned? : δ → Option Nat
  text? : δ → Option String
  /-- A value that may be absent: its absence, or the piece itself. -/
  optional? : δ → Option (Option δ)
  items? : δ → Option (List δ)
  /-- A record with the given field names. Other fields are ignored, a repeated field is an error. -/
  record? : List String → δ → Option (Record δ)
  /-- The name of a constant. -/
  constant? : δ → Option String
  /-- A tagged value as its tag and the rest taken in whole. In a record the tag is the field with the
  given name, in a list it comes first. -/
  tagged? : String → δ → Option (String × Untyped)

namespace Document

variable {δ : Type} [Document δ]

/-- A signed number of 64 bits. -/
def int64? (d : δ) : Option Int64 := do
  let i ← signed? d
  if Int64.minValue.toInt ≤ i ∧ i ≤ Int64.maxValue.toInt then some (Int64.ofInt i) else none

/-- A signed number of 32 bits. -/
def int32? (d : δ) : Option Int32 := do
  let i ← signed? d
  if Int32.minValue.toInt ≤ i ∧ i ≤ Int32.maxValue.toInt then some (Int32.ofInt i) else none

/-- An unsigned number of 64 bits. -/
def uint64? (d : δ) : Option UInt64 := do
  let n ← unsigned? d
  if n < UInt64.size then some (UInt64.ofNat n) else none

/-- An unsigned number of 32 bits. -/
def uint32? (d : δ) : Option UInt32 := do
  let n ← unsigned? d
  if n < UInt32.size then some (UInt32.ofNat n) else none

/-- A list of values. -/
def list? {α : Type} (read : δ → Option α) (d : δ) : Option (List α) := do
  let items ← items? d
  items.mapM read

end Document

namespace Record

variable {δ α : Type}

/-- A field that must be there. -/
def required (r : Record δ) (name : String) (read : δ → Option α) : Option α :=
  (r.fields.lookup name).bind read

/-- A field that has a default value. -/
def defaulted (r : Record δ) (name : String) (read : δ → Option α) (fallback : α) : Option α :=
  match r.fields.lookup name with
  | none => some fallback
  | some d => read d

/-- A field whose value may be absent. It may be left out where fields have names. -/
def optional [Document δ] (r : Record δ) (name : String) (read : δ → Option α) :
    Option (Option α) :=
  match r.fields.lookup name with
  | none => if r.positional then none else some none
  | some d => do
      match ← Document.optional? d with
      | none => some none
      | some d => (read d).map some

/-- The record of named pieces. Only fields with one of the names are kept; none of them may occur twice. -/
def ofNamed? (names : List String) (fields : List (String × δ)) : Option (Record δ) :=
  let known := fields.filter fun f => names.contains f.1
  if (known.map Prod.fst).Nodup then some ⟨false, known⟩ else none

/-- The record of pieces in the order of the names. There may be fewer pieces than names, but not more. -/
def ofPositional? (names : List String) (items : List δ) : Option (Record δ) :=
  if items.length ≤ names.length then some ⟨true, names.zip items⟩ else none

end Record

namespace Untyped

/-- The name of the field that a key of a mapping means: its text, or the field at its index. Keys of
other types make the record unreadable. -/
def fieldName? (names : List String) : Untyped → Option String
  | text s => some s
  | integer i => if 0 ≤ i then some (names[i.toNat]?.getD "") else none
  | _ => none

/-- The value is a given text. -/
def isText (s : String) : Untyped → Bool
  | text t => t == s
  | _ => false

/-- Splits a tagged value into its tag and the rest. In a mapping the tag is one of the entries, in a list
it comes first. -/
def tagged? (tag : String) : Untyped → Option (String × Untyped)
  | mapping es =>
      match es.filter fun e => e.1.isText tag with
      | [(_, text t)] => some (t, mapping (es.filter fun e => !e.1.isText tag))
      | _ => none
  | list (text t :: rest) => some (t, list rest)
  | _ => none

instance : Document Untyped where
  bool? | bool b => some b | _ => none
  signed? | integer i => some i | _ => none
  unsigned? | integer i => if 0 ≤ i then some i.toNat else none | _ => none
  text? | text s => some s | _ => none
  optional? | null => some none | u => some (some u)
  items? | list xs => some xs | _ => none
  record? names
    | mapping es => do
        let fields ← es.mapM fun (k, v) => (fieldName? names k).map fun name => (name, v)
        Record.ofNamed? names fields
    | list xs => Record.ofPositional? names xs
    | _ => none
  constant? | text s => some s | _ => none
  tagged? := tagged?

/-- Nothing is left beside the tag, as far as that can be told: a mapping may hold further entries. -/
def isBare : Untyped → Bool
  | mapping _ => true
  | list xs => xs.isEmpty
  | _ => false

mutual

/-- The dynamic value of an untyped one; none if some mapping has a key that is no text. -/
def toJson? : Untyped → Option Json
  | null => some .null
  | bool b => some (.bool b)
  | integer i => some (.number (.integer i))
  | float x => some (if x.isNaN || x.isInf then .null else .number (.float x))
  | text s => some (.string s)
  | list xs => (itemsToJson? xs).map .array
  | mapping es => (entriesToJson? es).map Json.ofFields

/-- The dynamic values of a list. -/
def itemsToJson? : List Untyped → Option (List Json)
  | [] => some []
  | x :: xs => do
      let v ← toJson? x
      let vs ← itemsToJson? xs
      some (v :: vs)

/-- The fields of a mapping. -/
def entriesToJson? : List (Untyped × Untyped) → Option (List (String × Json))
  | [] => some []
  | (text k, x) :: es => do
      let v ← toJson? x
      let fs ← entriesToJson? es
      some ((k, v) :: fs)
  | _ :: _ => none

end

end Untyped

end Instrumentation
