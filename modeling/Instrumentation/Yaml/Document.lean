import Instrumentation.Document
import Instrumentation.Yaml.Node.Parser
import Instrumentation.Yaml.Plain

set_option autoImplicit false

/-!
# Trees as documents

A piece answers by its form and its tag. A plain scalar is read as the type that is asked for; every scalar
is a text. An empty scalar, and a text without a document, is an empty list or an empty record. A sequence
is never a record, but it may be a tagged value.
-/

namespace Instrumentation.Yaml

/-- The tag of a type that the format defines itself. -/
def standardTag (name : String) : String := "tag:yaml.org,2002:" ++ name

/-- The name in a tag that the format does not define. -/
def ownTag? (tag : Option String) : Option String := do
  match (← tag).toList with
  | '!' :: name => some (String.ofList name)
  | _ => none

/-- The greatest nesting of a tree that is taken in whole. -/
def nestingLimit : Nat := 128

/-- A piece of a tree: a node, and the nodes that aliases stand for. -/
structure Piece where
  targets : List (Nat × Node)
  node : Node
  /-- The number of collections around the piece. -/
  level : Nat := 0

namespace Piece

/-- A whole tree. Of several nodes with one anchor the last one counts. -/
def whole (root : Node) : Piece := { targets := root.anchors.reverse, node := root }

/-- A piece one level further in. -/
def inner (p : Piece) (n : Node) : Piece := { p with node := n, level := p.level + 1 }

end Piece

namespace Node

/-- The node behind an alias or an anchor. -/
def bare? (targets : List (Nat × Node)) : Node → Option Node
  | aliasOf a => targets.lookup a
  | anchored _ n => some n
  | n => some n

/-- The text of a scalar that is read as a type: a plain one, or a literal block with the tag of the
type. -/
def typedText? (type : String) : Node → Option String
  | scalar .plain _ s => some s
  | scalar .literal tag s => if tag = some (standardTag type) then some s else none
  | _ => none

/-- A node that stands for an empty collection. -/
def isBlank : Node → Bool
  | void => true
  | scalar .plain _ s => s == ""
  | _ => false

/-- A scalar whose value is absent, if it is read as one that may be. -/
def isAbsent? : Node → Option Bool
  | void => some true
  | scalar .plain none s => some (s == "" || Plain.isNull s)
  | scalar .plain (some tag) s =>
      if tag = standardTag "null" then (if Plain.isNull s then some true else none) else some false
  | _ => some false

/-- The text of a scalar. -/
def text? : Node → Option String
  | scalar _ _ s => some s
  | _ => none

/-- The name of a constant: a scalar, or a tag of its own with nothing after it. -/
def constant? : Node → Option String
  | scalar style tag s =>
      match ownTag? tag with
      | none => some s
      | some name => if style = .plain ∧ (s = "" ∨ Plain.isNull s) then some name else none
  | _ => none

/-- What a plain scalar stands for, where no type is asked for. -/
def plainValue? (s : String) : Option Untyped :=
  match Plain.value s with
  | .null => some .null
  | .bool b => some (.bool b)
  | .integer i => if Plain.isShort i then some (.integer i) else none
  | .float x => some (.float x)
  | .text => some (.text s)

/-- What a scalar stands for, where no type is asked for. The tag of a type that the format defines must
fit. -/
def scalarValue? (style : ScalarStyle) (tag : Option String) (s : String) : Option Untyped :=
  match tag with
  | none => if style = .plain then plainValue? s else some (.text s)
  | some t =>
      if (ownTag? tag).isSome then none
      else if t = standardTag "bool" then (Plain.bool? s).map .bool
      else if t = standardTag "int" then (Plain.integer? s).bind fun i =>
        if Plain.isShort i then some (.integer i) else none
      else if t = standardTag "float" then (Plain.float? s).map .float
      else if t = standardTag "null" then (if Plain.isNull s then some .null else none)
      else some (.text s)

/-- A node taken in whole, inside of which a number of collections may be nested. Collections with tags of
their own are refused. -/
def untyped? (targets : List (Nat × Node)) (depth : Nat) (node : Node) : Option Untyped := do
  match ← bare? targets node with
  | void => some .null
  | scalar style tag s => scalarValue? style tag s
  | sequence tag items =>
      match depth with
      | 0 => none
      | d + 1 =>
          if (ownTag? tag).isSome then none
          else do
            let us ← items.mapM (untyped? targets d)
            some (.list us)
  | mapping tag entries =>
      match depth with
      | 0 => none
      | d + 1 =>
          if (ownTag? tag).isSome then none
          else do
            let us ← entries.mapM fun (k, v) => do
              let k ← untyped? targets d k
              let v ← untyped? targets d v
              some (k, v)
            some (.mapping us)
  | aliasOf _ => none
  | anchored _ _ => none

/-- A node as a tag and the rest taken in whole, inside of which a number of collections may be nested. The
tag may be a scalar of any kind. -/
def tagged? (targets : List (Nat × Node)) (depth : Nat) (tag : String) (node : Node) :
    Option (String × Untyped) := do
  match depth, ← bare? targets node with
  | d + 1, sequence own (first :: rest) =>
      if (ownTag? own).isSome then none
      else do
        let t ← (← bare? targets first).text?
        let us ← rest.mapM (untyped? targets d)
        some (t, .list us)
  | d + 1, mapping own entries =>
      if (ownTag? own).isSome then none
      else do
        let keyed ← entries.mapM fun (k, v) => (untyped? targets d k).map fun k => (k, v)
        match keyed.filter fun e => e.1.isText tag with
        | [(_, v)] => do
            let t ← (← bare? targets v).text?
            let us ← (keyed.filter fun e => !e.1.isText tag).mapM fun (k, v) =>
              (untyped? targets d v).map fun v => (k, v)
            some (t, .mapping us)
        | _ => none
  | _, _ => none

end Node

namespace Piece

/-- The node of a piece behind an alias or an anchor. -/
def bare? (p : Piece) : Option Node := p.node.bare? p.targets

/-- The text of a scalar. -/
def text? (p : Piece) : Option String := do (← p.bare?).text?

instance : Document Piece where
  bool? p := do Plain.bool? (← (← p.bare?).typedText? "bool")
  signed? p := do Plain.integer? (← (← p.bare?).typedText? "int")
  unsigned? p := do Plain.natural? (← (← p.bare?).typedText? "int")
  text? := text?
  optional? p := do if ← (← p.bare?).isAbsent? then some none else some (some p)
  items? p := do
    match ← p.bare? with
    | .sequence _ items => some (items.map p.inner)
    | n => if n.isBlank then some [] else none
  record? names p := do
    match ← p.bare? with
    | .mapping _ entries => do
        let fields ← entries.mapM fun (k, v) => (p.inner k).text?.map fun name => (name, p.inner v)
        Record.ofNamed? names fields
    | n => if n.isBlank then some ⟨false, []⟩ else none
  constant? p := do (← p.bare?).constant?
  tagged? tag p := p.node.tagged? p.targets (nestingLimit - p.level) tag

end Piece

end Instrumentation.Yaml
