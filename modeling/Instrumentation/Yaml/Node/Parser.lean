import Instrumentation.Yaml.Node
import Instrumentation.Yaml.Token.Lexer

set_option autoImplicit false

/-!
# Trees from tokens

The grammar of documents. A node may be left out wherever the token after it shows that it is missing.
Within a flow collection block collections are not allowed. A text has at most one document.
-/

namespace Instrumentation.Yaml

/-- The shorthands for tags, in the order in which they are looked up. -/
abbrev TagShorthands := List (String × String)

namespace TagShorthands

/-- The shorthands that need no directive. -/
def predefined : TagShorthands := [("!", "!"), ("!!", "tag:yaml.org,2002:")]

/-- A tag in full. A tag without a handle is in full already. -/
def expand? (shorthands : TagShorthands) (handle suffix : String) : Option String :=
  if handle = "" then some suffix
  else (shorthands.lookup handle).map fun uri => uri ++ suffix

end TagShorthands

/-- The tokens that are left, and the numbers of the anchors so far, each name once. -/
structure Remaining where
  tokens : List Token
  anchors : List (String × Nat) := []

namespace Remaining

/-- The next token is one of several. -/
def nextIs (r : Remaining) (ts : List Token) : Bool := r.tokens.head?.any ts.contains

/-- The tokens after the next one. -/
def rest (r : Remaining) : Remaining := { r with tokens := r.tokens.drop 1 }

/-- Declares an anchor. Its number is the number of names before it. -/
def declare (r : Remaining) (name : String) : Nat × Remaining :=
  let n := r.anchors.length
  (n, { r with anchors := (name, n) :: r.anchors.filter fun a => a.1 != name })

end Remaining

/-- What stands before a node. -/
structure Properties where
  anchor : Option String := none
  tag : Option String := none

namespace Properties

/-- An anchor, if it comes next. -/
def takeAnchor (r : Remaining) : Option String × Remaining :=
  match r.tokens with
  | .anchor name :: _ => (some name, r.rest)
  | _ => (none, r)

/-- A tag, if it comes next. -/
def takeTag (shorthands : TagShorthands) (r : Remaining) : Option (Option String × Remaining) :=
  match r.tokens with
  | .tag handle suffix :: _ => (shorthands.expand? handle suffix).map fun t => (some t, r.rest)
  | _ => some (none, r)

/-- The anchor and the tag of a node, in any order. -/
def take (shorthands : TagShorthands) (r : Remaining) : Option (Properties × Remaining) :=
  match takeAnchor r with
  | (some anchor, r) => do
      let (tag, r) ← takeTag shorthands r
      some ({ anchor := some anchor, tag := tag }, r)
  | (none, r) => do
      let (tag, r) ← takeTag shorthands r
      match tag with
      | none => some ({}, r)
      | some tag =>
          let (anchor, r) := takeAnchor r
          some ({ anchor := anchor, tag := some tag }, r)

/-- There is an anchor or a tag. -/
def isPresent (p : Properties) : Bool := p.anchor.isSome || p.tag.isSome

end Properties

namespace Node

/-- Where a node stands, as far as its form depends on it. -/
inductive Place where
  | flow
  | block
  /-- The key or the value of a block mapping. The items of a sequence need no indentation there. -/
  | entry
deriving DecidableEq

mutual

/-- A node at a place. -/
def parse? (shorthands : TagShorthands) (place : Place) : Nat → Remaining → Option (Node × Remaining)
  | 0, _ => none
  | fuel + 1, r =>
      match r.tokens with
      | .aliasOf name :: _ => (r.anchors.lookup name).map fun a => (.aliasOf a, r.rest)
      | _ => do
          let (p, r) ← Properties.take shorthands r
          match p.anchor with
          | none => content? shorthands place p fuel r
          | some name => do
              let (a, r) := r.declare name
              let (n, r) ← content? shorthands place p fuel r
              some (.anchored a n, r)

/-- A node after its properties. -/
def content? (shorthands : TagShorthands) (place : Place) (p : Properties) :
    Nat → Remaining → Option (Node × Remaining)
  | 0, _ => none
  | fuel + 1, r =>
      match r.tokens with
      | .scalar style text :: _ => some (.scalar style p.tag text, r.rest)
      | .flowSequence :: _ => do
          let (items, r) ← flowItems? shorthands true fuel r.rest
          some (.sequence p.tag items, r)
      | .flowMapping :: _ => do
          let (entries, r) ← flowEntries? shorthands true fuel r.rest
          some (.mapping p.tag entries, r)
      | t :: _ =>
          if t = .item ∧ place = .entry then do
            let (items, r) ← blockItems? shorthands false fuel r
            some (.sequence p.tag items, r)
          else if t = .blockSequence ∧ place ≠ .flow then do
            let (items, r) ← blockItems? shorthands true fuel r.rest
            some (.sequence p.tag items, r)
          else if t = .blockMapping ∧ place ≠ .flow then do
            let (entries, r) ← blockEntries? shorthands fuel r.rest
            some (.mapping p.tag entries, r)
          else if p.isPresent then some (.scalar .plain p.tag "", r)
          else none
      | [] => if p.isPresent then some (.scalar .plain p.tag "", r) else none

/-- A node that is left out before certain tokens. -/
def parseUnless? (shorthands : TagShorthands) (place : Place) (ends : List Token) :
    Nat → Remaining → Option (Node × Remaining)
  | 0, _ => none
  | fuel + 1, r => if r.nextIs ends then some (empty, r) else parse? shorthands place fuel r

/-- The items of a block sequence. One that is indented has an end of its own. -/
def blockItems? (shorthands : TagShorthands) (indented : Bool) :
    Nat → Remaining → Option (List Node × Remaining)
  | 0, _ => none
  | fuel + 1, r =>
      if r.nextIs [.item] then do
        let ends : List Token :=
          if indented then [.item, .blockEnd] else [.item, .key, .value, .blockEnd]
        let (n, r) ← parseUnless? shorthands .block ends fuel r.rest
        let (ns, r) ← blockItems? shorthands indented fuel r
        some (n :: ns, r)
      else if !indented then some ([], r)
      else if r.nextIs [.blockEnd] then some ([], r.rest)
      else none

/-- The entries of a block mapping. -/
def blockEntries? (shorthands : TagShorthands) :
    Nat → Remaining → Option (List (Node × Node) × Remaining)
  | 0, _ => none
  | fuel + 1, r =>
      if r.nextIs [.key] then do
        let (k, r) ← parseUnless? shorthands .entry [.key, .value, .blockEnd] fuel r.rest
        let (v, r) ←
          if r.nextIs [.value] then
            parseUnless? shorthands .entry [.key, .value, .blockEnd] fuel r.rest
          else some (empty, r)
        let (es, r) ← blockEntries? shorthands fuel r
        some ((k, v) :: es, r)
      else if r.nextIs [.blockEnd] then some ([], r.rest)
      else none

/-- The items of a flow sequence. An item after a key mark is a mapping of one entry. -/
def flowItems? (shorthands : TagShorthands) (first : Bool) :
    Nat → Remaining → Option (List Node × Remaining)
  | 0, _ => none
  | fuel + 1, r =>
      if r.nextIs [.flowSequenceEnd] then some ([], r.rest)
      else if !first ∧ !r.nextIs [.separator] then none
      else do
        let r := if first then r else r.rest
        if r.nextIs [.flowSequenceEnd] then some ([], r.rest)
        else do
          let (n, r) ←
            if r.nextIs [.key] then singleEntry? shorthands fuel r.rest
            else parse? shorthands .flow fuel r
          let (ns, r) ← flowItems? shorthands false fuel r
          some (n :: ns, r)

/-- A mapping of one entry after its key mark. Where the key is left out the token after the mark counts as
read. -/
def singleEntry? (shorthands : TagShorthands) : Nat → Remaining → Option (Node × Remaining)
  | 0, _ => none
  | fuel + 1, r => do
      let (k, r) ←
        if r.nextIs [.value, .separator, .flowSequenceEnd] then some (empty, r.rest)
        else parse? shorthands .flow fuel r
      let (v, r) ←
        if r.nextIs [.value] then
          parseUnless? shorthands .flow [.separator, .flowSequenceEnd] fuel r.rest
        else some (empty, r)
      some (.mapping none [(k, v)], r)

/-- The entries of a flow mapping. An entry without a key mark has an empty value. -/
def flowEntries? (shorthands : TagShorthands) (first : Bool) :
    Nat → Remaining → Option (List (Node × Node) × Remaining)
  | 0, _ => none
  | fuel + 1, r =>
      if r.nextIs [.flowMappingEnd] then some ([], r.rest)
      else if !first ∧ !r.nextIs [.separator] then none
      else do
        let r := if first then r else r.rest
        if r.nextIs [.flowMappingEnd] then some ([], r.rest)
        else do
          let (e, r) ←
            if r.nextIs [.key] then flowEntry? shorthands fuel r.rest
            else do
              let (k, r) ← parse? shorthands .flow fuel r
              some ((k, empty), r)
          let (es, r) ← flowEntries? shorthands false fuel r
          some (e :: es, r)

/-- An entry of a flow mapping after its key mark. -/
def flowEntry? (shorthands : TagShorthands) : Nat → Remaining → Option ((Node × Node) × Remaining)
  | 0, _ => none
  | fuel + 1, r => do
      let (k, r) ←
        parseUnless? shorthands .flow [.value, .separator, .flowMappingEnd] fuel r
      let (v, r) ←
        if r.nextIs [.value] then
          parseUnless? shorthands .flow [.separator, .flowMappingEnd] fuel r.rest
        else some (empty, r)
      some ((k, v), r)

end

/-! ## Documents -/

/-- Reads the directives before a document: a version of the language, at most once, and shorthands, each
handle once. -/
def directives? : Bool → TagShorthands → List Token → Option (TagShorthands × List Token)
  | versioned, shorthands, .version major minor :: ts =>
      if !versioned ∧ major = 1 ∧ (minor = 1 ∨ minor = 2) then directives? true shorthands ts
      else none
  | versioned, shorthands, .tagShorthand handle uri :: ts =>
      if (shorthands.lookup handle).isSome then none
      else directives? versioned (shorthands ++ [(handle, uri)]) ts
  | _, shorthands, ts => some (shorthands, ts)

/-- The tokens that begin a document with directives or with its mark. -/
def beginsExplicitly : Token → Bool
  | .version _ _ => true
  | .tagShorthand _ _ => true
  | .documentStart => true
  | _ => false

/-- The content of a document after its mark. -/
def afterMark? (shorthands : TagShorthands) (fuel : Nat) (ts : List Token) :
    Option (Node × Remaining) :=
  match ts with
  | [] => some (empty, { tokens := [] })
  | t :: _ =>
      if beginsExplicitly t || t == .documentEnd then some (empty, { tokens := ts })
      else parse? shorthands .block fuel { tokens := ts }

/-- The first document. -/
def document? (fuel : Nat) (ts : List Token) : Option (Node × Remaining) :=
  match ts with
  | [] => some (.void, { tokens := [] })
  | t :: _ =>
      if beginsExplicitly t then do
        let (shorthands, ts) ← directives? false [] ts
        match ts with
        | .documentStart :: ts => afterMark? (shorthands ++ TagShorthands.predefined) fuel ts
        | _ => none
      else parse? TagShorthands.predefined .block fuel { tokens := ts }

/-- The tree of a list of tokens; none if they are no document or more than one. A bound on the depth of
the grammar's rules is a multiple of the number of tokens. -/
def ofTokens? (ts : List Token) : Option Node := do
  let (n, r) ← document? (8 * ts.length + 16) ts
  if r.tokens.all (fun t => t == .documentEnd) then some n else none

/-- The tree of a text. -/
def ofText? (text : String) : Option Node := (Token.ofText? text).bind ofTokens?

end Node

end Instrumentation.Yaml
