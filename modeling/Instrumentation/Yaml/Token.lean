set_option autoImplicit false

/-!
# Tokens

What a text of the format consists of. The structure that is given by indentation is made explicit: a
block collection has tokens for its start and its end, and a key has a token in front.
-/

namespace Instrumentation.Yaml

/-- How a scalar is written, as far as that matters for its value. -/
inductive ScalarStyle where
  /-- Without quotes. The value may be of any type. -/
  | plain
  /-- As a block that keeps its lines. -/
  | literal
  /-- In quotes or as a folded block. -/
  | quoted
deriving DecidableEq, Repr, Inhabited

/-- A token. -/
inductive Token where
  | documentStart
  | documentEnd
  | version (major minor : Nat)
  | tagShorthand (handle uri : String)
  | blockSequence
  | blockMapping
  | blockEnd
  | flowSequence
  | flowSequenceEnd
  | flowMapping
  | flowMappingEnd
  /-- An item of a block sequence follows. -/
  | item
  /-- The separator in flow collections. -/
  | separator
  | key
  | value
  | aliasOf (name : String)
  | anchor (name : String)
  | tag (handle suffix : String)
  | scalar (style : ScalarStyle) (text : String)
deriving DecidableEq, Repr, Inhabited

end Instrumentation.Yaml
