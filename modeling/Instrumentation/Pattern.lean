import Instrumentation.Pattern.Reading

set_option autoImplicit false

/-!
# Patterns of simple names

A pattern rule names the units of one package by a regular expression. The expression is put between
anchors, `^(?:` and `)$`, before it is read.
-/

namespace Instrumentation

/-- A regular expression with anchors around it. -/
structure SimpleNamePattern where
  text : String
  shape : Pattern.Shape

namespace SimpleNamePattern

/-- The expression that is read for the text of a pattern. -/
def anchored (text : String) : List Char :=
  ['^', '(', '?', ':'] ++ text.toList ++ [')', '$']

/-- The pattern of a text; none if the anchored text is no regular expression. -/
def ofText? (text : String) : Option SimpleNamePattern :=
  (Pattern.read? (anchored text)).map fun shape => { text, shape }

/-- The expression matches somewhere in a simple name. -/
def accepts (p : SimpleNamePattern) (simpleName : String) : Bool :=
  p.shape.occursIn simpleName.toList.toArray

end SimpleNamePattern

end Instrumentation
