set_option autoImplicit false

/-!
# Kinds of code units

What a unit is to the agent. Each kind has one text, which is also its name in configurations and the
mark that method events of its units carry.
-/

namespace Instrumentation

/-- What a unit is to the agent. -/
inductive UnitKind where
  | jdbcStatement
  | jdbcPreparedStatement
  | http
  | cacheClient
  | threadPool
  | other
deriving DecidableEq, Repr, Inhabited

namespace UnitKind

/-- All kinds. -/
def all : List UnitKind :=
  [jdbcStatement, jdbcPreparedStatement, http, cacheClient, threadPool, other]

/-- The text of a kind. -/
def text : UnitKind → String
  | jdbcStatement => "JDBC_STATEMENT"
  | jdbcPreparedStatement => "JDBC_PREPARED_STATEMENT"
  | http => "HTTP"
  | cacheClient => "CACHE_CLIENT"
  | threadPool => "THREAD_POOL"
  | other => "OTHER"

/-- The kind of a text. -/
def ofText? (s : String) : Option UnitKind := all.find? fun k => k.text == s

/-- A kind is found again by its text. -/
theorem ofText?_text (k : UnitKind) : ofText? k.text = some k := by
  cases k <;> decide

end UnitKind

end Instrumentation
