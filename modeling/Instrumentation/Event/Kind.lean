set_option autoImplicit false

/-!
# Kinds of events
-/

namespace Instrumentation

/-- The kinds of events, by which outcomes are counted. -/
inductive EventKind where
  | methodStarted
  | methodFinished
  | methodFinishedWithThreshold
  | exceptionCaught
  | sqlStatementStarted
  | sqlQueryPlanCandidate
  | preparedStatementStarted
  | preparedStatementBatchStarted
  | httpStarted
  | httpFinished
  | cacheCallStarted
  | exceptionThrown
  | corePoolSizeChanged
deriving DecidableEq, Repr, Inhabited

namespace EventKind

/-- The number of kinds. -/
abbrev count : Nat := 13

/-- All kinds in order. -/
def all : List EventKind :=
  [methodStarted, methodFinished, methodFinishedWithThreshold, exceptionCaught,
    sqlStatementStarted, sqlQueryPlanCandidate, preparedStatementStarted,
    preparedStatementBatchStarted, httpStarted, httpFinished, cacheCallStarted, exceptionThrown,
    corePoolSizeChanged]

/-- The place of a kind in the order. -/
def index : EventKind → Fin count
  | methodStarted => 0
  | methodFinished => 1
  | methodFinishedWithThreshold => 2
  | exceptionCaught => 3
  | sqlStatementStarted => 4
  | sqlQueryPlanCandidate => 5
  | preparedStatementStarted => 6
  | preparedStatementBatchStarted => 7
  | httpStarted => 8
  | httpFinished => 9
  | cacheCallStarted => 10
  | exceptionThrown => 11
  | corePoolSizeChanged => 12

/-- The text of a kind. -/
def text : EventKind → String
  | methodStarted => "method_started"
  | methodFinished => "method_finished"
  | methodFinishedWithThreshold => "method_finished_with_threshold"
  | exceptionCaught => "exception_caught"
  | sqlStatementStarted => "sql_statement_started"
  | sqlQueryPlanCandidate => "sql_query_plan_candidate"
  | preparedStatementStarted => "prepared_statement_started"
  | preparedStatementBatchStarted => "prepared_statement_batch_started"
  | httpStarted => "http_started"
  | httpFinished => "http_finished"
  | cacheCallStarted => "cache_call_started"
  | exceptionThrown => "exception_thrown"
  | corePoolSizeChanged => "core_pool_size_changed"

/-- The kind of a text. -/
def ofText? (s : String) : Option EventKind := all.find? fun k => k.text == s

/-- The name of a kind as the tag of a written event. -/
def tag : EventKind → String
  | methodStarted => "methodStarted"
  | methodFinished => "methodFinished"
  | methodFinishedWithThreshold => "methodFinishedWithThreshold"
  | exceptionCaught => "exceptionCaught"
  | sqlStatementStarted => "sqlStatementStarted"
  | sqlQueryPlanCandidate => "sqlQueryPlanCandidate"
  | preparedStatementStarted => "preparedStatementStarted"
  | preparedStatementBatchStarted => "preparedStatementBatchStarted"
  | httpStarted => "httpStarted"
  | httpFinished => "httpFinished"
  | cacheCallStarted => "cacheCallStarted"
  | exceptionThrown => "exceptionThrown"
  | corePoolSizeChanged => "corePoolSizeChanged"

/-- The kind of a tag. -/
def ofTag? (s : String) : Option EventKind := all.find? fun k => k.tag == s

/-- The order lists every kind at its place. -/
theorem getElem?_all_index (k : EventKind) : all[k.index.val]? = some k := by
  cases k <;> rfl

theorem index_injective {a b : EventKind} (h : a.index = b.index) : a = b := by
  have ha := getElem?_all_index a
  rw [h, getElem?_all_index b] at ha
  exact (Option.some.inj ha).symm

/-- A kind is found again by its text. -/
theorem ofText?_text (k : EventKind) : ofText? k.text = some k := by
  cases k <;> decide

/-- A kind is found again by its tag. -/
theorem ofTag?_tag (k : EventKind) : ofTag? k.tag = some k := by
  cases k <;> decide

theorem mem_all (k : EventKind) : k ∈ all := by
  cases k <;> decide

end EventKind

end Instrumentation
