import Instrumentation.Rule

set_option autoImplicit false

/-!
# Built-in rules

The rules that come with the agent, in families. A selection switches families on and off; the families
of exceptions and thread pools are there whenever anything is. `builtInRules` lists the selected rules in
the order in which a registry installs them.
-/

namespace Instrumentation

/-- Which families of built-in rules are installed. -/
structure BuiltInSelection where
  enabled : Bool
  jdbc : Bool
  http : Bool
  cache : Bool
deriving DecidableEq, Repr, Inhabited

namespace BuiltInSelection

/-- Every family. -/
def all : BuiltInSelection := ⟨true, true, true, true⟩

/-- No family. -/
def none : BuiltInSelection := ⟨false, false, false, false⟩

/-- Every family or none. -/
def ofBool (enabled : Bool) : BuiltInSelection := if enabled then all else none

end BuiltInSelection

/-- The mark of thread pools: a unit with this text in its name is never excluded. -/
def threadPoolMark : String := "ThreadPool"

/-- The pool of worker threads with one queue. -/
def threadPoolUnit : String := "java/util/concurrent/ThreadPoolExecutor"

/-- The pool whose tasks fork and join. -/
def forkJoinPoolUnit : String := "java/util/concurrent/ForkJoinPool"

/-- The method by which a pool takes a task. -/
def submitMethod : String := "execute"

/-- The signature of the method by which a pool takes a task. -/
def submitSignature : String := "(Ljava/lang/Runnable;)V"

namespace BuiltIn

/-- Statements of the common database drivers. -/
def statementUnits : List String :=
  ["com/mysql/jdbc/StatementImpl",
    "com/mysql/cj/jdbc/StatementImpl",
    "org/postgresql/jdbc/PgStatement",
    "org/sqlite/jdbc3/JDBC3Statement",
    "org/hsqldb/jdbc/JDBCStatement",
    "com/microsoft/sqlserver/jdbc/SQLServerStatement",
    "oracle/jdbc/driver/OracleStatement"]

/-- Prepared statements of the common database drivers. -/
def preparedStatementUnits : List String :=
  ["com/mysql/jdbc/PreparedStatement",
    "com/mysql/cj/jdbc/ClientPreparedStatement",
    "org/postgresql/jdbc/PgPreparedStatement",
    "org/sqlite/jdbc3/JDBC3PreparedStatement",
    "org/hsqldb/jdbc/JDBCPreparedStatement",
    "com/microsoft/sqlserver/jdbc/SQLServerPreparedStatement",
    "oracle/jdbc/driver/OraclePreparedStatement"]

/-- The methods that execute a statement. -/
def statementMethods : List String :=
  ["execute", "executeQuery", "executeUpdate", "executeLargeUpdate"]

/-- The method that executes a batch of statements. -/
def batchMethod : String := "executeBatch"

/-- The signatures with which a prepared statement is executed. -/
def preparedSignatures : List String := ["()Z", "()Ljava/sql/ResultSet;", "()I"]

/-- The entry points of outbound web requests, each with its method. -/
def httpUnits : List (String × String) :=
  [("org/apache/http/impl/client/InternalHttpClient", "doExecute"),
    ("org/apache/http/impl/client/MinimalHttpClient", "doExecute"),
    ("org/apache/http/impl/client/DefaultRequestDirector", "execute"),
    ("okhttp3/RealCall", "execute")]

/-- The client of the cache. -/
def cacheClientUnit : String := "redis/clients/jedis/Jedis"

/-- The commands of the cache. -/
def cacheClientMethods : List String :=
  ["get", "set", "setex", "del", "exists", "expire", "incr", "decr", "hget", "hset", "hgetAll",
    "hdel", "lpush", "rpush", "lpop", "rpop", "lrange", "sadd", "smembers", "srem", "zadd",
    "zrange", "mget", "mset", "keys", "eval"]

/-- The unit in which exceptions are constructed. -/
def exceptionUnit : String := "java/lang/RuntimeException"

/-- A built-in rule. -/
def rule (unit : String) (kind : UnitKind) (hooks : List Hook) : Rule :=
  { (Rule.exact unit kind).addHooks hooks with origin := .builtIn }

/-- Statements: every execution reports its text. -/
def statementRules : List Rule :=
  statementUnits.map fun unit =>
    rule unit .jdbcStatement <|
      (statementMethods ++ [batchMethod]).map fun m => .ofAction m "" .sqlStatement

/-- Prepared statements: the executions without argument report, and batches report as batches. -/
def preparedStatementRules : List Rule :=
  preparedStatementUnits.map fun unit =>
    rule unit .jdbcPreparedStatement <|
      (statementMethods.flatMap fun m =>
        preparedSignatures.map fun s => Hook.ofAction m s .preparedStatement)
      ++ [.ofAction batchMethod "" .preparedStatementBatch]

/-- Outbound web requests. -/
def httpRules : List Rule :=
  httpUnits.map fun (unit, method) => rule unit .http [.ofAction method "" .httpRequest]

/-- Commands of the cache, reported when they are done. -/
def cacheClientRules : List Rule :=
  [rule cacheClientUnit .cacheClient <|
    cacheClientMethods.map fun m =>
      { Hook.ofAction m "" .cacheCall with reportOnEntry := false }]

/-- The construction of exceptions. -/
def exceptionRules : List Rule :=
  [{ rule exceptionUnit .other
      [{ Hook.ofAction "<init>" "" .exceptionThrown with reportOnEntry := false }] with
    reportExecutionTime := false }]

end BuiltIn

/-- The rule of an executor: the task that is submitted to it is wrapped. -/
def threadPoolRule (unit : String) : Rule :=
  (Rule.exact unit .threadPool).addHook
    (.ofAction submitMethod submitSignature (.wrapSubmittedTask 0))

/-- The thread pools that are known by name. -/
def BuiltIn.threadPoolRules : List Rule :=
  [threadPoolUnit, forkJoinPoolUnit].map fun unit =>
    { threadPoolRule unit with origin := .builtIn }

/-- The selected rules in the order of their installation. -/
def builtInRules (s : BuiltInSelection) : List Rule :=
  if s.enabled then
    (if s.jdbc then BuiltIn.statementRules ++ BuiltIn.preparedStatementRules else [])
      ++ (if s.http then BuiltIn.httpRules else [])
      ++ (if s.cache then BuiltIn.cacheClientRules else [])
      ++ BuiltIn.exceptionRules ++ BuiltIn.threadPoolRules
  else []

end Instrumentation
