import Instrumentation.Agent
import Instrumentation.Event.Notification
import Instrumentation.Scenario.Context

set_option autoImplicit false

/-!
# Steps of scripts

A script says what the threads of a host do, step by step: they configure the agent, report units, raise
events, set their slots and hand work on. Some steps hold scripts of their own.
-/

namespace Instrumentation.Scenario

/-- Why a step is not carried out. -/
inductive Fault where
  /-- A field is missing or of the wrong type, or names something that does not exist. -/
  | badInput (field : String)
  /-- A value could not be read. -/
  | unreadable
  /-- A text is no identifier of an operation. -/
  | invalidOperation
  | setup (error : SetupError)
deriving DecidableEq, Repr, Inhabited

/-- The step needs an agent, and the host has a registry and a router apart. -/
def Fault.detached : Fault := .badInput "detached"

/-- A method that a plan is asked about. -/
structure Query where
  method : String
  signature : String
  access : UInt32
deriving DecidableEq, Repr, Inhabited

/-- Which context a step means: a named one, or none. -/
abbrev ContextName := Option String

/-- What the loader does when it is asked about a unit. -/
inductive LoaderAnswer where
  | described (d : UnitDescription)
  | failed (f : IntrospectionFailure)
  | panicked (message : String)
deriving Inhabited

/-- What the registry sees of the loader. -/
def LoaderAnswer.introspection : LoaderAnswer → Introspection
  | described d => .described d
  | failed f => .failed f
  | panicked _ => .panicked

/-- An entry of the loader: a script that it runs first, if there is one, and its answer. -/
structure LoaderEntry (σ : Type) where
  script : Option (List σ)
  answer : LoaderAnswer

/-- A handler. Its reactions are repeated in a cycle; none means that it accepts everything. -/
structure HandlerScript (σ : Type) where
  name : String
  label : String
  reactions : List Reaction := []
  /-- What the handler does first of all in its first call. -/
  onFirst : Option (List σ) := none
  /-- After so many times, asking the handler for its name panics. -/
  nameCalls : Option Nat := none

/-- A task that is polled together with others. -/
structure AsyncTask (σ : Type) where
  /-- The context around the submission, if it is not the one of the thread. -/
  context : Option ContextName
  /-- The task blocks its thread and gets one of its own. -/
  blocking : Bool
  /-- The task is pending after each part. -/
  parts : List (List σ)

/-- Executors of the host. -/
inductive ExecutorKind where
  /-- Every task has a new thread. -/
  | thread
  /-- A task runs where it is submitted. -/
  | inline
  /-- Tasks wait until the queue is drained. -/
  | queue
deriving DecidableEq, Repr, Inhabited

/-- A step of a script. -/
inductive Step where
  /-- A step that could not be read. It may be one that needs an agent. -/
  | faulty (needsAgent : Bool) (fault : Fault)
  | reconfigure (config : AgentConfig)
  | configure (rules : List Rule) (excluded : List String) (selection : BuiltInSelection)
  | matchUnit (unit : String) (queries : List Query)
  | matchUnits (units : List String)
  | discover (unit : String) (loader : List (String × LoaderEntry Step)) (queries : List Query)
  | probe (unit : String) (loader : List (String × LoaderEntry Step)) (queries : List Query)
  /-- Several threads match one unit at once. -/
  | race (unit : String) (threads : Nat)
  | isExcluded (units : List String)
  | hasPending (units : List String)
  | setDebugMode (value : Bool)
  | registryState
  | kinds (units : List String)
  | methodKinds (methods : List String)
  | recordKind (unit : String) (kind : UnitKind)
  | metrics
  | register (owner : Owner) (handler : HandlerScript Step)
  | registerFallback (handler : HandlerScript Step)
  | registration (key : String)
  | routerState
  | setQueryThresholdMs (value : Int64)
  | setCacheThresholdMs (value : Int64)
  | setCacheThresholdNs (value : Int64)
  | setFilter (filter : ExceptionFilter)
  | submit (submission : Submission)
  | dispatchMetrics
  | resetMetrics
  | counts (kind : EventKind)
  | setKey (key : String)
  | clearKey
  | readKey
  | newContext (name : String) (value : ContextValue)
  | same (a b : ContextName)
  | setContext (context : String)
  /-- Sets a context that is created for this and has no name. -/
  | setValue (value : ContextValue)
  | clearContext
  | readContext
  | enter (scope : String) (context : ContextName)
  | enterOperation (scope : String) (operation : OperationId)
  | enterKey (scope : String) (key : String)
  | leave (scope : String)
  | block (script : List Step)
  | thread (script : List Step)
  | panic (payload : PanicPayload)
  /-- Wraps work with the context of the thread, or with the given one. -/
  | wrap (work : String) (script : List Step) (context : Option ContextName)
  /-- Runs wrapped work, here or on a new thread whose context was set to the worker's. -/
  | run (work : String) (newThread : Bool) (worker : Option String)
  | execute (executor : ExecutorKind) (script : List Step)
  | drain (newThread : Bool)
  | async (tasks : List (AsyncTask Step))

/-- A script is a list of steps. -/
abbrev Script := List Step

instance : Inhabited Step := ⟨.metrics⟩

mutual

/-- The number of scripts inside a step, at any depth. -/
def Step.inner : Step → Nat
  | .discover _ loader _ => innerOfLoader loader
  | .probe _ loader _ => innerOfLoader loader
  | .register _ handler => innerOfHandler handler
  | .registerFallback handler => innerOfHandler handler
  | .block script => 1 + innerOfSteps script
  | .thread script => 1 + innerOfSteps script
  | .wrap _ script _ => 1 + innerOfSteps script
  | .execute _ script => 1 + innerOfSteps script
  | .async tasks => innerOfTasks tasks
  | _ => 0

/-- The number of scripts inside the steps of a list. -/
def innerOfSteps : List Step → Nat
  | [] => 0
  | s :: ss => s.inner + innerOfSteps ss

/-- The number of scripts in a list of scripts, with those inside them. -/
def innerOfScripts : List (List Step) → Nat
  | [] => 0
  | s :: ss => 1 + innerOfSteps s + innerOfScripts ss

/-- The number of scripts in a script that may be absent. -/
def innerOfOption : Option (List Step) → Nat
  | none => 0
  | some s => 1 + innerOfSteps s

/-- The number of scripts of a loader's entry. -/
def innerOfEntry : LoaderEntry Step → Nat
  | ⟨script, _⟩ => innerOfOption script

/-- The number of scripts of a unit with its loader's entry. -/
def innerOfUnit : String × LoaderEntry Step → Nat
  | (_, entry) => innerOfEntry entry

/-- The number of scripts of a loader. -/
def innerOfLoader : List (String × LoaderEntry Step) → Nat
  | [] => 0
  | e :: es => innerOfUnit e + innerOfLoader es

/-- The number of scripts of a handler. -/
def innerOfHandler : HandlerScript Step → Nat
  | ⟨_, _, _, onFirst, _⟩ => innerOfOption onFirst

/-- The number of scripts of a task. -/
def innerOfTask : AsyncTask Step → Nat
  | ⟨_, _, parts⟩ => innerOfScripts parts

/-- The number of scripts of a list of tasks. -/
def innerOfTasks : List (AsyncTask Step) → Nat
  | [] => 0
  | t :: ts => innerOfTask t + innerOfTasks ts

end

end Instrumentation.Scenario
