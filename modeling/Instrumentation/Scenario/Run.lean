import Instrumentation.Scenario.Host

set_option autoImplicit false

/-!
# Running scripts

`perform` carries out one step, given a way to run the scripts inside it; `runScript` runs a script by
performing its steps until one of them panics. Every script of a scenario is run at most once, so their
number bounds the depth to which running them can nest.
-/

namespace Instrumentation.Scenario

/-- A way to run a script. -/
abbrev Runner := Script → HostM Transcript

/-- An outcome without panic. -/
def answer (a : Answer) : HostM StepResult := pure (.ok a)

/-- A step that is not carried out. -/
def refuse (f : Fault) : HostM StepResult := answer (.fault f)

/-- A field that names something that does not exist. -/
def unknown (field : String) : HostM StepResult := refuse (.badInput field)

/-! ## Handlers -/

/-- Adds a handler to the host and returns its place. -/
def addHandler (script : HandlerScript Step) : HostM Nat := do
  let h ← get
  set { h with handlers := h.handlers.push { script } }
  return h.handlers.size

/-- What a handler panics with when it has been asked for its name too often. -/
def namePanic : PanicPayload := .text "name"

/-- Asks a handler for its name. -/
def nameOf (id : Nat) : HostM (Except PanicPayload String) := do
  let h ← get
  match h.handlers[id]? with
  | none => return .ok ""
  | some st =>
      set { h with handlers := h.handlers.setIfInBounds id { st with nameCalls := st.nameCalls + 1 } }
      match st.script.nameCalls with
      | some limit => return if st.nameCalls < limit then .ok st.script.name else .error namePanic
      | none => return .ok st.script.name

/-- The reaction of a handler to its `n`-th call, counted from zero. -/
def HandlerState.reaction (st : HandlerState) (n : Nat) : Reaction :=
  (st.script.reactions[n % st.script.reactions.length]?).getD .accepted

/-- A handler gets an event: the call is logged, then the handler runs its script if it is the first one,
then it reacts. -/
def handle (run : Runner) (id : Nat) (e : Event) : HostM Reaction := do
  let h ← get
  match h.handlers[id]? with
  | none => return .accepted
  | some st =>
      let place := h.log.size
      set { h with
        handlers := h.handlers.setIfInBounds id
          { st with calls := st.calls + 1, script := { st.script with onFirst := none } }
        log := h.log.push (.handled st.script.label e none) }
      match st.script.onFirst with
      | some script =>
          let t ← run script
          modify fun h =>
            { h with log := h.log.setIfInBounds place (.handled st.script.label e (some t)) }
      | none => pure ()
      return st.reaction st.calls

/-- How the router calls the handlers of a host. -/
def callbacks (run : Runner) : Callbacks Host Nat where
  handle id e := .mk do return (← handle run id e).returned
  name id := .mk (nameOf id)

/-- Registers a handler under the name that it gives. -/
def register (owner : Owner) (script : HandlerScript Step) : HostM StepResult := do
  let id ← addHandler script
  match ← nameOf id with
  | .error p => return .error p
  | .ok name =>
      let h ← get
      match h.agent.router.register name owner id with
      | .error e => refuse (.setup e)
      | .ok router =>
          set (h.setRouter router)
          answer (.registered name router.handlerCount)

/-- Registers the fallback handler. -/
def registerFallback (script : HandlerScript Step) : HostM StepResult := do
  let id ← addHandler script
  let h ← get
  match h.agent.router.registerFallback id with
  | .error e => refuse (.setup e)
  | .ok router =>
      set (h.setRouter router)
      answer .done

/-- Shows the registration of a key. -/
def showRegistration (key : String) : HostM StepResult := do
  match (← get).agent.router.registration? key with
  | none => answer (.registration none)
  | some r =>
      match ← nameOf r.handler with
      | .error p => return .error p
      | .ok name =>
          answer (.registration (some
            { key := r.key
              handler := name
              owner := r.owner
              shown := r.shown
              shownOwner := r.owner.shown }))

/-- Changes the router and answers with a number read from it. -/
def setThreshold (f : Router Nat → Router Nat) (read : Router Nat → UInt64) : HostM StepResult := do
  let h ← get
  let router := f h.agent.router
  set (h.setRouter router)
  answer (.number (read router).toNat)

/-! ## Units -/

/-- Matches a unit against the rules. -/
def matchUnit (unit : String) : HostM (Option Plan) := do
  let h ← get
  let (plan, registry) := h.agent.registry.matchUnit unit
  set (h.setRegistry registry)
  return plan

/-- Asks the loader about a unit. A script that it runs is logged. -/
def ask (run : Runner) (loader : List (String × LoaderEntry Step)) (unit : String) :
    HostM Introspection := do
  match loader.lookup unit with
  | none => return .failed (.notFound unit)
  | some entry =>
      match entry.script with
      | some script =>
          let t ← run script
          modify fun h => { h with log := h.log.push (.asked unit t) }
      | none => pure ()
      return entry.answer.introspection

/-- Discovers an executor. -/
def discover (run : Runner) (loader : List (String × LoaderEntry Step)) (unit : String) :
    HostM (Option Plan) := do
  if (← get).agent.registry.mayDiscover unit then
    let found ← ask run loader unit
    let h ← get
    let (plan, registry) := h.agent.registry.concludeDiscovery unit found
    set (h.setRegistry registry)
    return plan
  else return none

/-- Probes a unit: the rules first, then discovery if it is on. -/
def probe (run : Runner) (loader : List (String × LoaderEntry Step)) (unit : String) :
    HostM (Option Plan) := do
  match ← matchUnit unit with
  | some plan => return some plan
  | none => if (← get).agent.executorDiscovery then discover run loader unit else return none

/-- Answers with a plan, and with what has been logged meanwhile. -/
def answerPlan (find : HostM (Option Plan)) (queries : List Query) : HostM StepResult := do
  let start := (← get).log.size
  let plan ← find
  match (← get).logFrom start with
  | [] => answer (.plan plan queries)
  | entries => answer (.discovered plan queries entries)

/-- The number of threads that get a plan when they match a unit at once. They take turns. -/
def race (unit : String) : Nat → HostM Nat
  | 0 => return 0
  | n + 1 => do
      let plan ← matchUnit unit
      let others ← race unit n
      return if plan.isSome then others + 1 else others

/-- Changes the registry. -/
def onRegistry (f : Registry → Registry) : HostM Unit :=
  modify fun h => h.setRegistry (f h.agent.registry)

/-! ## Slots and scopes -/

/-- Puts a context into the slot of the thread and answers with the one before. -/
def replaceContext (c : Option Context) : HostM StepResult := do
  let h ← get
  set { h with slots := h.slots.replaceContext c }
  answer (.context (h.view? h.slots.context))

/-- Opens a named scope with a context and answers with the context before. -/
def enterContext (scope : String) (c : Option Context) : HostM StepResult := do
  let h ← get
  let (opened, slots) := h.slots.enterContext c
  set { h with slots, scopes := (scope, opened) :: h.scopes }
  answer (.context (h.view? h.slots.context))

/-- Opens a named scope with a key. -/
def enterKey (scope key : String) : HostM StepResult := do
  let h ← get
  let (opened, slots) := h.slots.enterKey key
  set { h with slots, scopes := (scope, opened) :: h.scopes }
  answer .done

/-- Takes the newest scope of a name out of a list. -/
def takeScope (name : String) : List (String × Scope Context) →
    Option (Scope Context × List (String × Scope Context))
  | [] => none
  | (n, s) :: rest =>
      if n = name then some (s, rest)
      else (takeScope name rest).map fun (found, others) => (found, (n, s) :: others)

/-- Leaves the newest scope of a name. -/
def leave (scope : String) : HostM StepResult := do
  let h ← get
  match takeScope scope h.scopes with
  | none => unknown "id"
  | some (opened, scopes) =>
      set { h with slots := h.slots.leave opened, scopes }
      answer .done

/-- Leaves all open scopes, newest first. -/
def leaveAll : HostM Unit :=
  modify fun h =>
    { h with slots := h.scopes.foldl (fun slots s => slots.leave s.2) h.slots, scopes := [] }

/-- Runs something with open scopes of its own. Those that it leaves open are left at its end. -/
def inFrame {α : Type} (body : HostM α) : HostM α := do
  let outer := (← get).scopes
  modify fun h => { h with scopes := [] }
  let a ← body
  leaveAll
  modify fun h => { h with scopes := outer }
  return a

/-- Finds the context of a name for a step. -/
def withContext (field : String) (name : ContextName) (use : Option Context → HostM StepResult) :
    HostM StepResult := do
  match (← get).find? name with
  | none => unknown field
  | some c => use c

/-! ## Work handed on -/

/-- The slots of a new thread that has a context. -/
def freshSlots (c : Option Context) : Slots Context := { context := c }

/-- Runs something on a new thread that has a context. The new thread polls no tasks. -/
def apart {α : Type} (c : Option Context) (body : HostM α) : HostM α := do
  let polls := (← get).polls
  modify fun h => { h with polls := false }
  let a ← onThread (freshSlots c) body
  modify fun h => { h with polls }
  return a

/-- Wraps work under a name. -/
def wrap (name : String) (work : Work Context Script) : HostM StepResult := do
  modify fun h => { h with works := h.works.insert name work }
  answer (.context ((← get).view? work.captured))

/-- Runs work on the running thread. -/
def runWork (run : Runner) (work : Work Context Script) : HostM Transcript := work.run run

/-- Runs work on a new thread with a context; also gives the context of that thread afterwards. -/
def runWorkApart (run : Runner) (worker : Option Context) (work : Work Context Script) :
    HostM StepResult :=
  apart worker do
    let t ← runWork run work
    let h ← get
    answer (.nestedThen t (h.view? h.slots.context))

/-- Runs wrapped work by its name, which is gone afterwards. -/
def runNamed (run : Runner) (name : String) (newThread : Bool) (worker : Option String) :
    HostM StepResult := do
  let h ← get
  match h.works.find? name with
  | none => unknown "id"
  | some work =>
      withContext "worker" worker fun worker => do
        modify fun h => { h with works := h.works.erase name }
        if newThread then runWorkApart run worker work
        else
          let t ← runWork run work
          answer (.nested t)

/-- Submits a task to an executor that hands on the context of the thread. -/
def execute (run : Runner) (executor : ExecutorKind) (script : Script) : HostM StepResult := do
  let h ← get
  let work := Work.wrap h.slots script
  match executor with
  | .thread =>
      let t ← apart none (runWork run work)
      answer (.nested t)
  | .inline =>
      let t ← runWork run work
      answer (.nested t)
  | .queue =>
      set { h with queue := h.queue ++ [work] }
      answer (.number (h.queue.length + 1))

/-- Runs the tasks that are queued now, in order. -/
def drain (run : Runner) : HostM (List Transcript) := do
  let tasks := (← get).queue
  modify fun h => { h with queue := [] }
  tasks.mapM (runWork run)

/-! ## Tasks polled in turn -/

/-- Runs the scripts of a list one after the other up to a panic. -/
def runParts (run : Runner) : List Script → HostM Transcript
  | [] => return .mk [] none
  | p :: ps => do
      let t ← run p
      match t.panic with
      | some _ => return t
      | none => return t.append (← runParts run ps)

/-- A task that is pending: the parts that are left, and what has been answered. -/
structure Pending where
  parts : List Script
  answered : Transcript

/-- Polls a task: it runs its next part, and is ready when none is left or the part panicked. -/
def Pending.poll (run : Runner) (p : Pending) : HostM (Poll Transcript Pending) := do
  match p.parts with
  | [] => return .ready p.answered
  | part :: parts =>
      let t ← run part
      let answered := p.answered.append t
      match t.panic with
      | some _ => return .ready answered
      | none => return .pending { parts, answered }

/-- A submitted task as it is polled. -/
abbrev Submitted := Poll Transcript (Work Context Pending)

/-- The transcript of a task that is ready, with the number of the task. -/
def ready? : Nat × Submitted → Option (Nat × Transcript)
  | (i, .ready t) => some (i, t)
  | (_, .pending _) => none

/-- What is left of a task that is pending, with the number of the task. -/
def pending? : Nat × Submitted → Option (Nat × Work Context Pending)
  | (_, .ready _) => none
  | (i, .pending w) => some (i, w)

/-- The number of tasks in a round. -/
def roundSize : Nat := 61

/-- Polls queued tasks for a number of rounds and collects the transcripts of those that get ready. A round
takes tasks from the front of the queue. At its end those that are still pending go to the back of the
queue, the last one first. -/
def pollAll (run : Runner) :
    Nat → List (Nat × Work Context Pending) → HostM (List (Nat × Transcript))
  | 0, _ => return []
  | rounds + 1, queue => do
      let polled ← (queue.take roundSize).mapM fun (i, w) => do
        return (i, ← w.poll (Pending.poll run))
      let left := queue.drop roundSize ++ (polled.filterMap pending?).reverse
      return polled.filterMap ready? ++ (← pollAll run rounds left)

/-- Submits a task with the context of the thread. A task that blocks is run at once, on a new thread. -/
def spawn (run : Runner) (blocking : Bool) (parts : List Script) : HostM Submitted := do
  let slots := (← get).slots
  if blocking then
    let t ← apart none ((Work.wrap slots parts).run (runParts run))
    return .ready t
  else return .pending (Work.wrap slots { parts, answered := .mk [] none })

/-- Submits tasks in order, each within a context scope if it has a context. -/
def spawnAll (run : Runner) : List (AsyncTask Step) → HostM (Except Fault (List Submitted))
  | [] => return .ok []
  | t :: ts => do
      let spawned : Option Submitted ←
        match t.context with
        | none => some <$> spawn run t.blocking t.parts
        | some name =>
            match (← get).find? name with
            | none => pure none
            | some c => some <$> lend c (spawn run t.blocking t.parts)
      match spawned with
      | none => return .error (.badInput "context")
      | some p =>
          match ← spawnAll run ts with
          | .error f => return .error f
          | .ok ps => return .ok (p :: ps)

/-- The number of polls after which every task is ready. -/
def pollsFor (tasks : List (AsyncTask Step)) : Nat :=
  tasks.foldl (fun n t => n + (t.parts.length + 1)) 0

/-- What a thread panics with that polls tasks already. -/
def pollingPanic : PanicPayload := .text
  ("Cannot start a runtime from within a runtime. This happens because a function (like \x60block_on\x60) "
    ++ "attempted to block the current thread while the thread is being used to drive asynchronous "
    ++ "tasks.")

/-- Submits all tasks and polls them in turn until they are ready. A thread that does so cannot do so once
more in between. -/
def async (run : Runner) (tasks : List (AsyncTask Step)) : HostM StepResult := do
  if (← get).polls then return .error pollingPanic
  match ← spawnAll run tasks with
  | .error f => refuse f
  | .ok ps =>
      let numbered := (List.range ps.length).zip ps
      modify fun h => { h with polls := true }
      let polled ← pollAll run (pollsFor tasks) (numbered.filterMap pending?)
      modify fun h => { h with polls := false }
      let ready := numbered.filterMap ready? ++ polled
      answer (.transcripts ((List.range ps.length).filterMap fun i => ready.lookup i))

/-! ## Steps -/

/-- Carries out a step of a host that has an agent. -/
def needingAgent (body : HostM StepResult) : HostM StepResult := do
  if (← get).isDetached then refuse .detached else body

/-- Carries out a step. -/
def perform (run : Runner) : Step → HostM StepResult
  | .faulty needsAgent fault => if needsAgent then needingAgent (refuse fault) else refuse fault
  | .reconfigure config => needingAgent do
      let h ← get
      let (ended, agent) := (Agent.applyConfig config).run.run h.agent
      set { h with agent }
      match ended with
      | .error e => refuse (.setup e)
      | .ok () => answer .done
  | .configure rules excluded selection => do
      onRegistry fun r => r.configure rules excluded selection
      let r := (← get).agent.registry
      answer (.ruleCounts r.pending.size r.patterns.size)
  | .matchUnit unit queries => do answer (.plan (← matchUnit unit) queries)
  | .matchUnits units => do
      let plans ← units.mapM matchUnit
      answer (.kinds (plans.map fun p => p.map Plan.kind))
  | .discover unit loader queries => answerPlan (discover run loader unit) queries
  | .probe unit loader queries => needingAgent (answerPlan (probe run loader unit) queries)
  | .race unit threads => do answer (.number (← race unit threads))
  | .isExcluded units => do
      let r := (← get).agent.registry
      answer (.flags (units.map r.isExcluded))
  | .hasPending units => do
      let r := (← get).agent.registry
      answer (.flags (units.map r.hasPending))
  | .setDebugMode value => do
      onRegistry fun r => r.setDebugMode value
      answer .done
  | .registryState => do answer (.registryState (← get).registryState)
  | .kinds units => do
      let h ← get
      answer (.kindPairs (units.map fun u =>
        (h.agent.registry.index.kindOf? u, h.routerIndex.kindOf? u)))
  | .methodKinds methods => do
      let index := (← get).routerIndex
      answer (.kinds (methods.map index.kindOfMethod?))
  | .recordKind unit kind => do
      modify fun h => h.recordKind unit kind
      answer (.number (← get).routerIndex.size)
  | .metrics => needingAgent do
      let agent := (← get).agent
      answer (.metrics agent.registry.metrics agent.router.metrics.snapshot)
  | .register owner handler => register owner handler
  | .registerFallback handler => registerFallback handler
  | .registration key => showRegistration key
  | .routerState => do answer (.routerState (← get).routerState)
  | .setQueryThresholdMs value =>
      setThreshold (fun r => r.setQueryThresholdMs value) Router.queryThresholdMs
  | .setCacheThresholdMs value =>
      setThreshold (fun r => r.setCacheThresholdMs value) Router.cacheThresholdNs
  | .setCacheThresholdNs value =>
      setThreshold (fun r => r.setCacheThresholdNs value) Router.cacheThresholdNs
  | .setFilter filter => do
      modify fun h => h.setRouter (h.agent.router.setFilter filter)
      answer .done
  | .submit submission => do
      let start := (← get).log.size
      match ← ((callbacks run).submit submission).run with
      | .error p => return .error p
      | .ok () => answer (.log ((← get).logFrom start))
  | .dispatchMetrics => do answer (.snapshot (← get).agent.router.metrics.snapshot)
  | .resetMetrics => do
      modify fun h => h.setRouter h.agent.router.resetMetrics
      answer (.snapshot (← get).agent.router.metrics.snapshot)
  | .counts kind => do answer (.counts ((← get).agent.router.metrics.counts kind))
  | .setKey key => do
      modify fun h => { h with slots := h.slots.setKey key }
      answer .done
  | .clearKey => do
      modify fun h => { h with slots := h.slots.clearKey }
      answer .done
  | .readKey => do
      let key := (← get).slots.key
      answer (.key key (effectiveKey key))
  | .newContext name value => do
      let (c, h) := (← get).create value
      set { h with contexts := h.contexts.insert name c }
      answer (.flags [c.text?.isSome, c.number?.isSome, c.operation?.isSome])
  | .same a b =>
      withContext "a" a fun a => withContext "b" b fun b =>
        answer (.flag (match a, b with
          | none, none => true
          | some a, some b => a.sameAs b
          | _, _ => false))
  | .setContext name => withContext "context" (some name) replaceContext
  | .setValue value => do
      let (c, h) := (← get).create value
      set h
      replaceContext (some c)
  | .clearContext => replaceContext none
  | .readContext => do answer (.reading (← get).reading)
  | .enter scope name => withContext "context" name (enterContext scope)
  | .enterOperation scope operation => do
      let (c, h) := (← get).create (.operation operation)
      set h
      enterContext scope (some c)
  | .enterKey scope key => enterKey scope key
  | .leave scope => leave scope
  | .block script => do answer (.nested (← run script))
  | .thread script => do answer (.nested (← apart none (run script)))
  | .panic payload => return .error payload
  | .wrap name script none => do wrap name (.wrap (← get).slots script)
  | .wrap name script (some context) =>
      withContext "context" context fun c => wrap name (.wrapWith c script)
  | .run name newThread worker => runNamed run name newThread worker
  | .execute executor script => execute run executor script
  | .drain newThread => do
      let ts ← if newThread then apart none (drain run) else drain run
      answer (.transcripts ts)
  | .async tasks => async run tasks

/-- Performs steps until one panics. -/
def performAll (run : Runner) : Script → HostM Transcript
  | [] => return .mk [] none
  | s :: ss => do
      match ← perform run s with
      | .error p => return .mk [] (some p)
      | .ok a => return (← performAll run ss).prepend a

/-- Runs a script whose scripts nest at most to the given depth. -/
def runScript : Nat → Runner
  | 0, _ => return .mk [] none
  | depth + 1, script => inFrame (performAll (runScript depth) script)

/-- Runs a script in a host. -/
def runIn (host : Host) (script : Script) : Transcript × Host :=
  (runScript (innerOfSteps script + 1) script).run host

end Instrumentation.Scenario
