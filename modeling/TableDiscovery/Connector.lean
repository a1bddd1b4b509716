import TableDiscovery.Assignment
import TableDiscovery.Monitor.Run
import TableDiscovery.Settings

/-!
# The connector

The connector reads its settings, connects, watches the tables and hands out the settings of the
ingestion tasks. It holds a monitor only with a provider, a provider only with a dialect, and a
dialect only with settings.

* `Connector`: the state of monitoring with what the connector holds;
* `Connector.start`, `Connector.stop`;
* `Connector.taskSettings`: one map of settings per task.
-/

namespace TableDiscovery

/-- The state of monitoring, what the connector holds, how long readers wait for the first
listing, whether it has been started, how closing the dialect fails after a start, and whether
threads fail to end, with the number of those that have been left behind. -/
structure Connector extends Watch where
  settings : Option Settings := none
  dialect : Option Dialect := none
  provider : Option Provider := none
  monitor : Option Monitor := none
  timeout : Float := 10.0
  started : Bool := false
  dialectCloseFault : Option Fault := none
  threadsHang : Bool := false
  leftBehind : Nat := 0

instance : MonadLift (Act Watch) (Act Connector) :=
  ⟨Act.zoom (·.toWatch) fun c w => { c with toWatch := w }⟩

namespace Connector

/-- The logger of this module. -/
def logger : String := "connector.source"

/-- The version of the connector. -/
def version : String := "1.0.0"

/-- The key under which a task finds its tables. -/
def tablesKey : String := "tables"

/-! ## Starting -/

/-- Reads the settings and keeps them. -/
def readSettings (p : Props) : Act Connector Settings := do
  match Settings.ofProps p with
  | .error cause => throw (.couldNotStart cause)
  | .ok s =>
    modify fun c => { c with settings := some s }
    return s

/-- Finds the dialect and keeps it. -/
def findDialect (s : Settings) : Act Connector Dialect := do
  let d ← Act.ofExcept s.dialect
  d.announce
  modify fun c => { c with dialect := some d }
  return d

/-- Makes a provider without a connection and keeps it. -/
def makeProvider (s : Settings) (d : Dialect) : Act Connector Provider := do
  let p ← Act.ofExcept (Provider.check ⟨d, s.attempts, s.backoff⟩)
  modify fun c => { c with provider := some p, cached := none, connects := 0 }
  return p

/-- Makes a monitor that has published nothing and keeps it. -/
def makeMonitor (s : Settings) (p : Provider) (f : Filter) : Act Connector Monitor := do
  let m ← Act.ofExcept (Monitor.check ⟨p, s.pollInterval, f, (← get).timeout⟩)
  modify fun c => { c with
    monitor := some m, snapshot := none, published := 0, stopping := false, thread := .idle }
  return m

/-- The thread ends once the monitor is to stop, unless threads hang. -/
def settle : Act Connector Unit := do
  if !(← get).threadsHang then Monitor.settle

/-- Reads the settings, connects and starts monitoring. What has been taken hold of before a
failure is kept until the connector is stopped. -/
def start (p : Props) : Act Connector Unit := do
  if (← get).dialect.isSome then throw .alreadyStarted
  Site.log .info logger "Starting table source connector"
  let s ← readSettings p
  let f ← Act.ofExcept s.filter
  let d ← findDialect s
  let provider ← makeProvider s d
  let _ ← provider.get
  let m ← makeMonitor s provider f
  m.start
  settle
  modify fun c => { c with started := true }

/-! ## Task settings -/

/-- The settings of a task with its tables. -/
def taskProps (s : Settings) (tables : String) : Props :=
  Assoc.put s.props tablesKey (some tables)

/-- The published tables in groups, one for each task. -/
def taskGroups (m : Monitor) (maxTasks : Int) : Act Connector (List (List Table)) := do
  let tables ← m.tables
  let groups ← Act.ofExcept (Assignment.assign tables maxTasks false)
  -- a list is never so long that its length could not be written
  Tracing.addAttributes
    [("table_count", .str (toString tables.length)), ("task_count", .str (toString groups.length))]
  return groups

/-- The settings of at most `maxTasks` tasks. -/
def taskSettings (maxTasks : Int) : Act Connector (List Props) := do
  let c ← get
  match c.settings, c.monitor, c.dialect with
  | some s, some m, some d =>
    if s.queryMode then
      Site.log .debug logger "Task configs for custom query"
      return [taskProps s ""]
    else
      let groups ← Tracing.traced "task_configs" .inner [("max_tasks", .int maxTasks)]
        (taskGroups m maxTasks)
      Site.log .debug logger ("Task configs for " ++ toString groups.flatten.length ++
        " table(s) over " ++ toString groups.length ++ " task(s)")
      return groups.map fun g => taskProps s (d.renderList g)
  | _, _, _ => throw .notStarted

/-! ## Stopping -/

/-- The seconds that a thread has to end. -/
def maxShutdownWait : Float := 10.0

/-- Stops the monitor and lets go of it; a thread that does not end is left behind. -/
def stopMonitor : Act Connector Unit := do
  if (← get).monitor.isSome then
    Monitor.shutDown
    settle
    if (← get).thread = .waiting then
      Site.record (.join maxShutdownWait)
      Site.log .warning logger ("Table monitor did not stop within " ++
        Number.shortest maxShutdownWait ++ "s")
      modify fun c => { c with leftBehind := c.leftBehind + 1 }
    modify fun c => { c with monitor := none }

/-- Closes the connection and lets go of the provider. -/
def stopProvider : Act Connector Unit := do
  match (← get).provider with
  | none => pure ()
  | some p =>
    p.close
    modify fun c => { c with provider := none }

/-- How closing the dialect fails. -/
def closeFault? (c : Connector) : Option Fault := if c.started then c.dialectCloseFault else none

/-- Closes the dialect and lets go of it; a failure is only logged. -/
def stopDialect : Act Connector Unit := do
  let c ← get
  match c.dialect with
  | none => pure ()
  | some d =>
    Act.andFinally
      (match c.closeFault? with
        | none => pure ()
        | some f =>
          if f.isFailure then
            Site.log .warning logger ("Error while closing the " ++ toString d ++ " dialect: " ++
              f.message)
          else throw f)
      (modify fun c => { c with dialect := none, started := false })

/-- Stops monitoring, then closes the connection and the dialect, each whatever failed before. -/
def stop : Act Connector Unit := do
  Site.log .info logger "Stopping table monitoring thread"
  Act.andFinally stopMonitor (Act.andFinally stopProvider stopDialect)

/-! ## Threads -/

/-- The wait of the monitor's thread times out. -/
def tick : Act Connector Unit := do
  match (← get).monitor with
  | none => pure ()
  | some m =>
    m.tick
    settle

/-- The threads that were left behind end after all. -/
def releaseThreads : Act Connector Unit := do
  (List.range (← get).leftBehind).forM fun _ => Monitor.finish
  modify fun c => { c with leftBehind := 0 }

end Connector

end TableDiscovery
