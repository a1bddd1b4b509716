import TableDiscovery.Filter
import TableDiscovery.Host
import TableDiscovery.Metrics.Basic
import TableDiscovery.Pool
import TableDiscovery.Snapshot
import TableDiscovery.Tracing.Basic

/-!
# The table monitor

The monitor lists the tables again and again and publishes those that pass the filter. A listing
that fails for a transient reason changes nothing but the connection, which is given up. A change
after the first published listing is a reason for a reconfiguration request.

* `Watch`: the state of monitoring;
* `Monitor`: what is monitored, and how;
* `Monitor.fetch`, `Monitor.list`: one listing;
* `Monitor.conclude`, `Monitor.poll`: what becomes of it;
* `Monitor.requestReconfiguration`, `Monitor.shutDown`;
* `Monitor.tables`: the published tables for those who ask.
-/

namespace TableDiscovery

/-- Where the thread of the monitor is. A thread is unaware if it waits and the loop was stopped on
another thread, which does not wake it. -/
inductive Thread
  | idle
  | waiting
  | unaware
  | ended
deriving DecidableEq, Repr

/-- Whether a thread has been started and not ended. -/
def Thread.isAlive (t : Thread) : Bool := t = .waiting || t = .unaware

/-- The thread when the loop is stopped on another one. -/
def Thread.overlooked : Thread → Thread
  | waiting => unaware
  | t => t

/-- The thread when it is woken. -/
def Thread.woken : Thread → Thread
  | unaware => waiting
  | t => t

/-- A connection pool with what has been published and how often, whether the monitor is to stop,
its thread, its host with the reactions to the requests, and its metrics. -/
structure Watch extends Pool where
  snapshot : Option Snapshot := none
  published : Nat := 0
  stopping : Bool := false
  thread : Thread := .idle
  host : Host := { }
  reaction : Nat → Host.Reaction := fun _ => .accept
  announcesCalls : Bool := true
  metrics : Option Metrics := none

/-- The state when the loop is stopped on another thread. -/
def Watch.overtaken (w : Watch) : Watch :=
  if w.stopping then w else { w with stopping := true, thread := w.thread.overlooked }

instance : MonadLift (Act Pool) (Act Watch) :=
  ⟨Act.zoom (·.toPool) fun w p => { w with toPool := p }⟩

/-- What is monitored: where the connection comes from, the milliseconds between polls, the filter,
and the seconds that a reader waits for the first listing. -/
structure Monitor where
  provider : Provider
  interval : Int
  filter : Filter
  timeout : Float := 10.0

namespace Monitor

/-- The logger of this module. -/
def logger : String := "discovery.monitor"

/-- Polls need a positive interval. -/
def check (m : Monitor) : Except Fault Monitor :=
  if m.interval ≤ 0 then .error (.pollIntervalNotPositive m.interval) else .ok m

/-- The dialect of the database. -/
def dialect (m : Monitor) : Dialect := m.provider.dialect

/-- The seconds between polls. -/
def seconds (m : Monitor) : Except Fault Float := secondsOfMilliseconds m.interval

/-- Tells the monitor to stop at its next wait; a second time it changes nothing. -/
def shutDown : Act Watch Unit := do
  if !(← get).stopping then
    Site.log .info logger "Shutting down thread monitoring tables."
    modify fun w => { w with stopping := true }

/-! ## Polls -/

/-- Queries a connection for a listing; to fetch it may stop the monitor. -/
def fetch (m : Monitor) (connection : Nat) : Act Watch Listing := do
  let listing ← m.dialect.query connection
  if listing.stopsMonitor then shutDown
  return listing

/-- Lists the tables over the connection of the provider. -/
def lookUp (m : Monitor) : Act Watch (List Table) := do
  let connection ← m.provider.get
  let listing ← m.fetch connection
  let tables ← Act.ofExcept (m.dialect.tablesOf listing)
  Tracing.setAttribute "table_count" (.int tables.length)
  return tables

/-- Lists the tables in a span of its own. -/
def list (m : Monitor) : Act Watch (List Table) :=
  Tracing.traced "list_tables" .client [("dialect", .str m.dialect.name)] m.lookUp

/-- Counts a poll that began at a reading of the clock. -/
def recordPoll (m : Monitor) (status : String) (started : Float) : Act Watch Unit := do
  if (← get).metrics.isSome then
    let now ← Site.now
    modify fun w =>
      { w with metrics := w.metrics.map (·.addPoll m.dialect.name status (now - started)) }

/-- Notes the size of the published set. -/
def recordTables (m : Monitor) (s : Snapshot) : Act Watch Unit := do
  if (← get).metrics.isSome then
    modify fun w => { w with
      metrics := w.metrics.map
        (·.setSizes m.dialect.name s.tables.length s.duplicates.length) }
    Metrics.warnOfDuplicates s.duplicates.length

/-- Publishes the tables that pass the filter, unless they are the published ones; tells whether
others were published before. -/
def publish (m : Monitor) (started : Float) (tables : List Table) : Act Watch Bool := do
  let filtered := m.filter.apply m.dialect tables
  let previous := (← get).snapshot
  if (previous.map (·.tables)) = some filtered then
    m.recordPoll "unchanged" started
    return false
  else
    let s := Snapshot.ofTables filtered
    modify fun w => { w with snapshot := some s, published := w.published + 1 }
    Site.log .info logger
      ("After filtering the tables are: " ++ m.dialect.renderList s.tables)
    m.recordPoll "changed" started
    m.recordTables s
    return previous.isSome

/-- A poll without a listing gives the connection up and counts as one without a change. -/
def skip (m : Monitor) (started : Float) : Act Watch Bool := do
  Site.log .error logger ("Error while trying to get updated table list, " ++
    "ignoring and waiting for next table poll interval")
  m.provider.close
  m.recordPoll "failed" started
  return false

/-- What becomes of a listing: a failure that another poll may mend skips this one, another failure
is passed on, and the tables are published. -/
def conclude (m : Monitor) (started : Float) : Except Fault (List Table) → Act Watch Bool
  | .error f => if m.dialect.isTransient f then m.skip started else throw f
  | .ok tables => do
    Site.log .debug logger ("Got the following tables: [" ++
      ", ".intercalate (tables.map fun t => Text.quoted (toString t)) ++ "]")
    m.publish started tables

/-- One poll: whether the tables changed after they had been published. -/
def poll (m : Monitor) : Act Watch Bool := do
  let started ← Site.now
  m.conclude started (← Act.attempt m.list)

/-! ## Requests and errors -/

/-- The host is asked for reconfiguration. -/
def callHost : Act Watch Unit := do
  let w ← get
  if w.announcesCalls then Site.record .request
  let host ← w.host.request
  modify fun w => { w with host := host }
  match w.reaction w.host.requests with
  | .accept => pure ()
  | .shutDown => shutDown
  | .fail f => throw f

/-- The host is told of an error that stops the monitor. -/
def reportError (f : Fault) : Act Watch Unit := do
  let w ← get
  if w.announcesCalls then Site.record (.raiseError f)
  let host ← w.host.raiseError f
  modify fun w => { w with host := host }

/-- Asks the host for reconfiguration, unless the monitor is to stop. -/
def requestReconfiguration (m : Monitor) : Act Watch Unit := do
  if (← get).stopping then
    Site.log .debug logger
      "Table set changed during shutdown, not requesting reconfiguration"
  else
    Site.log .info logger "Table set changed, requesting task reconfiguration"
    callHost
    modify fun w => { w with metrics := w.metrics.map (·.addRequest m.dialect.name) }

/-! ## Readers -/

/-- The published tables. There must be some listing, and no two tables of one bare name. A reader
waits for the first listing, and not without an end: a timeout that is no number is none. -/
def tables (m : Monitor) : Act Watch (List Table) := do
  match (← get).snapshot with
  | none =>
    Site.checkWait m.timeout
    throw (.tableListTimeout m.timeout)
  | some s =>
    if s.duplicates.isEmpty then return s.tables
    else throw (.duplicateTables s.duplicates m.filter.hint)

end Monitor

end TableDiscovery
