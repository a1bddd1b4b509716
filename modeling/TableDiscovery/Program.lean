import TableDiscovery.CommandLine.Arguments
import TableDiscovery.Connector
import TableDiscovery.Logs.Setup
import TableDiscovery.Metrics.Publisher

/-!
# The program

The program reads its arguments, sets up logging and tracing and runs a command. Listing and
planning poll once; watching runs the connector and prints the assignment after every change,
until it is interrupted.

* `Program`: the state of a run;
* `Program.list`, `Program.plan`, `Program.watch`: the commands, which return the exit status if
  there is one;
* `Program.Outcome`, `Program.execute`: a whole run.
-/

namespace TableDiscovery

open CommandLine

/-- The connector with what has been printed, the registered metrics and the handlers of logs. -/
structure Program extends Connector where
  output : String := ""
  registry : Registry := { }
  logging : Logging := { }

instance : MonadLift (Act Connector) (Act Program) :=
  ⟨Act.zoom (·.toConnector) fun p c => { p with toConnector := c }⟩

namespace Program

/-- The logger of the commands. -/
def logger : String := "connector.cli.commands"

/-- Prints a line. -/
def print (line : String) : Act Program Unit :=
  modify fun p => { p with output := p.output ++ line ++ "\n" }

/-- The setting for a text that an option has been given; nothing is an empty one. -/
def textSetting : Operand String → String
  | .nothing => ""
  | .value s => s

/-- The setting for an integer that an option has been given; nothing is an empty list. -/
def integerSetting : Operand Int → String
  | .nothing => "[]"
  | .value n => toString n

/-- The settings that arguments stand for. -/
def overrides (a : Arguments) : Props :=
  let texts :=
    [("connection.url", a.url), ("connection.user", a.user), ("connection.password", a.password),
      ("dialect.name", a.dialect), ("table.whitelist", a.whitelist),
      ("table.blacklist", a.blacklist), ("table.types", a.tableTypes),
      ("schema.pattern", a.schemaPattern), ("query", a.query)]
  let integers := [("tasks.max", a.maxTasks), ("table.poll.interval.ms", a.pollInterval)]
  texts.map (fun p => (p.1, p.2.map textSetting)) ++
    integers.map fun p => (p.1, p.2.map integerSetting)

/-- The settings of the environment, over which arguments win. -/
def gatherSettings (env : Assoc String String) (a : Arguments) : Act Site Settings :=
  Settings.ofEnvironment "SOURCE_" env (overrides a)

/-! ## Listing and planning -/

/-- Lists the tables with one poll on a connection of its own. -/
def discoverOnce (s : Settings) : Act Watch (Dialect × List Table) := do
  let f ← Act.ofExcept s.filter
  let d ← Act.ofExcept s.dialect
  d.announce
  let provider ← Act.ofExcept (Provider.check ⟨d, s.attempts, s.backoff⟩)
  let m ← Act.ofExcept (Monitor.check ⟨provider, s.pollInterval, f, 0.0⟩)
  Act.andFinally
    (do
      let _ ← provider.get
      let _ ← m.poll
      if (← get).snapshot.isNone then throw .listingUnavailable
      return (d, ← m.tables))
    provider.close

/-- Logs a fault of some kinds, which ends the program with a status; others escape. -/
def endOn (kinds : List Kind) (f : Fault) : Act Program (Option Nat) := do
  if f.isAnyOf kinds then
    Site.log .error logger f.message
    return some 1
  else throw f

/-- Prints the tables that pass the filter. -/
def list (env : Assoc String String) (a : Arguments) : Act Program (Option Nat) := do
  let found : Act Program (Dialect × List Table) := do
    let s ← gatherSettings env a
    discoverOnce s
  match ← Act.attempt found with
  | .error f => endOn [.discovery] f
  | .ok (d, tables) =>
    tables.forM fun t => print (d.render t)
    Site.log .info logger ("Found " ++ toString tables.length ++ " table(s)")
    return none

/-- Prints the assignment of the tables to tasks. -/
def plan (env : Assoc String String) (a : Arguments) : Act Program (Option Nat) := do
  let found : Act Program (Dialect × List (List Table)) := do
    let s ← gatherSettings env a
    let (d, tables) ← discoverOnce s
    return (d, ← Act.ofExcept (Assignment.assign tables s.tasksMax s.queryMode))
  match ← Act.attempt found with
  | .error f => endOn [.discovery, .value] f
  | .ok (d, groups) =>
    (Assignment.lines groups d).forM print
    return none

/-! ## Watching -/

/-- Prints the tables of each task. -/
def printTasks (tasks : List Props) : Act Program Unit := do
  print (toString tasks.length ++ " task(s):")
  tasks.zipIdx.forM fun p =>
    print ("  task-" ++ toString p.2 ++ ": " ++
      Assignment.taskText ((Assoc.get? p.1 Connector.tablesKey).join.getD ""))

/-- Whether there is something to wake for, which is then forgotten. -/
def takeWake : Act Program Bool := do
  let (woken, host) := (← get).host.await
  modify fun p => { p with host := host }
  return woken

/-- Waits for a change while the monitor polls up to a number of times; returns how many polls are
left, or nothing if the wait was interrupted. -/
def awaitChange : (polls : Nat) → Act Program (Option Nat)
  | 0 => do return if ← takeWake then some 0 else none
  | polls + 1 => do
    if ← takeWake then return some (polls + 1)
    else
      Connector.tick
      awaitChange polls

/-- Notes an interrupt, which is no failure of the program. -/
def interrupted : Act Program (Option Nat) := do
  Site.log .info logger "Interrupted, stopping"
  return none

/-- Prints the tasks after every change, at most `rounds` times. -/
def watchRounds (maxTasks : Int) : (rounds polls : Nat) → Act Program (Option Nat)
  | 0, _ => interrupted
  | rounds + 1, polls => do
    match ← Act.attempt (liftM (Connector.taskSettings maxTasks) : Act Program (List Props)) with
    | .error f => if f.isFailure then endOn [.discovery] f else interrupted
    | .ok tasks =>
      printTasks tasks
      match ← awaitChange polls with
      | none => interrupted
      | some polls =>
        if (← get).host.failed then
          Site.log .error logger "Table monitor stopped, exiting"
          return some 1
        else watchRounds maxTasks rounds polls

/-- Reads the settings and starts the connector. -/
def startWatching (env : Assoc String String) (a : Arguments) : Act Program Settings := do
  let s ← gatherSettings env a
  Connector.start s.props
  return s

/-- Runs the connector while its monitor polls up to a number of times after the first one, and
prints each assignment. Every round but the first one takes a poll. -/
def watch (env : Assoc String String) (a : Arguments) (polls : Nat) :
    Act Program (Option Nat) := do
  match ← Act.attempt (startWatching env a) with
  | .error f =>
    if f.isA .discovery then
      Site.log .error logger f.message
      Connector.stop
      return some 1
    else throw f
  | .ok s => Act.andFinally (watchRounds s.tasksMax (polls + 2) polls) Connector.stop

/-! ## Whole runs -/

/-- Registers the metrics and serves them, if a port other than zero is given. -/
def setUpMetrics (a : Arguments) : Act Program Unit := do
  match a.metricsPort with
  | some (.value port) =>
    if port ≠ 0 then
      let (_, registry) ← Registry.setUp (← get).registry port Connector.version true
      modify fun p => { p with registry := registry, metrics := registry.monitor }
  | _ => pure ()

/-- Runs the command; without one the help text is printed. -/
def runCommand (env : Assoc String String) (a : Arguments) (polls : Nat) :
    Act Program (Option Nat) := do
  match a.command with
  | some .list => list env a
  | some .plan => plan env a
  | some .watch =>
    setUpMetrics a
    watch env a polls
  | none =>
    modify fun p => { p with output := p.output ++ Arguments.help }
    return some 1

/-- Sets up the log handlers that the arguments ask for, which must name a level. -/
def setUpLogging (a : Arguments) : Act Program Unit := do
  match a.logLevel with
  | .nothing => throw (.missingMember (Json.arr []).typeName "upper")
  | .value level =>
    let o : Logging.Options := { level := level, json := a.jsonLogs }
    let (result, g) := Logging.setUp (← get).logging o
    modify fun p => { p with logging := g, threshold := g.level }
    Act.ofExcept result
    Site.log .info Logging.logger o.announcement

/-- What tracing is set up with. -/
def tracingOptions (a : Arguments) : Tracing.Options :=
  { endpoint := a.otlpEndpoint.map textSetting }

/-- Whether traces are asked for, by the arguments or by the environment. -/
def wantsTracing (env : Assoc String String) (a : Arguments) : Bool :=
  (Tracing.endpoint? env (tracingOptions a)).isSome

/-- Runs the program with arguments that have been read. -/
def run (env : Assoc String String) (a : Arguments) (polls : Nat) :
    Act Program (Option Nat) := do
  setUpLogging a
  if wantsTracing env a then
    Tracing.setUp env (tracingOptions a)
    Act.andFinally (runCommand env a polls) Tracing.shutDown
  else runCommand env a polls

/-- How a run ended: the exit status, a complaint about the arguments, a fault that escaped, and
the state at the end. -/
structure Outcome where
  status : Option Nat
  complaint : Option String
  fault : Option Fault
  final : Program

/-- The samples of the registered metrics. -/
def samples : Act Program (List Sample) := do
  let p ← get
  Registry.samples { p.registry with monitor := p.registry.monitor.bind fun _ => p.metrics }

/-- Runs the program from a state. -/
def execute (start : Program) (env : Assoc String String) (arguments : List String)
    (polls : Nat) : Outcome :=
  match Arguments.parse arguments with
  | .error exit =>
    ⟨some exit.status, if exit.status = 2 then some exit.complaint else none, none,
      { start with output := exit.output }⟩
  | .ok a =>
    match run env a polls start with
    | .ok status final => ⟨status, none, none, final⟩
    | .error f final => ⟨none, none, some f, final⟩

end Program

end TableDiscovery
