import TableDiscovery.Program

/-!
# The command line

The program in a process: arguments and environment come from outside, what is printed goes to the
standard output, log records and complaints to the standard error. No database driver is linked
in, so that opening a connection fails.

* `Session.knownVariables`: the environment variables that the program reads;
* `Session.offline`: the site that it runs on;
* `main`.
-/

namespace TableDiscovery.Session

/-- The environment variables that the program reads. -/
def knownVariables : List String :=
  ["SOURCE_CONNECTION_URL", "SOURCE_CONNECTION_USER", "SOURCE_CONNECTION_PASSWORD",
    "SOURCE_CONNECTION_ATTEMPTS", "SOURCE_CONNECTION_BACKOFF_MS", "SOURCE_DIALECT_NAME",
    "SOURCE_TABLE_POLL_INTERVAL_MS", "SOURCE_TABLE_WHITELIST", "SOURCE_TABLE_BLACKLIST",
    "SOURCE_TABLE_TYPES", "SOURCE_SCHEMA_PATTERN", "SOURCE_QUERY", "SOURCE_TASKS_MAX",
    "OTLP_ENDPOINT", "TRACE_CONSOLE"]

/-- A site on which no connection can be opened. -/
def offline : Script where
  connect := fun _ => some (.raised .connection (some "no database driver is linked in"))

/-- The known variables that are set, with their values. -/
def environment : IO (Assoc String String) :=
  knownVariables.filterMapM fun name => do return (← IO.getEnv name).map fun value => (name, value)

/-- The line of a log record. -/
def logLine? : Event → Option String
  | .log level logger message => some (Level.nameOf level ++ " " ++ logger ++ ": " ++ message)
  | _ => none

/-- The program in a process. -/
def run (arguments : List String) : IO UInt32 := do
  let start : Program := { script := offline }
  let outcome := Program.execute start (← environment) arguments 0
  IO.print outcome.final.output
  (outcome.final.trace.filterMap logLine?).forM fun line => IO.eprintln line
  (outcome.complaint.or (outcome.fault.map Record.faultLine)).forM fun line => IO.eprintln line
  return (outcome.status.getD (if outcome.fault.isSome then 1 else 0)).toUInt32

end TableDiscovery.Session

/-- Runs the program. -/
def main (arguments : List String) : IO UInt32 := TableDiscovery.Session.run arguments
