import TableDiscovery.CommandLine.Help

/-!
# The arguments of the program

The program lists tables, plans their assignment to tasks, or watches them. Options before the
command are about logging, metrics and tracing, those after it about the source.

* `Command`, `Arguments`;
* `Arguments.grammar`, `Arguments.commandGrammar`: the options;
* `Arguments.parse`.
-/

namespace TableDiscovery

open CommandLine

/-- What the program is asked to do. -/
inductive Command
  | list
  | plan
  | watch
deriving DecidableEq, Repr

/-- The arguments that have been read. -/
structure Arguments where
  logLevel : Operand String := .value "INFO"
  jsonLogs : Bool := false
  metricsPort : Option (Operand Int) := none
  otlpEndpoint : Option (Operand String) := none
  command : Option Command := none
  url : Option (Operand String) := none
  user : Option (Operand String) := none
  password : Option (Operand String) := none
  dialect : Option (Operand String) := none
  whitelist : Option (Operand String) := none
  blacklist : Option (Operand String) := none
  tableTypes : Option (Operand String) := none
  schemaPattern : Option (Operand String) := none
  maxTasks : Option (Operand Int) := none
  pollInterval : Option (Operand Int) := none
  query : Option (Operand String) := none
deriving DecidableEq, Repr

namespace Command

/-- The commands with their descriptions. -/
def descriptions : List (Command × String) :=
  [(list, "List the filtered tables once"), (plan, "Show the task assignment once"),
    (watch, "Monitor tables and print the assignment on every change")]

/-- The name of a command. -/
def label : Command → String
  | list => "list"
  | plan => "plan"
  | watch => "watch"

/-- The command with a name. -/
def ofLabel? (name : String) : Option Command := ([list, plan, watch].find? (·.label = name))

end Command

namespace Arguments

/-- The name of the program. -/
def program : String := "table-discovery"

/-- The option that asks for help. -/
def helpFlag : Flag Arguments :=
  ⟨["-h", "--help"], "", "show this help message and exit", .help⟩

/-- An option with a text. -/
def textFlag (name metavar description : String) (set : Operand String → Arguments → Arguments) :
    Flag Arguments :=
  ⟨[name], metavar, description, .text [] set⟩

/-- An option with an integer. -/
def integerFlag (name metavar description : String) (set : Operand Int → Arguments → Arguments) :
    Flag Arguments :=
  ⟨[name], metavar, description, .integer set⟩

/-- The options before the command. -/
def grammar : Grammar Arguments where
  program := program
  flags :=
    [helpFlag,
      ⟨["--log-level"], "", "Logging level (default: INFO)",
        .text ["DEBUG", "INFO", "WARNING", "ERROR"] fun s a => { a with logLevel := s }⟩,
      ⟨["--json-logs"], "", "Emit logs as JSON", .switch fun a => { a with jsonLogs := true }⟩,
      integerFlag "--metrics-port" "METRICS_PORT" "Expose Prometheus metrics on this port"
        fun n a => { a with metricsPort := some n },
      textFlag "--otlp-endpoint" "OTLP_ENDPOINT"
        "Export traces to this OTLP collector (default: $OTLP_ENDPOINT)"
        fun s a => { a with otlpEndpoint := some s }]

/-- The options about the source. -/
def sourceFlags : List (Flag Arguments) :=
  [helpFlag,
    textFlag "--url" "URL" "Connection URL (default: $SOURCE_CONNECTION_URL)"
      fun s a => { a with url := some s },
    textFlag "--user" "USER" "Database user (default: $SOURCE_CONNECTION_USER)"
      fun s a => { a with user := some s },
    textFlag "--password" "PASSWORD" "Database password (default: $SOURCE_CONNECTION_PASSWORD)"
      fun s a => { a with password := some s },
    textFlag "--dialect" "DIALECT" "Dialect name, overrides detection from the URL scheme"
      fun s a => { a with dialect := some s },
    textFlag "--whitelist" "WHITELIST" "Comma-separated tables to include"
      fun s a => { a with whitelist := some s },
    textFlag "--blacklist" "BLACKLIST" "Comma-separated tables to exclude"
      fun s a => { a with blacklist := some s },
    textFlag "--table-types" "TABLE_TYPES"
      "Comma-separated table types to discover (default: TABLE)"
      fun s a => { a with tableTypes := some s },
    textFlag "--schema-pattern" "SCHEMA_PATTERN"
      "SQL LIKE pattern restricting the schemas searched"
      fun s a => { a with schemaPattern := some s }]

/-- The option for the number of tasks. -/
def maxTasksFlag : Flag Arguments :=
  integerFlag "--max-tasks" "MAX_TASKS"
    "Maximum number of tasks (default: $SOURCE_TASKS_MAX or 1)"
    fun n a => { a with maxTasks := some n }

/-- The option for the poll interval. -/
def pollIntervalFlag : Flag Arguments :=
  integerFlag "--poll-interval-ms" "POLL_INTERVAL_MS"
    "Table poll interval in milliseconds (default: 60000)"
    fun n a => { a with pollInterval := some n }

/-- The option for a query. -/
def queryFlag (description : String) : Flag Arguments :=
  textFlag "--query" "QUERY" description fun s a => { a with query := some s }

/-- The options after a command. -/
def commandFlags : Command → List (Flag Arguments)
  | .list => sourceFlags
  | .plan => sourceFlags ++
    [maxTasksFlag, queryFlag "Custom query; plans a single task instead of whole tables"]
  | .watch => sourceFlags ++
    [maxTasksFlag, pollIntervalFlag,
      queryFlag "Custom query; runs a single task instead of copying whole tables"]

/-- The grammar of what follows a command. -/
def commandGrammar (c : Command) : Grammar Arguments :=
  ⟨program ++ " " ++ c.label, commandFlags c⟩

/-- Examples of use. -/
def examples : String :=
  "Examples:\n" ++
  "  # List the tables the connector would copy\n" ++
  "  table-discovery list --url postgresql://localhost:5432/warehouse --user postgres\n\n" ++
  "  # Show how 4 tasks would split the whitelisted tables\n" ++
  "  table-discovery plan --max-tasks 4 --whitelist public.customers,public.orders\n\n" ++
  "  # Keep watching for schema changes, exposing metrics on port 9091\n" ++
  "  table-discovery --metrics-port 9091 watch --max-tasks 4 --poll-interval-ms 30000\n" ++
  "        \n"

/-- The help text of the program. -/
def help : String :=
  programHelp grammar "Discover source tables and plan their assignment to ingestion tasks"
    (Command.descriptions.map fun p => (p.1.label, p.2)) "Available commands" examples

/-- Reads a command and its options. -/
def readCommand : List String → Arguments → Except Exit (Arguments × List String)
  | [], a => .ok (a, [])
  | name :: rest, a =>
    match Command.ofLabel? name with
    | none =>
      .error (grammar.usageError ("argument command: " ++
        choiceMessage name (Command.descriptions.map (·.1.label))))
    | some c =>
      let g := commandGrammar c
      g.read (helpText g) none rest { a with command := some c }

/-- Reads the arguments of the program. All of them must be taken. -/
def parse (arguments : List String) : Except Exit Arguments := do
  let (a, left) ← grammar.read help (some readCommand) arguments { }
  if left.isEmpty then return a
  else throw (grammar.usageError ("unrecognized arguments: " ++ " ".intercalate left))

end Arguments

end TableDiscovery
