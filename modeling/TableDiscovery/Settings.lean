import TableDiscovery.Filter
import TableDiscovery.Site

/-!
# Settings

Settings arrive as a flat map of texts. They are read once, with defaults for what is absent or
empty; the first problem is reported with its key. The map may be gathered from environment
variables, over which explicit values win.

* `Props`, `Props.text`, `Props.integer`: settings by key;
* `Settings`, `Settings.ofProps`: the settings that have been read;
* `Settings.filter`, `Settings.dialect`: the table filter and the dialect that they ask for;
* `Settings.propsOfEnvironment`, `Settings.ofEnvironment`.
-/

namespace TableDiscovery

/-- Settings as a host hands them over. -/
abbrev Props := Assoc String (Option String)

namespace Props

/-- The defaults of settings. -/
def defaults : Assoc String String :=
  [("connection.attempts", "3"), ("connection.backoff.ms", "10000"),
    ("table.poll.interval.ms", "60000"), ("table.types", "TABLE"), ("tasks.max", "1")]

/-- The value of a key unless it is empty. -/
def value? (p : Props) (key : String) : Option String :=
  (Assoc.get? p key).join.filter (· ≠ "")

/-- The value of a key or its default, trimmed. -/
def text (p : Props) (key : String) : String :=
  Text.strip ((p.value? key).getD ((Assoc.get? defaults key).getD ""))

/-- The trimmed value of a key unless it is blank. -/
def text? (p : Props) (key : String) : Option String :=
  let s := p.text key
  if s = "" then none else some s

/-- The integer value of a key, which must not be below a bound. -/
def integer (p : Props) (key : String) (least : Int) : Except Fault Int :=
  let s := p.text key
  match Text.parseInt? s with
  | none => .error (.settingNotInteger s key)
  | some n => if n < least then .error (.settingTooSmall n key least) else .ok n

/-- The entries of a list between commas, trimmed, blank ones left out. -/
def splitList (s : String) : List String :=
  if s = "" then [] else ((Text.split ',' s).map Text.strip).filter (· ≠ "")

/-- The list that a key holds. -/
def list (p : Props) (key : String) : List String := splitList (p.text key)

end Props

/-- Settings that have been read. -/
structure Settings where
  props : Props
  url : String
  user : Option String
  password : Option String
  attempts : Int
  backoff : Int
  dialectName : Option String
  pollInterval : Int
  whitelist : List String
  blacklist : List String
  tableTypes : List String
  schemaPattern : Option String
  query : String
  tasksMax : Int
deriving DecidableEq, Repr

namespace Settings

/-- The logger of this module. -/
def logger : String := "connector.config"

/-- Reads settings. The URL is required; counts and intervals must be large enough. -/
def ofProps (p : Props) : Except Fault Settings := do
  let url := p.text "connection.url"
  if url = "" then throw (.missingSetting "connection.url")
  let attempts ← p.integer "connection.attempts" 1
  let backoff ← p.integer "connection.backoff.ms" 0
  let pollInterval ← p.integer "table.poll.interval.ms" 1
  let types := p.list "table.types"
  let tasksMax ← p.integer "tasks.max" 1
  return { props := p
           url := url
           user := p.value? "connection.user"
           password := p.value? "connection.password"
           attempts := attempts
           backoff := backoff
           dialectName := p.text? "dialect.name"
           pollInterval := pollInterval
           whitelist := p.list "table.whitelist"
           blacklist := p.list "table.blacklist"
           tableTypes := if types.isEmpty then ["TABLE"] else types
           schemaPattern := p.text? "schema.pattern"
           query := p.text "query"
           tasksMax := tasksMax }

/-- Whether a query is run in place of copying tables. -/
def queryMode (s : Settings) : Bool := s.query ≠ ""

/-- The table filter. -/
def filter (s : Settings) : Except Fault Filter :=
  Filter.ofSettings { whitelist := s.whitelist, blacklist := s.blacklist, query := s.query }

/-- What the settings say about the dialect. -/
def dialectOptions (s : Settings) : Dialect.Options :=
  ⟨s.user, s.password, s.tableTypes, s.schemaPattern⟩

/-- The dialect for the connection URL. -/
def dialect (s : Settings) : Except Fault Dialect :=
  Dialect.find s.url s.dialectName s.dialectOptions

/-! ## Environment variables -/

/-- The key that a variable stands for: what follows the prefix, in lower case and with points. -/
def keyOfVariable? (start name : String) : Option String :=
  if start.toList.isPrefixOf name.toList then
    let rest := Text.lower (String.ofList (name.toList.drop start.length))
    some (String.ofList (rest.toList.map fun c => if c = '_' then '.' else c))
  else none

/-- The settings that variables with a prefix hold. Empty variables count as absent. -/
def propsOfVariables (start : String) (env : Assoc String String) : Props :=
  Assoc.ofList (env.filterMap fun p =>
    if p.2 = "" then none else (keyOfVariable? start p.1).map fun key => (key, some p.2))

/-- The settings of the environment, over which explicit values win. -/
def propsOfEnvironment (start : String) (env : Assoc String String) (overrides : Props) : Props :=
  Assoc.update (propsOfVariables start env) (overrides.filter fun p => p.2.isSome)

/-- Keys in order as a list of quoted texts. -/
def keysText (p : Props) : String :=
  "[" ++ ", ".intercalate (((p.map (·.1)).mergeSort fun a b => !(b < a)).map Text.quoted) ++ "]"

/-- Reads the settings of the environment, over which explicit values win. -/
def ofEnvironment (start : String) (env : Assoc String String) (overrides : Props) :
    Act Site Settings := do
  let props := propsOfEnvironment start env overrides
  Site.log .debug logger ("Loaded settings from environment: " ++ keysText props)
  Act.ofExcept (ofProps props)

end Settings

end TableDiscovery
