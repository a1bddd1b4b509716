import TableDiscovery.Kind
import TableDiscovery.Logs.Moment
import TableDiscovery.Logs.Template
import TableDiscovery.Number.Fixed
import TableDiscovery.Number.Power
import TableDiscovery.Table
import TableDiscovery.Url.Basic

/-!
# Faults

Everything that can go wrong, by its cause. Settings that conflict or are invalid are fatal;
failures to reach the store are transient and lead to another try.

* `Fault`, `Fault.raised`: the causes, one of them a failure that the surroundings report;
* `Fault.kind`, `Fault.message`: the kind of a fault and what is said about it;
* `Fault.ofUnwritable`: the fault of a value that cannot be written;
* `Fault.isA`, `Fault.isFailure`: which handlers take it.
-/

namespace TableDiscovery

/-- A cause of failure. -/
inductive Fault
  | raised (kind : Kind) (text : Option String)
  | emptyTableName
  | rowTooShort
  | noSuchItem (sequence : String)
  | noSuchField (key : Nat)
  | withoutItems (typeName : String)
  | notJoinable (typeName : String)
  | notAKey (typeName : String)
  | notATable (typeName : String)
  | exclusiveLists (whitelistSetting blacklistSetting : String)
  | queryWithLists (querySetting : String)
  | missingSetting (key : String)
  | settingNotInteger (text key : String)
  | settingTooSmall (value : Int) (key : String) (least : Int)
  | couldNotStart (cause : Fault)
  | unknownDialect (name : String)
  | noDialectFor (scheme : String)
  | url (cause : Url.Fault)
  | duplicateTables (groups : List (String × List Table)) (hint : String)
  | tableListTimeout (seconds : Float)
  | unreachable (database : String) (attempts : Int) (cause : Fault)
  | listingUnavailable
  | pollIntervalNotPositive (milliseconds : Int)
  | tooFewAttempts
  | groupCountNotPositive (count : Int)
  | tooFewTasks (count : Int)
  | alreadyStarted
  | notStarted
  | threadStarted
  | attemptsExhausted (name : String)
  | callbackFailed
  | power (cause : Number.PowerFault)
  | integerTooLarge
  | tooManyDigits
  | tooDeep (task : String)
  | waitTooLong
  | repeatedArgument (function name : String)
  | repeatedKeyword (function name : String)
  | template (cause : Template.Fault)
  | moment (cause : Moment.Fault)
  | attributeTaken (name : String)
  | unknownLevel (text : String)
  | notALevel (text : String)
  | fileInPlaceOf (directory : String)
  | fileAbove (directory : String)
  | isDirectory (path : String)
  | pathTooLong (path : String)
  | nullInPath
  | rateOutOfRange
  | rateNotANumber
  | addressInUse (port : Int)
  | duplicateSeries
  | missingMember (owner name : String)
  | notImplemented

namespace Fault

/-- The kind of a fault. -/
def kind : Fault → Kind
  | raised k _ => k
  | rowTooShort | noSuchItem _ => .index
  | noSuchField _ | attributeTaken _ => .key
  | notATable _ | withoutItems _ | notJoinable _ | notAKey _ | notALevel _ => .type
  | repeatedArgument .. | repeatedKeyword .. => .type
  | exclusiveLists .. | queryWithLists _ | missingSetting _ | settingNotInteger .. => .configuration
  | settingTooSmall .. | couldNotStart _ | unknownDialect _ | noDialectFor _ => .configuration
  | pollIntervalNotPositive _ => .configuration
  | duplicateTables .. => .duplicateTable
  | tableListTimeout _ => .tableListTimeout
  | unreachable .. | listingUnavailable => .transientDiscovery
  | emptyTableName | url _ | tooFewAttempts | groupCountNotPositive _ | tooFewTasks _ => .value
  | unknownLevel _ | rateOutOfRange | rateNotANumber | tooManyDigits => .value
  | nullInPath => .value
  | fileInPlaceOf _ => .fileExists
  | fileAbove _ => .notADirectory
  | isDirectory _ => .isADirectory
  | pathTooLong _ => .os
  | alreadyStarted | notStarted | threadStarted | attemptsExhausted _ => .runtime
  | callbackFailed | addressInUse _ => .runtime
  | power .zeroToNegative => .zeroDivision
  | power _ | integerTooLarge | waitTooLong => .overflow
  | tooDeep _ => .recursion
  | template cause => cause.kind
  | moment cause => cause.kind
  | duplicateSeries => .duplicateSeries
  | missingMember .. => .missingAttribute
  | notImplemented => .notImplemented

/-- What is said about a power that has no value. -/
def powerMessage : Number.PowerFault → String
  | .exponentTooLarge => "int too large to convert to float"
  | .zeroToNegative => "0.0 cannot be raised to a negative power"
  | .tooLarge => "(34, 'Numerical result out of range')"

/-- The text of a failure that the surroundings report: a missing key is quoted. -/
def raisedMessage (k : Kind) : Option String → String
  | none => ""
  | some s => if k = .key then Text.quoted s else s

/-- Groups of tables, each in brackets. -/
def groupsText (groups : List (String × List Table)) : String :=
  ", ".intercalate (groups.map fun g => "[" ++ ", ".intercalate (g.2.map toString) ++ "]")

/-- What is said about a fault. -/
def message : Fault → String
  | raised k text => raisedMessage k text
  | emptyTableName => "Table name cannot be empty"
  | rowTooShort => "tuple index out of range"
  | noSuchItem sequence => sequence ++ " index out of range"
  | noSuchField key => toString key
  | withoutItems typeName => "'" ++ typeName ++ "' object is not subscriptable"
  | notJoinable typeName => "can only concatenate str (not \"" ++ typeName ++ "\") to str"
  | notAKey typeName => "unhashable type: '" ++ typeName ++ "'"
  | notATable typeName =>
    "'<' not supported between instances of 'TableId' and '" ++ typeName ++ "'"
  | exclusiveLists whitelist blacklist => whitelist ++ " and " ++ blacklist ++ " are exclusive."
  | queryWithLists query => query ++ " may not be combined with whole-table copying settings."
  | missingSetting key => "Missing required configuration '" ++ key ++ "'"
  | settingNotInteger text key =>
    "Invalid value " ++ Text.quoted text ++ " for configuration '" ++ key ++ "': must be an integer"
  | settingTooSmall value key least =>
    "Invalid value " ++ toString value ++ " for configuration '" ++ key ++
      "': must be at least " ++ toString least
  | couldNotStart cause =>
    "Couldn't start table source connector due to configuration error: " ++ cause.message
  | unknownDialect name => "Unknown dialect '" ++ name ++ "'"
  | noDialectFor scheme => "No dialect found for connection URL scheme '" ++ scheme ++ "'"
  | url cause => cause.message
  | duplicateTables groups hint =>
    "The connector uses the unqualified table name as the topic name and has " ++
      "detected duplicate unqualified table names. This could lead to mixed data " ++
      "types in the topic and downstream processing errors. To prevent such " ++
      "processing errors, the connector fails to start when it detects duplicate " ++
      "table name configurations. Update the connector's " ++ hint ++
      " config to include exactly one table in each of the tables listed below.\n\t" ++
      groupsText groups
  | tableListTimeout seconds =>
    "Tables could not be updated quickly enough (waited " ++ Number.fixed 1 false seconds ++ "s)"
  | unreachable database attempts cause =>
    "Unable to connect to the " ++ database ++ " database after " ++ toString attempts ++
      " attempt(s): " ++ cause.message
  | listingUnavailable => "Unable to list tables from the source database"
  | pollIntervalNotPositive milliseconds =>
    "Table poll interval must be positive, got " ++ toString milliseconds ++ " ms"
  | tooFewAttempts => "max_attempts must be at least 1"
  | groupCountNotPositive count => "Number of groups must be positive, got " ++ toString count
  | tooFewTasks count => "max_tasks must be at least 1, got " ++ toString count
  | alreadyStarted => "Connector is already started; call stop() before starting again"
  | notStarted => "Connector has not been started"
  | threadStarted => "threads can only be started once"
  | attemptsExhausted name => "Unexpected error in retry logic for " ++ name
  | callbackFailed => "callback failed"
  | power cause => powerMessage cause
  | integerTooLarge => "int too large to convert to float"
  | tooManyDigits => Json.Unwritable.tooManyDigits.message
  | tooDeep task => (Json.Unwritable.tooDeep task).message
  | waitTooLong => "timestamp too large to convert to C _PyTime_t"
  | repeatedArgument function name =>
    function ++ "() got multiple values for argument '" ++ name ++ "'"
  | repeatedKeyword function name =>
    function ++ "() got multiple values for keyword argument '" ++ name ++ "'"
  | template cause => cause.message
  | moment cause => cause.message
  | attributeTaken name =>
    Text.quoted ("Attempt to overwrite " ++ Text.quoted name ++ " in LogRecord")
  | unknownLevel text => "Unknown level: " ++ Text.quoted text
  | notALevel text => "Level not an integer or a valid string: " ++ text
  | fileInPlaceOf directory => "[Errno 17] File exists: " ++ Text.quoted directory
  | fileAbove directory => "[Errno 20] Not a directory: " ++ Text.quoted directory
  | isDirectory path => "[Errno 21] Is a directory: " ++ Text.quoted path
  | pathTooLong path => "[Errno 36] File name too long: " ++ Text.quoted path
  | nullInPath => "embedded null byte"
  | rateOutOfRange => "Probability must be in range [0.0, 1.0]."
  | rateNotANumber => "cannot convert float NaN to integer"
  | addressInUse port =>
    "Metrics server port " ++ toString port ++ " is already in use. " ++
      "Stop the conflicting process or use a different port."
  | duplicateSeries => "A series with this name is registered already"
  | missingMember owner name => "'" ++ owner ++ "' object has no attribute '" ++ name ++ "'"
  | notImplemented => ""

/-- The fault of a value that cannot be written. -/
def ofUnwritable : Json.Unwritable → Fault
  | .tooManyDigits => tooManyDigits
  | .tooDeep task => tooDeep task

/-- Whether a handler for a kind takes the fault. -/
def isA (f : Fault) (k : Kind) : Bool := f.kind.isA k

/-- Whether a handler for one of some kinds takes the fault. -/
def isAnyOf (f : Fault) (kinds : List Kind) : Bool := kinds.any f.isA

/-- Whether the fault is a failure and no interrupt. -/
def isFailure (f : Fault) : Bool := f.isA .exception

/-- The name of the kind, then the message. -/
def summary (f : Fault) : String := f.kind.label ++ ": " ++ f.message

end Fault

end TableDiscovery
