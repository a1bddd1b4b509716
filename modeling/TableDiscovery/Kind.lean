/-!
# Kinds of failure

Failures come in kinds that form a hierarchy: a handler for a kind also takes the kinds below it.
Database drivers have kinds of their own.

* `Driver`, `DriverFailure`, `Kind`;
* `Kind.ancestors`, `Kind.isA`: a kind with those above it;
* `Kind.Origin`, `Kind.origin`: where a kind is defined;
* `Kind.label`, `Kind.qualifiedLabel`, `Kind.shownLabel`: its name, alone, with its origin, and as a
  trace shows it;
* `Kind.ofLabel?`.
-/

namespace TableDiscovery

/-- The database drivers. -/
inductive Driver
  | postgres
  | odbc
deriving DecidableEq, Repr

/-- What a driver reports. -/
inductive DriverFailure
  | error
  | warning
  | interface
  | operational
  | programming
  | data
  | internal
deriving DecidableEq, Repr

/-- A kind of failure. -/
inductive Kind
  | interrupt
  | exception
  | os
  | timeout
  | fileNotFound
  | fileExists
  | notADirectory
  | isADirectory
  | permission
  | connection
  | connectionRefused
  | connectionReset
  | value
  | runtime
  | recursion
  | notImplemented
  | index
  | key
  | type
  | missingAttribute
  | arithmetic
  | overflow
  | zeroDivision
  | memory
  | duplicateSeries
  | discovery
  | configuration
  | duplicateTable
  | tableListTimeout
  | transientDiscovery
  | driver (source : Driver) (failure : DriverFailure)
deriving DecidableEq, Repr

/-- The name of what a driver reports. -/
def DriverFailure.label : DriverFailure → String
  | error => "Error"
  | warning => "Warning"
  | interface => "InterfaceError"
  | operational => "OperationalError"
  | programming => "ProgrammingError"
  | data => "DataError"
  | internal => "InternalError"

/-- The name of a driver. -/
def Driver.label : Driver → String
  | postgres => "psycopg2"
  | odbc => "pyodbc"

namespace Kind

/-- The kind and those above it up to the most general failure. An interrupt is no failure. -/
def ancestors : Kind → List Kind
  | interrupt => [interrupt]
  | exception => [exception]
  | os => [os, exception]
  | timeout => [timeout, os, exception]
  | fileNotFound => [fileNotFound, os, exception]
  | fileExists => [fileExists, os, exception]
  | notADirectory => [notADirectory, os, exception]
  | isADirectory => [isADirectory, os, exception]
  | permission => [permission, os, exception]
  | connection => [connection, os, exception]
  | connectionRefused => [connectionRefused, connection, os, exception]
  | connectionReset => [connectionReset, connection, os, exception]
  | value => [value, exception]
  | runtime => [runtime, exception]
  | recursion => [recursion, runtime, exception]
  | notImplemented => [notImplemented, runtime, exception]
  | index => [index, exception]
  | key => [key, exception]
  | type => [type, exception]
  | missingAttribute => [missingAttribute, exception]
  | arithmetic => [arithmetic, exception]
  | overflow => [overflow, arithmetic, exception]
  | zeroDivision => [zeroDivision, arithmetic, exception]
  | memory => [memory, exception]
  | duplicateSeries => [duplicateSeries, value, exception]
  | discovery => [discovery, exception]
  | configuration => [configuration, discovery, exception]
  | duplicateTable => [duplicateTable, configuration, discovery, exception]
  | tableListTimeout => [tableListTimeout, discovery, exception]
  | transientDiscovery => [transientDiscovery, discovery, exception]
  | driver d .warning => [driver d .warning, exception]
  | driver d .error => [driver d .error, exception]
  | driver d f => [driver d f, driver d .error, exception]

/-- Whether a handler for `above` takes a failure of this kind. -/
def isA (k above : Kind) : Bool := k.ancestors.contains above

/-- The name of a kind. -/
def label : Kind → String
  | interrupt => "KeyboardInterrupt"
  | exception => "Exception"
  | os => "OSError"
  | timeout => "TimeoutError"
  | fileNotFound => "FileNotFoundError"
  | fileExists => "FileExistsError"
  | notADirectory => "NotADirectoryError"
  | isADirectory => "IsADirectoryError"
  | permission => "PermissionError"
  | connection => "ConnectionError"
  | connectionRefused => "ConnectionRefusedError"
  | connectionReset => "ConnectionResetError"
  | value => "ValueError"
  | runtime => "RuntimeError"
  | recursion => "RecursionError"
  | notImplemented => "NotImplementedError"
  | index => "IndexError"
  | key => "KeyError"
  | type => "TypeError"
  | missingAttribute => "AttributeError"
  | arithmetic => "ArithmeticError"
  | overflow => "OverflowError"
  | zeroDivision => "ZeroDivisionError"
  | memory => "MemoryError"
  | duplicateSeries => "DuplicateTimeseries"
  | discovery => "DiscoveryError"
  | configuration => "ConfigurationError"
  | duplicateTable => "DuplicateTableError"
  | tableListTimeout => "TableListTimeoutError"
  | transientDiscovery => "TransientDiscoveryError"
  | driver _ f => f.label

/-- Where a kind is defined: nowhere in particular, in the program that runs, or in a library. -/
inductive Origin
  | general
  | program
  | library (name : String)
deriving DecidableEq, Repr

/-- Where a kind is defined. No library comes with the second driver, so that its kinds belong to
the program itself. -/
def origin : Kind → Origin
  | driver .postgres _ => .library Driver.postgres.label
  | driver .odbc _ => .program
  | k => if k.isA discovery then .library "discovery.errors" else .general

/-- The name of a kind with its origin, if it has one. -/
def qualifiedLabel (k : Kind) : String :=
  match k.origin with
  | .general => k.label
  | .program => "__main__." ++ k.label
  | .library name => name ++ "." ++ k.label

/-- The name of a kind in a trace: only a library is named. -/
def shownLabel (k : Kind) : String :=
  match k.origin with
  | .library name => name ++ "." ++ k.label
  | _ => k.label

/-- All kinds that are no driver's. -/
def general : List Kind :=
  [interrupt, exception, os, timeout, fileNotFound, fileExists, notADirectory, isADirectory,
    permission, connection, connectionRefused, connectionReset, value, runtime, recursion,
    notImplemented, index, key, type, missingAttribute, arithmetic, overflow, zeroDivision, memory,
    discovery, configuration, duplicateTable, tableListTimeout, transientDiscovery]

/-- All kinds of a driver with their names, which begin with the name of the driver. -/
def ofDriver (d : Driver) : List (String × Kind) :=
  [.error, .warning, .interface, .operational, .programming, .data, .internal].map fun f =>
    (d.label ++ "." ++ f.label, driver d f)

/-- The kind with a name; a driver's kind is named with its driver. -/
def ofLabel? (s : String) : Option Kind :=
  (general.find? (·.label = s)).or
    ((ofDriver .postgres ++ ofDriver .odbc).lookup s)

end Kind

end TableDiscovery
