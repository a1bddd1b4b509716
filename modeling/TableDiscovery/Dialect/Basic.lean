import TableDiscovery.Fault
import TableDiscovery.Text.Case
import TableDiscovery.Text.Blank

/-!
# Dialects

A dialect says how a database quotes names, marks parameters and hides its own schemas, which
failures of its driver are transient, and how the connector reaches it.

* `Dialect.System`: the databases, with what is fixed for each;
* `Dialect`, `Dialect.make`: a system with URL, credentials and what to list;
* `Dialect.render`, `Dialect.renderList`: the names of tables in the dialect;
* `Dialect.transientKinds`, `Dialect.isTransient`: which faults another poll may mend;
* `Dialect.find`: the dialect for a URL or an explicit name.
-/

namespace TableDiscovery

/-- The database systems. The generic one renders names and cannot connect. -/
inductive Dialect.System
  | postgres
  | sqlServer
  | generic
deriving DecidableEq, Repr

/-- A system, where to reach it and which tables to list. -/
structure Dialect where
  system : Dialect.System
  url : String
  user : Option String
  password : Option String
  tableTypes : List String
  schemaPattern : Option String
deriving DecidableEq, Repr

namespace Dialect

namespace System

/-- The name of a system. -/
def label : System → String
  | postgres => "postgresql"
  | sqlServer => "sqlserver"
  | generic => "generic"

/-- The name of the dialect of a system. -/
def dialectLabel : System → String
  | postgres => "PostgresDialect"
  | sqlServer => "SqlServerDialect"
  | generic => "DatabaseDialect"

/-- The marks around names. -/
def quotes : System → Quotes
  | sqlServer => ⟨"[", "]"⟩
  | _ => Quotes.standard

/-- What stands for a parameter in a query. -/
def placeholder : System → String
  | sqlServer => "?"
  | _ => "%s"

/-- The schemas of the system itself, which are not listed. -/
def ownSchemas : System → List String
  | postgres => ["pg_catalog", "information_schema"]
  | sqlServer => ["INFORMATION_SCHEMA", "sys"]
  | generic => ["information_schema"]

/-- The driver of a system. -/
def driver? : System → Option Driver
  | postgres => some .postgres
  | sqlServer => some .odbc
  | generic => none

/-- The system with a name in lower case. -/
def ofName? (name : String) : Option System :=
  Assoc.get? [("postgresql", postgres), ("postgres", postgres), ("sqlserver", sqlServer),
    ("mssql", sqlServer)] name

/-- The system that an explicit name asks for, in any case, or by the name of its dialect. -/
def ofExplicit? (name : String) : Option System :=
  (ofName? (Text.lower name)).or
    (([postgres, sqlServer] : List System).find? fun s => s.dialectLabel = name)

end System

/-- What may be said about a dialect beside its URL. -/
structure Options where
  user : Option String := none
  password : Option String := none
  tableTypes : List String := ["TABLE"]
  schemaPattern : Option String := none
deriving DecidableEq, Repr

/-- Table types without blank ones, trimmed and in upper case. -/
def normalTypes (types : List String) : List String :=
  ((types.map Text.strip).filter (· ≠ "")).map Text.upper

/-- A dialect with normalised table types. -/
def make (system : System) (url : String) (o : Options) : Dialect :=
  ⟨system, url, o.user, o.password, normalTypes o.tableTypes, o.schemaPattern⟩

/-- The name of the database. -/
def name (d : Dialect) : String := d.system.label

instance : ToString Dialect :=
  ⟨fun d => d.system.dialectLabel ++ "(name=" ++ Text.quoted d.name ++ ")"⟩

/-- The name of a table in quotes. -/
def render (d : Dialect) (t : Table) : String := t.qualified d.system.quotes

/-- The names of tables in quotes, with a delimiter between them. -/
def renderList (d : Dialect) (ts : List Table) (delimiter : String := ",") : String :=
  delimiter.intercalate (ts.map d.render)

/-- The kinds of failure that another attempt or poll may mend. -/
def transientKinds (d : Dialect) : List Kind :=
  (d.system.driver?.map fun r => Kind.driver r .error).toList ++
    [.connection, .os, .transientDiscovery]

/-- Whether another attempt or poll may mend a fault. -/
def isTransient (d : Dialect) (f : Fault) : Bool := f.isAnyOf d.transientKinds

/-- The kinds of failure of a probe that only mean that a connection is stale. -/
def probeKinds (d : Dialect) : List Kind :=
  match d.system with
  | .postgres => [.driver .postgres .error, .driver .postgres .warning]
  | _ => d.transientKinds

/-- The system that a URL or, before it, an explicit name asks for. -/
def System.find (url : String) (name : Option String) : Except Fault System :=
  match name.filter (· ≠ "") with
  | some name =>
    match System.ofExplicit? name with
    | some s => .ok s
    | none => .error (.unknownDialect name)
  | none =>
    match Url.parse url with
    | .error cause => .error (.url cause)
    | .ok parsed =>
      match System.ofName? parsed.scheme with
      | some s => .ok s
      | none => .error (.noDialectFor parsed.scheme)

/-- The dialect for a URL, or by an explicit name. -/
def find (url : String) (name : Option String) (o : Options) : Except Fault Dialect :=
  (System.find url name).map fun s => make s url o

end Dialect

end TableDiscovery
