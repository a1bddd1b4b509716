import TableDiscovery.Dialect.Basic

/-!
# The listing query

Tables are listed by one query on the information schema. Its text depends only on the system, on
how many table types are asked for and on whether there is a schema pattern; the values travel as
parameters.

* `Dialect.System.listingText`, `Dialect.listingParameters`: text and parameters;
* `Dialect.tableOfRow`: the table that a row names.
-/

namespace TableDiscovery.Dialect

/-- The name that the information schema has for a table type. -/
def typeName (type : String) : String := if type = "TABLE" then "BASE TABLE" else type

/-- A number of placeholders. -/
def System.placeholders (s : System) (count : Nat) : String :=
  ", ".intercalate (List.replicate count s.placeholder)

/-- What restricts the listing further: partitions are read through their parent. -/
def System.extraConditions : System → String
  | .postgres =>
    " AND NOT EXISTS (SELECT 1 FROM pg_catalog.pg_class c " ++
      "JOIN pg_catalog.pg_namespace n ON n.oid = c.relnamespace " ++
      "WHERE n.nspname = t.table_schema AND c.relname = t.table_name AND c.relispartition)"
  | _ => ""

/-- The text of the query for a number of table types, with or without a schema pattern. -/
def System.listingText (s : System) (types : Nat) (hasPattern : Bool) : String :=
  "SELECT table_catalog, table_schema, table_name FROM information_schema.tables t " ++
    "WHERE table_type IN (" ++ s.placeholders types ++ ") " ++
    "AND table_schema NOT IN (" ++ s.placeholders s.ownSchemas.length ++ ")" ++
    (if hasPattern then " AND table_schema LIKE " ++ s.placeholder else "") ++
    s.extraConditions ++ " ORDER BY table_catalog, table_schema, table_name"

/-- The schema pattern unless it is empty. -/
def activePattern? (d : Dialect) : Option String := d.schemaPattern.filter (· ≠ "")

/-- The text of the query. -/
def listingText (d : Dialect) : String :=
  d.system.listingText d.tableTypes.length d.activePattern?.isSome

/-- The values for the placeholders, in their order. -/
def listingParameters (d : Dialect) : List String :=
  d.tableTypes.map typeName ++ d.system.ownSchemas ++ d.activePattern?.toList

/-- The table types in parentheses, a single one with a comma. -/
def typesText (d : Dialect) : String :=
  match d.tableTypes with
  | [t] => "(" ++ Text.quoted t ++ ",)"
  | ts => "(" ++ ", ".intercalate (ts.map Text.quoted) ++ ")"

/-- A row of a listing: the columns, of which the first three are catalog, schema and name. -/
abbrev Row := List (Option String)

/-- The table that a row names. Where a connection is bound to one database, the catalog is left
out. -/
def tableOfRow (d : Dialect) : Row → Except Fault Table
  | catalog :: schema :: name :: _ =>
    match Table.of? (if d.system = .postgres then none else catalog) schema (name.getD "") with
    | some t => .ok t
    | none => .error .emptyTableName
  | _ => .error .rowTooShort

/-- The tables of all rows. -/
def tablesOfRows (d : Dialect) (rows : List Row) : Except Fault (List Table) :=
  rows.mapM d.tableOfRow

end TableDiscovery.Dialect
