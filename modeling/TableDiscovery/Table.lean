import TableDiscovery.Text.Replace

/-!
# Tables

A table is identified by catalog, schema and name. The name is never empty; catalog and schema may
be absent.

* `Table`, `Table.of?`: identifiers, and the one with given parts if the name is not empty;
* `Table.parts`, `Table.plain`, `Table.qualified`: the parts that are present, joined by points
  as they are or between quotes;
* `Table.before`, `Table.sorted`: the order by catalog, schema and name.
-/

namespace TableDiscovery

/-- The identifier of a table. -/
structure Table where
  catalog : Option String
  schema : Option String
  name : String
  name_ne : name ≠ ""
deriving DecidableEq

/-- The marks around a quoted name. -/
structure Quotes where
  opening : String
  closing : String
deriving DecidableEq, Repr

/-- The double quotes of standard SQL. -/
def Quotes.standard : Quotes := ⟨"\"", "\""⟩

/-- Marks whose closing one, if missing or empty, is the opening one. -/
def Quotes.of (opening : String) (closing : Option String) : Quotes :=
  match closing with
  | some c => ⟨opening, if c = "" then opening else c⟩
  | none => ⟨opening, opening⟩

/-- A name between quotes; a closing quote inside is written twice. -/
def Quotes.around (q : Quotes) (part : String) : String :=
  q.opening ++ Text.replaceAll q.closing (q.closing ++ q.closing) part ++ q.closing

namespace Table

/-- The table with given parts, unless its name is empty. -/
def of? (catalog schema : Option String) (name : String) : Option Table :=
  if h : name ≠ "" then some ⟨catalog, schema, name, h⟩ else none

/-- The parts that are present and not empty. -/
def parts (t : Table) : List String :=
  ((t.catalog.toList ++ t.schema.toList).filter (· ≠ "")) ++ [t.name]

/-- The parts as they are, joined by points. -/
def plain (t : Table) : String := ".".intercalate t.parts

/-- The parts between quotes, joined by points. -/
def qualified (t : Table) (q : Quotes := Quotes.standard) : String :=
  ".".intercalate (t.parts.map q.around)

instance : ToString Table := ⟨fun t => t.qualified⟩

/-- What tables are ordered by: an absent catalog or schema counts as empty. -/
def sortKey (t : Table) : String × String × String :=
  (t.catalog.getD "", t.schema.getD "", t.name)

/-- The order by catalog, then schema, then name. -/
def before (a b : Table) : Bool :=
  let x := a.sortKey
  let y := b.sortKey
  x.1 < y.1 || (x.1 == y.1 && (x.2.1 < y.2.1 || (x.2.1 == y.2.1 && x.2.2 < y.2.2)))

/-- The tables in order; those with equal keys keep theirs. -/
def sorted (ts : List Table) : List Table := ts.mergeSort fun a b => !b.before a

end Table

end TableDiscovery
