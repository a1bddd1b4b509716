import TableDiscovery.Assoc
import TableDiscovery.Table

/-!
# Snapshots

A snapshot holds the tables of one poll that pass the filter, and the bare names that more than
one of them has, each with its tables.

* `Snapshot.group`: the tables under their bare names, in order of first appearance;
* `Snapshot`, `Snapshot.ofTables`.
-/

namespace TableDiscovery

/-- The tables of one poll and the groups of those that share a bare name. -/
structure Snapshot where
  tables : List Table
  duplicates : List (String × List Table)
deriving DecidableEq

namespace Snapshot

/-- The tables under their bare names. -/
def group (tables : List Table) : Assoc String (List Table) :=
  tables.foldl (fun groups t => groups.alter t.name [] (· ++ [t])) []

/-- The snapshot of a filtered listing. -/
def ofTables (tables : List Table) : Snapshot :=
  ⟨tables, (group tables).filter fun g => 1 < g.2.length⟩

end Snapshot

end TableDiscovery
