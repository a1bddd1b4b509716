import TableDiscovery.Dialect.Basic

/-!
# Table filters

A filter keeps the tables that one of its names matches, or drops them, or keeps all. A name
matches a table by its quoted or plain qualified name or its bare name. The two kinds of list
exclude each other, and neither goes with a query.

* `Filter.Mode`, `Filter`, `Filter.Settings`;
* `Filter.ofSettings`: the filter of some settings;
* `Filter.holds`, `Filter.apply`: the tables that pass;
* `Filter.hint`: the setting that narrows the tables.
-/

namespace TableDiscovery

/-- How the names are applied. -/
inductive Filter.Mode
  | allow
  | deny
  | all
deriving DecidableEq, Repr

/-- Names with the way to apply them. With a query no table passes. -/
structure Filter where
  mode : Filter.Mode := .all
  names : List String := []
  queryMode : Bool := false
  whitelistSetting : String := "table.whitelist"
  blacklistSetting : String := "table.blacklist"
deriving DecidableEq, Repr

namespace Filter

/-- The name of a mode. -/
def Mode.label : Mode → String
  | allow => "allow"
  | deny => "deny"
  | all => "all"

/-- Lists and query of a filter, and the names of the settings that they come from. -/
structure Settings where
  whitelist : List String := []
  blacklist : List String := []
  query : String := ""
  whitelistSetting : String := "table.whitelist"
  blacklistSetting : String := "table.blacklist"
  querySetting : String := "query"
deriving DecidableEq, Repr

/-- The entries of a list that are not blank, trimmed. -/
def entries (names : List String) : List String := (names.map Text.strip).filter (· ≠ "")

/-- The filter of some settings. Blank entries and a blank query count as absent. -/
def ofSettings (s : Settings) : Except Fault Filter :=
  let allowed := entries s.whitelist
  let denied := entries s.blacklist
  let filter (mode : Mode) (names : List String) (queryMode : Bool) : Filter :=
    ⟨mode, names, queryMode, s.whitelistSetting, s.blacklistSetting⟩
  if allowed ≠ [] ∧ denied ≠ [] then
    .error (.exclusiveLists s.whitelistSetting s.blacklistSetting)
  else if Text.strip s.query ≠ "" then
    if allowed ≠ [] ∨ denied ≠ [] then .error (.queryWithLists s.querySetting)
    else .ok (filter .allow [] true)
  else if allowed ≠ [] then .ok (filter .allow allowed false)
  else if denied ≠ [] then .ok (filter .deny denied false)
  else .ok (filter .all [] false)

/-- Whether one of the names is a spelling of the table's name. -/
def holds (f : Filter) (d : Dialect) (t : Table) : Bool :=
  f.names.contains t.plain || f.names.contains (d.render t) || f.names.contains t.name

/-- Whether a table passes. -/
def passes (f : Filter) (d : Dialect) (t : Table) : Bool :=
  match f.mode with
  | .allow => f.holds d t
  | .deny => !f.holds d t
  | .all => true

/-- The tables that pass, in their order. -/
def apply (f : Filter) (d : Dialect) (ts : List Table) : List Table := ts.filter (f.passes d)

/-- The setting that a user has to narrow. -/
def hint (f : Filter) : String :=
  let whitelist := "'" ++ f.whitelistSetting ++ "'"
  let blacklist := "'" ++ f.blacklistSetting ++ "'"
  match f.mode with
  | .allow => whitelist
  | .deny => blacklist
  | .all => whitelist ++ " or " ++ blacklist

/-- The names in order, each once. -/
def sortedNames (f : Filter) : List String :=
  f.names.eraseDups.mergeSort fun a b => !(b < a)

end Filter

end TableDiscovery
