/-!
# Log levels

* `Level`, `Level.value`, `Level.label`: the levels of the connector's own records;
* `Level.nameOf`: the name of any numeric level;
* `Level.ofWord?`: the numeric level that a word asks for.
-/

namespace TableDiscovery

/-- The levels at which the connector logs. -/
inductive Level
  | debug
  | info
  | warning
  | error
deriving DecidableEq, Repr

namespace Level

/-- The numeric level. -/
def value : Level → Int
  | debug => 10
  | info => 20
  | warning => 30
  | error => 40

/-- The name of a level. -/
def label : Level → String
  | debug => "DEBUG"
  | info => "INFO"
  | warning => "WARNING"
  | error => "ERROR"

/-- The numeric levels that have a name. -/
def named : List (Int × String) :=
  [(50, "CRITICAL"), (40, "ERROR"), (30, "WARNING"), (20, "INFO"), (10, "DEBUG"), (0, "NOTSET")]

/-- The name of a numeric level. -/
def nameOf (n : Int) : String := (named.lookup n).getD ("Level " ++ toString n)

/-- The level that a word in upper case asks for; two levels have a second word. -/
def ofWord? (word : String) : Option Int :=
  ([("CRITICAL", 50), ("FATAL", 50), ("ERROR", 40), ("WARNING", 30), ("WARN", 30), ("INFO", 20),
    ("DEBUG", 10), ("NOTSET", 0)] : List (String × Int)).lookup word

end Level

end TableDiscovery
