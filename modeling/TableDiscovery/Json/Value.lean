import TableDiscovery.Assoc
import TableDiscovery.Kind
import TableDiscovery.Number.Shortest
import TableDiscovery.Text.Integer
import TableDiscovery.Text.Quoted

/-!
# Values

The values of structured data: what a log call attaches to its record, what a span attribute holds
and what a JSON text denotes. Objects keep the order of their fields. A value is written only if
its integers are not too long and the stack has room for the levels of values inside it.

* `Json`;
* `Json.literal`: the value shown inside another one;
* `Json.Unwritable`, `Json.Writing`, `Json.obstacle?`: what keeps a value from being written;
* `Json.literal?`, `Json.display?`: the value shown inside another one and on its own, if it can be.
-/

namespace TableDiscovery

/-- A value of structured data. -/
inductive Json
  | null
  | bool (value : Bool)
  | int (value : Int)
  | float (value : Float)
  | str (value : String)
  | arr (items : List Json)
  | obj (fields : List (String × Json))
deriving Inhabited

namespace Json

/-- The word for a truth value. -/
def boolWord (b : Bool) : String := if b then "True" else "False"

mutual

/-- A value as it is shown inside another one: texts are quoted. -/
def literal : Json → String
  | null => "None"
  | bool b => boolWord b
  | int n => toString n
  | float x => Number.shortest x
  | str s => Text.quoted s
  | arr items => "[" ++ ", ".intercalate (literals items) ++ "]"
  | obj fields => "\x7b" ++ ", ".intercalate (fieldLiterals fields) ++ "\x7d"

/-- The items of a list, each as a literal. -/
def literals : List Json → List String
  | [] => []
  | v :: rest => literal v :: literals rest

/-- The fields of an object, each with its quoted name. -/
def fieldLiterals : List (String × Json) → List String
  | [] => []
  | (k, v) :: rest => (Text.quoted k ++ ": " ++ literal v) :: fieldLiterals rest

end

/-! ## Values that cannot be written -/

/-- Why a value cannot be written. -/
inductive Unwritable
  | tooManyDigits
  | tooDeep (task : String)
deriving DecidableEq, Repr

/-- The kind of failure of a value that cannot be written. -/
def Unwritable.kind : Unwritable → Kind
  | tooManyDigits => .value
  | tooDeep _ => .recursion

/-- What is said about a value that cannot be written. -/
def Unwritable.message : Unwritable → String
  | tooManyDigits =>
    "Exceeds the limit (4300 digits) for integer string conversion; " ++
      "use sys.set_int_max_str_digits() to increase the limit"
  | tooDeep task => "maximum recursion depth exceeded while " ++ task

/-- A way of writing values: what it is called, and whether values without members take a level of
the stack too. -/
structure Writing where
  task : String
  countsLeaves : Bool
deriving DecidableEq, Repr

/-- Writing literals. -/
def Writing.literal : Writing := ⟨"getting the repr of an object", true⟩

mutual

/-- What keeps a value from being written with room for some levels: what is met first. -/
def obstacle? (w : Writing) (room : Nat) : Json → Option Unwritable
  | arr items => if room = 0 then some (.tooDeep w.task) else itemsObstacle? w (room - 1) items
  | obj fields => if room = 0 then some (.tooDeep w.task) else fieldsObstacle? w (room - 1) fields
  | int n =>
    if w.countsLeaves && room = 0 then some (.tooDeep w.task)
    else if (Text.writeInt? n).isNone then some .tooManyDigits
    else none
  | _ => if w.countsLeaves && room = 0 then some (.tooDeep w.task) else none

/-- What keeps the items of a list from being written. -/
def itemsObstacle? (w : Writing) (room : Nat) : List Json → Option Unwritable
  | [] => none
  | v :: rest => (obstacle? w room v).or (itemsObstacle? w room rest)

/-- What keeps the fields of an object from being written. -/
def fieldsObstacle? (w : Writing) (room : Nat) : List (String × Json) → Option Unwritable
  | [] => none
  | (_, v) :: rest => (obstacle? w room v).or (fieldsObstacle? w room rest)

end

/-- A value as it is shown inside another one, if the stack has room for the levels below it. -/
def literal? (room : Nat) (v : Json) : Except Unwritable String :=
  (obstacle? .literal (room + 1) v).elim (.ok v.literal) .error

/-- A value shown on its own, if the stack has room for the levels below it: a text stands for
itself. -/
def display? (room : Nat) : Json → Except Unwritable String
  | str s => .ok s
  | v => literal? room v

/-- The name of the kind of a value, as error messages give it. -/
def typeName : Json → String
  | null => "NoneType"
  | bool _ => "bool"
  | int _ => "int"
  | float _ => "float"
  | str _ => "str"
  | arr _ => "list"
  | obj _ => "dict"

/-- A field of an object. -/
def field? (v : Json) (key : String) : Option Json :=
  match v with
  | obj fields => Assoc.get? fields key
  | _ => none

/-- A text or nothing. -/
def ofText? : Option String → Json
  | some s => str s
  | none => null

/-- A list of texts. -/
def ofTexts (xs : List String) : Json := arr (xs.map str)

end Json

end TableDiscovery
