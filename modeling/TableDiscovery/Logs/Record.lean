import TableDiscovery.Fault
import TableDiscovery.Logs.Level

/-!
# Log records

A record carries a message with arguments, where and when it was logged, perhaps a failure, and
further attributes by name. An attribute that a call attaches replaces a standard one of its name,
whatever its value. Formatters keep what they have worked out as further attributes of the record,
among those that calls attach; only the names tell them apart.

* `Record`, `Record.Value`: records, and what their further attributes hold;
* `Record.attach`, `Record.note`: attributes attached to a record, and noted on it;
* `Record.taken?`: an attribute that a call must not attach;
* `Record.isShown`, `Record.context`: the attributes that are shown;
* `Record.message`: the message with its arguments filled in;
* `Record.Failure`, `Record.Failure.text`: the failure, and the failure in words.
-/

namespace TableDiscovery

/-- What a further attribute holds: a value, or a text in which surrogates may stand. -/
inductive Record.Value
  | json (v : Json)
  | text (points : List Text.CodePoint)

/-- What a record holds as its failure: a fault, or a value in its place. Such a value is read as a
list of kind, failure and trace. -/
inductive Record.Failure
  | fault (fault : Fault)
  | value (v : Json)

/-- A log record. While it is formatted the stack has room for some levels of values inside
others. -/
structure Record where
  name : Json
  levelName : Json
  thread : Json
  path : Json
  line : Json
  function : Json
  created : Json
  template : Json
  arguments : Template.Arguments
  failure : Option Record.Failure := none
  stack : Option Json := none
  attributes : Assoc String Record.Value := []
  room : Nat := 900

namespace Record

/-- The names of the standard attributes. -/
def standardNames : List String :=
  ["name", "msg", "args", "created", "filename", "funcName", "levelname", "levelno", "lineno",
    "module", "msecs", "message", "pathname", "process", "processName", "relativeCreated", "thread",
    "threadName", "exc_info", "exc_text", "stack_info", "taskName", "asctime"]

/-- Whether a value counts as absent. -/
def isEmpty : Json → Bool
  | .null => true
  | .bool b => !b
  | .int n => n = 0
  | .float x => x == 0.0
  | .str s => s = ""
  | .arr items => items.isEmpty
  | .obj fields => fields.isEmpty

/-- A value, unless it counts as absent. -/
def present? (v : Json) : Option Json := if isEmpty v then none else some v

/-- Sets a further attribute. -/
def note (r : Record) (key : String) (v : Value) : Record :=
  { r with attributes := Assoc.put r.attributes key v }

/-- Attaches an attribute. -/
def attach (r : Record) (key : String) (v : Json) : Record :=
  match key with
  | "name" => { r with name := v }
  | "levelname" => { r with levelName := v }
  | "threadName" => { r with thread := v }
  | "pathname" => { r with path := v }
  | "lineno" => { r with line := v }
  | "funcName" => { r with function := v }
  | "created" => { r with created := v }
  | "msg" => { r with template := v }
  | "args" => { r with arguments := (present? v).elim ⟨[], .none⟩ .ofValue }
  | "exc_info" => { r with failure := (present? v).map .value }
  | "stack_info" => { r with stack := present? v }
  | _ => r.note key (.json v)

/-- Attaches attributes in their order. -/
def attachAll (r : Record) (attributes : List (String × Json)) : Record :=
  attributes.foldl (fun r p => r.attach p.1 p.2) r

/-- The standard attribute that one of some attributes would replace. A call may not attach such a
one, save that of a task, which not every record carries. -/
def taken? (attributes : List (String × Json)) : Option String :=
  (attributes.map (·.1)).find? fun key => standardNames.contains key && key ≠ "taskName"

/-- Whether an attribute with a name is shown: it is neither standard nor private. -/
def isShown (name : String) : Bool :=
  !standardNames.contains name && name.toList.head? ≠ some '_'

/-- The further attributes that are shown. -/
def context (r : Record) : List (String × Value) := r.attributes.filter fun p => isShown p.1

/-- A value as a text of its own. -/
def shown (r : Record) (v : Json) : Except Fault String :=
  (v.display? r.room).mapError .ofUnwritable

/-- A further attribute as a text of its own. -/
def shownValue (r : Record) : Value → Except Fault (List Text.CodePoint)
  | .json v => (r.shown v).map Text.points
  | .text points => .ok points

/-- The message with its arguments filled in. -/
def message (r : Record) : Except Fault (List Text.CodePoint) := do
  (Template.fill r.room (← r.shown r.template) r.arguments).mapError .template

/-- A fault in words: its kind, and its message if there is one. -/
def faultLine (f : Fault) : String :=
  if f.message = "" then f.kind.shownLabel else f.kind.shownLabel ++ ": " ++ f.message

/-- What a list of kind, failure and trace says in words: failure and trace must be absent. -/
def textOfItems : List Json → Except Fault String
  | _ :: .null :: .null :: _ => .ok "NoneType: None"
  | _ :: v :: .null :: _ => .error (.missingMember v.typeName "__suppress_context__")
  | _ :: _ :: trace :: _ => .error (.missingMember trace.typeName "tb_frame")
  | _ => .error (.noSuchItem "list")

/-- The failure of a record in words. -/
def Failure.text : Failure → Except Fault String
  | .fault f => .ok (faultLine f)
  | .value (.arr items) => textOfItems items
  | .value (.obj _) => .error (.noSuchField 2)
  | .value (.str s) =>
    if s.length < 3 then .error (.noSuchItem "string")
    else .error (.missingMember "str" "tb_frame")
  | .value v => .error (.withoutItems v.typeName)

/-- The fault that is the failure of a record. A list may name no kind, and then there is none. -/
def Failure.fault? : Failure → Except Fault (Option Fault)
  | .fault f => .ok (some f)
  | .value (.arr (.null :: _)) => .ok none
  | .value (.arr (kind :: _)) => .error (.missingMember kind.typeName "__name__")
  | .value (.arr []) => .error (.noSuchItem "list")
  | .value (.obj _) => .error (.noSuchField 0)
  | .value (.str _) => .error (.missingMember "str" "__name__")
  | .value v => .error (.withoutItems v.typeName)

end Record

end TableDiscovery
