import TableDiscovery.Json.Writer
import TableDiscovery.Logs.Record

/-!
# Records as JSON

For log shipping a record becomes one line with a JSON object: the standard fields, the failure if
there is one, and the attributes that are shown under a field of their own. Nothing is written
unless all of it can be.

* `JsonFormat`, `JsonFormat.Member`: what a line shows, and a member of its object;
* `JsonFormat.members`: the members for a record;
* `JsonFormat.line?`: the line of some members, if they can be written;
* `JsonFormat.format`: the line of a record.
-/

namespace TableDiscovery

/-- What a JSON line shows beside the record. -/
structure JsonFormat where
  showsTime : Bool := true
  showsHost : Bool := true
  appName : String := "source-table-discovery"
  hostName : String
deriving DecidableEq, Repr

/-- A member of the object of a line: a value of an attribute, or several by name. -/
inductive JsonFormat.Member
  | value (v : Record.Value)
  | values (fields : List (String × Record.Value))

namespace JsonFormat

/-- The time of a record for machines. -/
def timeText (r : Record) : Except Fault String := do
  let moment ← (Moment.nearest r.created).mapError .moment
  (moment.exactText).mapError .moment

/-- The failure of a record: its kind, its message and a trace of one line. -/
def failureFields (f : Fault) : Json :=
  .obj [("type", .str f.kind.label), ("message", .str f.message),
    ("traceback", .arr [.str (Record.faultLine f ++ "\n")])]

/-- The fields after the message and before the attributes that are shown. -/
def laterFields (j : JsonFormat) (r : Record) : Except Fault (List (String × Json)) := do
  let time ← if j.showsTime then pure [("timestamp", Json.str (← timeText r))] else pure []
  let host := if j.showsHost && j.hostName ≠ "" then [("hostname", Json.str j.hostName)] else []
  let fault ← match r.failure with
    | some f => f.fault?
    | none => pure none
  let failure := fault.map fun f => ("exception", failureFields f)
  return [("app", .str j.appName), ("thread", r.thread)] ++ time ++ host ++
    [("source", .obj [("file", r.path), ("line", r.line), ("function", r.function)])] ++
    failure.toList

/-- A field as a member. -/
def plain (field : String × Json) : String × Member := (field.1, .value (.json field.2))

/-- The members of the object for a record, in their order. -/
def members (j : JsonFormat) (r : Record) : Except Fault (List (String × Member)) := do
  let message ← r.message
  let later ← j.laterFields r
  let context := if r.context.isEmpty then [] else [("context", Member.values r.context)]
  return [("level", r.levelName), ("logger", r.name)].map plain ++
    ("message", .value (.text message)) :: later.map plain ++ context

/-! ## Lines -/

/-- The text of an attribute. -/
def writeValue : Record.Value → String
  | .json v => v.write
  | .text points => Json.pointString points

/-- The text of a member. -/
def Member.write : Member → String
  | value v => writeValue v
  | values fields => Json.object (fields.map fun p => (p.1, writeValue p.2))

/-- What keeps an attribute from being written with room for some levels. -/
def valueObstacle? (room : Nat) : Record.Value → Option Json.Unwritable
  | .json v => Json.obstacle? .text room v
  | .text _ => none

/-- What keeps a member from being written with room for some levels. -/
def Member.obstacle? (room : Nat) : Member → Option Json.Unwritable
  | value v => valueObstacle? room v
  | values fields =>
    if room = 0 then some (.tooDeep Json.Writing.text.task)
    else fields.findSome? fun p => valueObstacle? (room - 1) p.2

/-- The line of the object with some members, if the stack has room for the levels below it. -/
def line? (room : Nat) (members : List (String × Member)) : Except Json.Unwritable String :=
  (members.findSome? fun p => p.2.obstacle? room).elim
    (.ok (Json.object (members.map fun p => (p.1, p.2.write)))) .error

/-- The line of a record, and the record, on which nothing is noted. -/
def format (j : JsonFormat) (r : Record) : Except Fault String × Record :=
  (do (line? r.room (← j.members r)).mapError .ofUnwritable, r)

end JsonFormat

end TableDiscovery
