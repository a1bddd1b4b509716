import TableDiscovery.Logs.Record

/-!
# Records for readers

A record becomes a line with time, level, thread, logger and message, followed by the failure in
words. The console also shows the extra attributes, and the level in a colour on a terminal.

* `PlainFormat.format`: the line in a file;
* `ConsoleFormat.shownLevel`, `ConsoleFormat.format`: the level and the line on the console.
-/

namespace TableDiscovery

namespace PlainFormat

/-- The time of a record for readers. -/
def timeText (r : Record) : Except Fault String := do
  let moment ← (Moment.floor r.created).mapError .moment
  (moment.secondText).mapError .moment

/-- Two texts, the second one on a new line. -/
def onNewLine (s more : List Text.CodePoint) : List Text.CodePoint :=
  if s.getLast? = some (.ofChar '\n') then s ++ more else s ++ .ofChar '\n' :: more

/-- A text with a value on a new line, which has to be a text too. -/
def join (s : List Text.CodePoint) : Option Record.Value → Except Fault (List Text.CodePoint)
  | none => .ok s
  | some (.text more) => .ok (onNewLine s more)
  | some (.json (.str more)) => .ok (onNewLine s (Text.points more))
  | some (.json v) => .error (.notJoinable v.typeName)

/-- The failure of a record in words that was attached to it or noted on it. -/
def notedFailure? (r : Record) : Option Record.Value :=
  (Assoc.get? r.attributes "exc_text").filter fun
    | .json v => !Record.isEmpty v
    | .text points => !points.isEmpty

/-- The record with its failure in words noted on it, unless there are such words already. -/
def noteFailure (r : Record) : Except Fault Record :=
  match notedFailure? r, r.failure with
  | none, some f => f.text.map fun s => r.note "exc_text" (.json (.str s))
  | _, _ => .ok r

/-- The beginning of a line, with the message and the time that are noted on the record. -/
def head (r : Record) (time : String) (message : List Text.CodePoint) :
    Except Fault (List Text.CodePoint) := do
  let level ← r.shown r.levelName
  let thread ← r.shown r.thread
  let name ← r.shown r.name
  return Text.points (time ++ " [" ++ level ++ "] " ++ thread ++ " " ++ name ++ ": ") ++ message

/-- The line of a record, and the record with message, time and failure noted on it. What has been
worked out before a fault is noted too. -/
def format (r : Record) : Except Fault (List Text.CodePoint) × Record :=
  match r.message with
  | .error f => (.error f, r)
  | .ok message =>
    let r := r.note "message" (.text message)
    match timeText r with
    | .error f => (.error f, r)
    | .ok time =>
      let r := r.note "asctime" (.json (.str time))
      match head r time message with
      | .error f => (.error f, r)
      | .ok line =>
        match noteFailure r with
        | .error f => (.error f, r)
        | .ok r => ((join line (notedFailure? r)).bind (join · (r.stack.map .json)), r)

end PlainFormat

/-- Whether levels are coloured. -/
structure ConsoleFormat where
  colours : Bool
deriving DecidableEq, Repr

namespace ConsoleFormat

/-- The colours of the levels, as terminal codes. -/
def colourCodes : Assoc String String :=
  [("DEBUG", "36"), ("INFO", "32"), ("WARNING", "33"), ("ERROR", "31"), ("CRITICAL", "35")]

/-- A text in a colour. -/
def coloured (code s : String) : String := "\x1b[" ++ code ++ "m" ++ s ++ "\x1b[0m"

/-- A level as the console names it: in its colour if there are colours. No colour is looked up for
lists and objects. -/
def shownLevel (c : ConsoleFormat) (level : Json) : Except Fault Json :=
  match level with
  | .str s =>
    .ok (.str (if c.colours then (Assoc.get? colourCodes s).elim s fun code => coloured code s
      else s))
  | .arr _ | .obj _ => if c.colours then .error (.notAKey level.typeName) else .ok level
  | v => .ok v

/-- The shown attributes in brackets. -/
def contextText (r : Record) : Except Fault (List Text.CodePoint) :=
  if r.context.isEmpty then .ok []
  else do
    let parts ← r.context.mapM fun p => do return Text.points (p.1 ++ "=") ++ (← r.shownValue p.2)
    return Text.points " [" ++ (Text.points ", ").intercalate parts ++ Text.points "]"

/-- The line of a record on the console, and the record with what was noted on it. The level bears
the name that is shown while the line is made; then it has its own again, after a fault too. -/
def format (c : ConsoleFormat) (r : Record) : Except Fault (List Text.CodePoint) × Record :=
  match c.shownLevel r.levelName with
  | .error f => (.error f, r)
  | .ok level =>
    let (text, noted) := PlainFormat.format { r with levelName := level }
    let restored := { noted with levelName := r.levelName }
    ((do return (← text) ++ (← contextText restored)), restored)

end ConsoleFormat

end TableDiscovery
