import TableDiscovery.Logs.ConsoleFormat
import TableDiscovery.Logs.Files
import TableDiscovery.Logs.JsonFormat
import TableDiscovery.Text.Case

/-!
# Setting logging up

Records go to the console and, if asked for, to a file that is rotated, as lines for readers or as
JSON. A new setup replaces the handlers of the one before. Libraries that log a lot are heard from
warnings on, others from the level of the root logger on, and nobody at levels up to zero.

* `Logging.Options`, `Logging.Options.ofEnvironment`: what is asked for;
* `Handler`, `Logging`: where records go, and what has been written there;
* `Logging.setUp`;
* `Logging.isWithin`, `Logging.isTended`: the tree of loggers, and libraries that take their own
  records;
* `Logging.emit`, `Logging.log`: a record on its way to the handlers, and from a logger.
-/

namespace TableDiscovery

/-- How a record is written. -/
inductive Layout
  | json (format : JsonFormat)
  | console (format : ConsoleFormat)
  | plain

/-- A place that records of some level go to. -/
structure Handler where
  level : Int
  layout : Layout
  file : Option Rotation

/-- The level of the root logger, the level of noisy libraries, the handlers, and what has been
written to the console and to files. -/
structure Logging where
  level : Int := 30
  noisyLevel : Int := 0
  handlers : List Handler := []
  console : String := ""
  files : Files := []

namespace Layout

/-- The line of a record, and the record with what was noted on it. -/
def format (l : Layout) (r : Record) : Except Fault (List Text.CodePoint) × Record :=
  match l with
  | json j => ((j.format r).1.map Text.points, (j.format r).2)
  | console c => c.format r
  | plain => PlainFormat.format r

/-- The name of a layout. -/
def label : Layout → String
  | json _ => "JSONFormatter"
  | console _ => "ConsoleFormatter"
  | plain => "Formatter"

end Layout

namespace Handler

/-- The name of the kind of a handler. -/
def label (h : Handler) : String :=
  if h.file.isSome then "RotatingFileHandler" else "StreamHandler"

end Handler

namespace Logging

/-- What a setup asks for. -/
structure Options where
  level : String := "INFO"
  file : Option String := none
  console : Bool := true
  json : Bool := false
  appName : String := "source-table-discovery"
  maxBytes : Int := 104857600
  backups : Int := 5
  hostName : String := "host-1"
  terminal : Bool := false
deriving DecidableEq, Repr

namespace Options

/-- Words that mean yes. -/
def isYes (s : String) : Bool := ["true", "1", "yes"].contains (Text.lower s)

/-- What the environment asks for. -/
def ofEnvironment (env : Assoc String String) : Options :=
  { level := (Assoc.get? env "LOG_LEVEL").getD "INFO"
    file := Assoc.get? env "LOG_FILE"
    console := isYes ((Assoc.get? env "LOG_CONSOLE").getD "true")
    json := isYes ((Assoc.get? env "LOG_JSON").getD "false") }

/-- The file unless its name is empty. -/
def file? (o : Options) : Option String := o.file.filter (· ≠ "")

/-- The message after a setup. -/
def announcement (o : Options) : String :=
  "Logging initialized: level=" ++ o.level ++ ", file=" ++ o.file?.getD "none" ++ ", console=" ++
    Json.boolWord o.console ++ ", json=" ++ Json.boolWord o.json

/-- The layout of a handler. -/
def layout (o : Options) (console : Bool) : Layout :=
  if o.json then .json { appName := o.appName, hostName := o.hostName }
  else if console then .console ⟨o.terminal⟩
  else .plain

end Options

/-- The logger of this module. -/
def logger : String := "utils.logging.config"

/-- What is said about words in upper case that name layouts of records and no level. -/
def layoutFaults : List (String × Fault) :=
  let line := "%(levelname)s:%(name)s:%(message)s"
  let style (mark kind form : String) :=
    Text.quoted mark ++ ": (<class 'logging." ++ kind ++ "'>, " ++ Text.quoted form ++ ")"
  [("BASIC_FORMAT", .unknownLevel line),
    ("_STYLES", .notALevel ("\x7b" ++ ", ".intercalate
      [style "%" "PercentStyle" line,
        style "\x7b" "StrFormatStyle" "\x7blevelname\x7d:\x7bname\x7d:\x7bmessage\x7d",
        style "$" "StringTemplateStyle" "$\x7blevelname\x7d:$\x7bname\x7d:$\x7bmessage\x7d"] ++
      "\x7d"))]

/-- The level that a word asks for in any case; an unknown word asks for the usual one. -/
def levelOf (word : String) : Except Fault Int :=
  let upper := Text.upper word
  match layoutFaults.lookup upper with
  | some f => .error f
  | none => .ok ((Level.ofWord? upper).getD 20)

/-- The handler of a log file. -/
def fileHandler (o : Options) (level : Int) (path : String) : Handler :=
  ⟨level, o.layout false, some ⟨Files.normal path, o.maxBytes, o.backups⟩⟩

/-- Replaces level and handlers; a log file exists from then on. If it cannot be opened, the new
level and the console remain. -/
def setUp (g : Logging) (o : Options) : Except Fault Unit × Logging :=
  match levelOf o.level with
  | .error f => (.error f, g)
  | .ok level =>
    let console : List Handler := if o.console then [⟨level, o.layout true, none⟩] else []
    let g := { g with level := level, handlers := console }
    match o.file? with
    | none => (.ok (), { g with noisyLevel := 30 })
    | some path =>
      match g.files.obstacle? path with
      | some f => (.error f, g)
      | none =>
        (.ok (),
          { g with
            noisyLevel := 30
            handlers := console ++ [fileHandler o level path]
            files := g.files.touch (Files.normal path) })

/-! ## Records -/

/-- Libraries that log a lot. -/
def noisyLoggers : List String := ["urllib3", "grpc", "opentelemetry"]

/-- The name that the records of a logger bear; the logger without a name is the root. -/
def nameOf (logger : String) : String := if logger = "" then "root" else logger

/-- The loggers above one, the nearest first, all names in reverse: each is what stands before a
point. A point right before one that has been counted does not count. -/
def above : List Char → List (List Char)
  | [] => []
  | '.' :: c :: rest => (c :: rest) :: above rest
  | _ :: rest => above rest

/-- Whether a logger is another one or below it. -/
def isWithin (name top : String) : Bool :=
  name = top || (above name.toList.reverse).contains top.toList.reverse

/-- The level from which on a logger is heard. -/
def effectiveLevel (g : Logging) (name : String) : Int :=
  if g.noisyLevel ≠ 0 && noisyLoggers.any (isWithin name) then g.noisyLevel else g.level

/-- Whether a record of a logger at a level is heard. -/
def hears (g : Logging) (name : String) (level : Int) : Bool :=
  0 < level && g.effectiveLevel name ≤ level

/-- Libraries that take the records of their own loggers, away from the console. -/
def tendedLoggers : List String := ["grpc", "concurrent.futures"]

/-- Whether a library takes the records of a logger. -/
def isTended (name : String) : Bool := tendedLoggers.any (isWithin name)

/-- Writes a line to the console. -/
def showLine (g : Logging) (line : String) : Logging :=
  { g with console := g.console ++ line ++ "\n" }

/-- Writes a line where a handler wants it. A line that is no string cannot be written. -/
def write (g : Logging) (h : Handler) (line : List Text.CodePoint) : Logging :=
  match Text.string? line, h.file with
  | none, _ => g
  | some line, none => g.showLine line
  | some line, some r => { g with files := r.write g.files line }

/-- Hands a record to a handler. -/
def handle (level : Int) (state : Logging × Record) (h : Handler) : Logging × Record :=
  if h.level ≤ level then
    match h.layout.format state.2 with
    | (.ok line, r) => (state.1.write h line, r)
    | (.error _, r) => (state.1, r)
  else state

/-- Hands a record of a level to all handlers. Without any handler a warning still shows its
message, unless `watched` says that somebody else takes the record. -/
def emit (g : Logging) (level : Int) (watched : Bool) (r : Record) : Logging :=
  if g.handlers.isEmpty then
    match r.message.toOption.bind Text.string? with
    | some message => if 30 ≤ level && !watched then g.showLine message else g
    | none => g
  else (g.handlers.foldl (handle level) (g, r)).1

/-- Logs a record of a level, to which a call attaches extra attributes. If it is heard, none of
them may replace a standard attribute. Returns whether it was heard. -/
def log (g : Logging) (level : Int) (watched : Bool) (logger : String) (r : Record)
    (attributes : List (String × Json)) : Except Fault (Bool × Logging) :=
  if !g.hears logger level then .ok (false, g)
  else
    match Record.taken? attributes with
    | some key => .error (.attributeTaken key)
    | none =>
      let named := { r with name := .str (nameOf logger) }
      .ok (true, g.emit level (watched || isTended logger) (named.attachAll attributes))

end Logging

end TableDiscovery
