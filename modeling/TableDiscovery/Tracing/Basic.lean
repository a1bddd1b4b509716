import TableDiscovery.Site

/-!
# Tracing

Work is traced in spans. Until tracing is set up, spans go to whatever provider is installed
globally. A provider that has been shut down stays installed, but its exporters take no more spans.
Attributes are set to the texts of values; a value without a text is a failure of whoever sets it.

* `Tracing.texts`, `Tracing.checkNames`: attributes as texts, and the names that they may have;
* `Tracing.enter`, `Tracing.traced`: a span with attributes, and an action in one;
* `Tracing.addAttributes`: attributes for the innermost open span;
* `Tracing.setUp`, `Tracing.shutDown`.
-/

namespace TableDiscovery.Tracing

/-- The service that spans belong to unless another is named. -/
def defaultService : String := "source-table-discovery"

/-- The logger of this module. -/
def logger : String := "utils.tracing.tracer"

/-- Changes the state of tracing. -/
def change (f : Tracing → Tracing) : Act Site Unit :=
  modify fun s => { s with tracing := f s.tracing }

/-- Asks the global provider for a tracer. -/
def lookUp (name : String) : Act Site Unit := do
  if (← get).tracing.announcesLookups then Site.record (.getTracer name)

/-- The tracer that was set up, or one of the global provider. -/
def getTracer : Act Site Unit := do
  if !(← get).tracing.isSetUp then lookUp defaultService

/-- Attributes with the texts of their values, up to the first value that has none, and why it has
none. -/
def texts (room : Nat) : List (String × Json) → List (String × String) × Option Fault
  | [] => ([], none)
  | (key, v) :: rest =>
    match v.display? room with
    | .ok s => ((key, s) :: (texts room rest).1, (texts room rest).2)
    | .error cause => ([], some (.ofUnwritable cause))

/-- Attributes for a new span may not be named like what else the span is made from. -/
def checkNames (attributes : List (String × Json)) : Except Fault Unit :=
  let names := attributes.map (·.1)
  if names.contains "kind" then
    .error (.repeatedKeyword "utils.tracing.context.trace_operation" "kind")
  else if names.contains "operation_name" then
    .error (.repeatedArgument "trace_operation" "operation_name")
  else .ok ()

/-- Opens a span inside the innermost open one. -/
def openSpan (name : String) (kind : Span.Kind) : Act Site Unit := do
  getTracer
  change fun t =>
    let parent := (t.current.head?.filter (·.recording)).map (·.name)
    { t with current := ⟨name, kind, parent, t.records, [], [], none⟩ :: t.current }

/-- Changes the innermost open span. -/
def changeCurrent (f : Span → Span) : Act Site Unit :=
  change fun t =>
    match t.current with
    | s :: rest => { t with current := f s :: rest }
    | [] => t

/-- Ends the innermost open span with what is left on it, and exports it. -/
def closeSpan (leave : Span → Span) : Act Site Unit := do
  let t := (← get).tracing
  match t.current with
  | [] => pure ()
  | s :: rest =>
    let s := leave s
    if s.recording then
      change fun t => { t with current := rest, finished := t.finished ++ [s] }
      let exporters := (t.provider.map (·.exporters)).getD []
      exporters.forM fun e => Site.record (.exported e s.name)
    else change fun t => { t with current := rest }

/-- Opens a span with attributes. It ends at once if a value has no text, of which the tracer takes
note. -/
def enter (name : String) (kind : Span.Kind) (attributes : List (String × Json)) :
    Act Site Unit := do
  Act.ofExcept (checkNames attributes)
  openSpan name kind
  let (texts, fault) := texts (← get).script.room attributes
  changeCurrent (·.setTexts texts)
  match fault with
  | none => pure ()
  | some f =>
    closeSpan (·.note f)
    throw f

/-- Runs an action in a span of its own. -/
def traced {σ α : Type} [MonadLiftT (Act Site) (Act σ)] (name : String) (kind : Span.Kind)
    (attributes : List (String × Json)) (body : Act σ α) : Act σ α := do
  enter name kind attributes
  match ← Act.attempt body with
  | .ok a =>
    closeSpan id
    return a
  | .error f =>
    closeSpan (·.mark f)
    throw f

/-- Sets an attribute of the innermost open span to a value as it is. -/
def setAttribute (key : String) (value : Json) : Act Site Unit :=
  changeCurrent fun s => s.set key value

/-- Adds attributes to the innermost open span, if there is one that is recorded; without one no
value needs a text. -/
def addAttributes (attributes : List (String × Json)) : Act Site Unit := do
  let s ← get
  if s.tracing.current.head?.any (·.recording) then
    let (texts, fault) := texts s.script.room attributes
    changeCurrent (·.setTexts texts)
    Act.failWith fault

/-! ## Set-up and shutdown -/

/-- What tracing is set up with. -/
structure Options where
  service : String := defaultService
  endpoint : Option String := none
  console : Bool := false
  rate : Float := 1.0

/-- A rate lies between zero and one. -/
def checkRate (rate : Float) : Except Fault Unit :=
  if rate < 0.0 || 1.0 < rate then .error .rateOutOfRange
  else if rate.isNaN then .error .rateNotANumber
  else .ok ()

/-- The collector that is asked for, by an argument or else by the environment. -/
def endpoint? (env : Assoc String String) (o : Options) : Option String :=
  (o.endpoint.filter (· ≠ "")).or ((Assoc.get? env "OTLP_ENDPOINT").filter (· ≠ ""))

/-- Whether spans are also printed. -/
def wantsConsole (env : Assoc String String) (o : Options) : Bool :=
  o.console || Text.lower ((Assoc.get? env "TRACE_CONSOLE").getD "") == "true"

/-- How many numbers there are for traces. -/
def traceCount : Nat := Nat.pow 2 64

/-- How many of those numbers a rate samples, the lowest ones: its share of them, rounded to the
nearest integer, a tie to the even one. -/
def sampledCount (rate : Float) : Nat :=
  match Number.decode? rate with
  | none => 0
  | some v =>
    let q := v.scaled 0
    if v.negative then 0 else Number.roundDiv (q.1 * traceCount) q.2

/-- Whether a rate samples the traces of the site, whose number is the middle one. -/
def samplesAt (rate : Float) : Bool := traceCount / 2 < sampledCount rate

/-- The exporters with the arguments that they are made with. -/
def exporters (env : Assoc String String) (o : Options) :
    List (Exporter × List (String × Json)) :=
  ((endpoint? env o).map fun e =>
      (Exporter.collector, [("endpoint", Json.str e), ("insecure", Json.bool true)])).toList ++
    if wantsConsole env o then [(.console, [])] else []

/-- The name of an exporter in messages. -/
def exporterTitle : Exporter → String
  | .collector => "OTLP"
  | .console => "Console"

/-- Sets tracing up; a second time it changes nothing. -/
def setUp (env : Assoc String String) (o : Options) : Act Site Unit := do
  if (← get).tracing.isSetUp then
    Site.log .warning logger "Tracing already initialized, returning existing tracer"
    getTracer
  else
    Act.ofExcept (checkRate o.rate)
    let targets := exporters env o
    targets.forM fun p => Site.record (.exporter p.1 p.2)
    if targets.isEmpty then
      Site.log .warning logger "No trace exporters configured, spans will be dropped"
    Site.record (.setProvider o.service)
    change fun t => { t with provider := some ⟨samplesAt o.rate, targets.map (·.1)⟩ }
    lookUp o.service
    change fun t => { t with isSetUp := true }
    let titles := targets.map fun p => exporterTitle p.1
    Site.log .info logger ("Tracing initialized: " ++ o.service ++ " (exporters: " ++
      (if titles.isEmpty then "none" else ", ".intercalate titles) ++ ", sampling: " ++
      Number.shortest o.rate ++ ")")

/-- Shuts an exporter down, which sends nothing from then on even if that fails. -/
def shutDownExporter (e : Exporter) : Act Site Unit := do
  Site.record (.exporterShutdown e)
  change fun t => { t with provider := t.provider.map (·.release e) }
  let s ← get
  set { s with counts.exporterShutdown := s.counts.exporterShutdown + 1 }
  Act.failWith (s.script.exporterShutdown s.counts.exporterShutdown)

/-- Ends tracing. The provider is given up also when an exporter fails, which spares the next
ones. -/
def shutDown : Act Site Unit := do
  let t := (← get).tracing
  if t.isSetUp then
    Act.andFinally
      (do
        ((t.provider.map (·.exporters)).getD []).forM shutDownExporter
        Site.log .info logger "Tracing shutdown complete")
      (change fun t => { t with isSetUp := false })

end TableDiscovery.Tracing
