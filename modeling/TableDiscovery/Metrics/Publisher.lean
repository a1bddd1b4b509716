import TableDiscovery.Metrics.Sample
import TableDiscovery.Text.Replace

/-!
# Publishing metrics

A publisher serves the registered metrics on a port. Beside those of the monitor a registry holds
the name, version and uptime of the application. Each group can be registered once.

* `Publisher`, `Publisher.start`;
* `Application`, `Application.register`: what is running, and since when;
* `Registry`, `Registry.samples`;
* `Registry.setUp`.
-/

namespace TableDiscovery

/-- A server of metrics. -/
structure Publisher where
  port : Int := 9091
  started : Bool := false
deriving DecidableEq, Repr

namespace Publisher

/-- The logger of this module. -/
def logger : String := "utils.metrics.publisher"

/-- The fault for a failure to serve: a port in use is named. -/
def faultOf (port : Int) (f : Fault) : Fault :=
  if f.isA .os && Text.occursIn "Address already in use".toList f.message.toList then
    .addressInUse port
  else f

/-- Starts the server; a second time it changes nothing. -/
def start (p : Publisher) : Act Site Publisher := do
  if p.started then
    Site.log .warning logger ("Metrics server already running on port " ++ toString p.port)
    return p
  else
    Site.record (.serve p.port)
    let s ← get
    set { s with counts.serve := s.counts.serve + 1 }
    Act.failWith ((s.script.serve s.counts.serve).map (faultOf p.port))
    Site.log .info logger ("Metrics server started on port " ++ toString p.port)
    return { p with started := true }

end Publisher

/-- What is running, and what the clock showed when it started. -/
structure Application where
  name : String
  version : String
  start : Float

namespace Application

/-- Notes name, version and time of start. -/
def register (name version : String) : Act Site Application := do
  return ⟨name, version, ← Site.now⟩

/-- The seconds since the start. -/
def uptime (a : Application) : Act Site Float := do
  return (← Site.now) - a.start

/-- The samples of an application. -/
def samples (a : Application) : Act Site (List Sample) := do
  return [⟨"application_info", [("name", a.name), ("version", a.version)], 1.0⟩,
    ⟨"application_uptime_seconds", [], ← a.uptime⟩]

end Application

/-- The metrics that are registered. -/
structure Registry where
  monitor : Option Metrics := none
  application : Option Application := none

namespace Registry

/-- The logger of this module. -/
def logger : String := "utils.metrics"

/-- The samples of a registry in order. -/
def samples (r : Registry) : Act Site (List Sample) := do
  let ofApplication ←
    match r.application with
    | some a => a.samples
    | none => pure []
  return Sample.sorted (ofApplication ++ (r.monitor.map (·.samples)).getD [])

/-- Registers all metrics and, if asked to, starts a server for them. -/
def setUp (r : Registry) (port : Int) (version : String) (serve : Bool) :
    Act Site (Publisher × Registry) := do
  Site.log .info logger ("Initializing metrics on port " ++ toString port)
  let publisher ← if serve then Publisher.start ⟨port, false⟩ else pure ⟨port, false⟩
  if r.monitor.isSome then throw .duplicateSeries
  let application ← Application.register "source-table-discovery" version
  return (publisher, ⟨some { }, some application⟩)

end Registry

end TableDiscovery
