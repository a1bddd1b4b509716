import TableDiscovery.Logs.Level
import TableDiscovery.Tracing.Span

/-!
# Events

What the connector does that can be seen from outside, in order.

* `Event`.
-/

namespace TableDiscovery

/-- Something that the surroundings see. -/
inductive Event
  | log (level : Int) (logger message : String)
  | connect (target : String) (arguments : List (String × Json))
  | session (connection : Nat)
  | ping (connection : Nat)
  | query (connection : Nat) (text : String) (parameters : List String)
  | close (connection : Nat)
  | sleep (seconds : Float)
  | wait (seconds : Float)
  | join (seconds : Float)
  | request
  | raiseError (fault : Fault)
  | serve (port : Int)
  | exporter (target : Exporter) (arguments : List (String × Json))
  | setProvider (service : String)
  | getTracer (name : String)
  | exported (target : Exporter) (span : String)
  | exporterShutdown (target : Exporter)
  | call
  | retried (attempt : Nat) (fault : Fault) (delay : Float)

end TableDiscovery
