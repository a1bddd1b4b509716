import TableDiscovery.Site

/-!
# The host

The host runs the connector. It is told when the tables have changed, so that it asks for task
settings again, and when the monitor has failed. A caller may wait to be woken by either.

* `Host`, `Host.noteRequest`, `Host.noteError`: what the host has been told;
* `Host.clear`, `Host.await`: a wait reads the wake-up flag and then clears it;
* `Host.Reaction`: what the host does in a request beside noting it.
-/

namespace TableDiscovery

/-- What the host has been told, and whether somebody who waits is to be woken. -/
structure Host where
  requests : Nat := 0
  errors : List Fault := []
  failed : Bool := false
  woken : Bool := false

namespace Host

/-- The logger of this module. -/
def logger : String := "connector.context"

/-- A request for reconfiguration. -/
def noteRequest (h : Host) : Host := { h with requests := h.requests + 1, woken := true }

/-- An error that stopped the monitor. -/
def noteError (h : Host) (f : Fault) : Host :=
  { h with errors := h.errors ++ [f], failed := true, woken := true }

/-- Forgets that somebody is to be woken. -/
def clear (h : Host) : Host := { h with woken := false }

/-- A wait that does not last: whether there was something to wake for. -/
def await (h : Host) : Bool × Host := (h.woken, h.clear)

/-- Notes a request and logs it. -/
def request (h : Host) : Act Site Host := do
  Site.log .info logger "Task reconfiguration requested"
  return h.noteRequest

/-- Notes an error and logs it. -/
def raiseError (h : Host) (f : Fault) : Act Site Host := do
  Site.log .error logger ("Connector reported an error: " ++ f.message)
  return h.noteError f

/-- What comes of a wait on a host that only says what hosts can do. -/
def cannotWait : Fault := .missingMember "ConnectorContext" "wait_for_reconfiguration"

/-- What the host does in a request beside noting it. -/
inductive Reaction
  | accept
  | shutDown
  | fail (fault : Fault)

end Host

end TableDiscovery
