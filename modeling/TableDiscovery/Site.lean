import TableDiscovery.Dialect.Listing
import TableDiscovery.Event

/-!
# The site

The connector runs on a site: a database, a clock, a metrics server, span exporters and a source of
random numbers. What they answer is given by a script, call by call, so that statements about all
scripts are statements about everything that can happen. The script also says what the platform
cannot do: wait for too long, and nest values too deeply. Everything that the connector does there
is recorded.

* `Listing`, `Script`, `Site`: answers, scripts, and a site with what has happened on it;
* `Script.exceedsClock`: waits that no clock counts to the end;
* `Act`, `Act.attempt`, `Act.zoom`: actions, which may fail and keep what they did until then;
* `Site.record`, `Site.log`: events;
* `Site.openConnection`, `Site.ping`, `Site.query`, `Site.close`: the database;
* `Site.now`, `Site.random`: the clock and the random numbers;
* `Site.sleep`, `Site.block`: waits of a thread.
-/

namespace TableDiscovery

/-- Where a listing fails: when the query is run, when rows are fetched, or after that. -/
inductive Listing.Stage
  | execute
  | fetch
  | close
deriving DecidableEq, Repr

/-- The answer to a listing query. Fetching it may stop the monitor. -/
structure Listing where
  rows : List Dialect.Row := []
  failure : Option (Fault × Listing.Stage) := none
  stopsMonitor : Bool := false

/-- Whether so many seconds are more than a clock counts, which has a signed number of 64 bits for
the nanoseconds. -/
def Script.exceedsClock (seconds : Float) : Bool :=
  9223372036854775808.0 ≤ seconds * 1000000000.0

/-- What the site answers to the `n`-th call of each kind, counted from zero, with the waits that
the platform refuses and the levels of values inside others that the stack has room for. -/
structure Script where
  connect : Nat → Option Fault := fun _ => none
  session : Nat → Option Fault := fun _ => none
  ping : Nat → Option Fault := fun _ => none
  close : Nat → Option Fault := fun _ => none
  serve : Nat → Option Fault := fun _ => none
  exporterShutdown : Nat → Option Fault := fun _ => none
  listing : Nat → Listing := fun _ => { }
  clock : Nat → Float := fun _ => 0.0
  random : Nat → Float := fun _ => 0.5
  refusesWait : Float → Bool := Script.exceedsClock
  room : Nat := 900

/-- How often the script has been asked. -/
structure Counts where
  connect : Nat := 0
  session : Nat := 0
  ping : Nat := 0
  close : Nat := 0
  serve : Nat := 0
  exporterShutdown : Nat := 0
  listing : Nat := 0
  clock : Nat := 0
  random : Nat := 0
deriving DecidableEq, Repr

/-- A script with what has happened: the calls made, the connections opened and those of them that
are closed, the state of tracing, and the events. Log records below the threshold are dropped. -/
structure Site where
  script : Script := { }
  counts : Counts := { }
  opened : Nat := 0
  closed : List Nat := []
  threshold : Int := 20
  tracing : Tracing := { }
  trace : List Event := []

/-- An action on a state: it returns a value or fails, and the state persists either way. -/
abbrev Act (σ : Type) := EStateM Fault σ

namespace Act

variable {σ τ α : Type}

/-- Runs an action and returns how it ended. -/
def attempt (x : Act σ α) : Act σ (Except Fault α) := fun s =>
  match x s with
  | .ok a s => .ok (.ok a) s
  | .error f s => .ok (.error f) s

/-- Ends as a given result says. -/
def ofExcept : Except Fault α → Act σ α
  | .ok a => pure a
  | .error f => throw f

/-- Runs an action on a part of the state. -/
def zoom (part : τ → σ) (put : τ → σ → τ) (x : Act σ α) : Act τ α := fun s =>
  match x (part s) with
  | .ok a p => .ok a (put s p)
  | .error f p => .error f (put s p)

/-- Runs `x`, then `after`, however `x` ended; a failure of `after` replaces one of `x`. -/
def andFinally (x : Act σ α) (after : Act σ Unit) : Act σ α := do
  let result ← attempt x
  after
  ofExcept result

/-- Fails if there is a fault. -/
def failWith : Option Fault → Act σ Unit
  | some f => throw f
  | none => pure ()

end Act

namespace Site

/-- Adds an event. -/
def record (e : Event) : Act Site Unit := modify fun s => { s with trace := s.trace ++ [e] }

/-- Logs a message, unless its level is below the threshold. -/
def log (level : Level) (logger message : String) : Act Site Unit := do
  if (← get).threshold ≤ level.value then record (.log level.value logger message)

/-! ## The database -/

/-- Opens a connection; the connections are numbered from one. -/
def openConnection (target : String) (arguments : List (String × Json)) : Act Site Nat := do
  record (.connect target arguments)
  let s ← get
  set { s with counts.connect := s.counts.connect + 1 }
  Act.failWith (s.script.connect s.counts.connect)
  set { s with counts.connect := s.counts.connect + 1, opened := s.opened + 1 }
  return s.opened + 1

/-- Makes each statement on a connection its own transaction. -/
def beginSession (connection : Nat) : Act Site Unit := do
  record (.session connection)
  let s ← get
  set { s with counts.session := s.counts.session + 1 }
  Act.failWith (s.script.session s.counts.session)

/-- Sends a probe on a connection. -/
def ping (connection : Nat) : Act Site Unit := do
  record (.ping connection)
  let s ← get
  set { s with counts.ping := s.counts.ping + 1 }
  Act.failWith (s.script.ping s.counts.ping)

/-- Closes a connection. -/
def close (connection : Nat) : Act Site Unit := do
  record (.close connection)
  let s ← get
  set { s with counts.close := s.counts.close + 1 }
  Act.failWith (s.script.close s.counts.close)
  modify fun s => { s with closed := connection :: s.closed }

/-- The server closes the newest connection. -/
def drop : Act Site Unit := do
  let s ← get
  if s.opened = 0 then throw (.noSuchItem "list")
  set { s with closed := s.opened :: s.closed }

/-- The connection with a number: zero is none, and below zero they are counted from the newest
but one. -/
def connection (n : Int) : Act Site (Option Nat) := do
  let opened : Int := (← get).opened
  let number := if n < 0 then opened + n else n
  if n = 0 then return none
  else if 1 ≤ number && number ≤ opened then return some number.toNat
  else throw (.noSuchItem "list")

/-- Runs a query for a listing. -/
def query (connection : Nat) (text : String) (parameters : List String) : Act Site Listing := do
  record (.query connection text parameters)
  let s ← get
  set { s with counts.listing := s.counts.listing + 1 }
  let listing := s.script.listing s.counts.listing
  match listing.failure with
  | some (f, .execute) => throw f
  | _ => return listing

/-! ## Clock and random numbers -/

/-- Reads the clock. -/
def now : Act Site Float := do
  let s ← get
  set { s with counts.clock := s.counts.clock + 1 }
  return s.script.clock s.counts.clock

/-- The next random number, at least zero and less than one. -/
def random : Act Site Float := do
  let s ← get
  set { s with counts.random := s.counts.random + 1 }
  return s.script.random s.counts.random

/-! ## Waits -/

/-- Fails if the platform cannot wait for so many seconds. -/
def checkWait (seconds : Float) : Act Site Unit := do
  if (← get).script.refusesWait seconds then throw .waitTooLong

/-- Sleeps for some seconds. -/
def sleep (seconds : Float) : Act Site Unit := do
  checkWait seconds
  record (.sleep seconds)

/-- Waits for some seconds, unless what is waited for is there: then nothing is refused. -/
def block (ready : Bool) (seconds : Float) : Act Site Unit := do
  if !ready then checkWait seconds
  record (.wait seconds)

end Site

/-- The tables of a listing whose query has been run. -/
def Dialect.tablesOf (d : Dialect) (l : Listing) : Except Fault (List Table) :=
  match l.failure with
  | some (f, _) => .error f
  | none => d.tablesOfRows l.rows

end TableDiscovery
