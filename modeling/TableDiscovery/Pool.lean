import TableDiscovery.Dialect.ConnectionString
import TableDiscovery.Retry

/-!
# The cached connection

One connection is kept open between polls. It is probed before it is handed out again; a stale one
is closed and replaced. Opening is retried with a fixed delay.

* `Pool`: a site with the cached connection;
* `Provider`: the dialect, and how often and how patiently it tries to connect;
* `Dialect.connect`, `Dialect.isValid`: opening and probing in a dialect;
* `Provider.get`, `Provider.close`: the connection in use, and giving it up.
-/

namespace TableDiscovery

/-- A site with the connection that is kept and the number of connections opened for it. -/
structure Pool extends Site where
  cached : Option Nat := none
  connects : Nat := 0

instance : MonadLift (Act Site) (Act Pool) :=
  ⟨Act.zoom (·.toSite) fun p s => { p with toSite := s }⟩

namespace Dialect

/-- The logger of listing and connecting. -/
def logger : String := "discovery.dialect"

/-- Names the dialect in use. -/
def announce (d : Dialect) : Act Site Unit :=
  Site.log .info logger ("Using " ++ d.name ++ " dialect")

/-- The arguments of a connection: a time limit and explicit credentials. -/
def connectArguments (d : Dialect) : List (String × Json) :=
  ("connect_timeout", .int 10) :: (d.user.map fun u => ("user", Json.str u)).toList ++
    (d.password.map fun p => ("password", Json.str p)).toList

/-- Opens a connection. -/
def connect (d : Dialect) : Act Site Nat := do
  match d.system with
  | .generic => throw .notImplemented
  | .postgres =>
    let connection ← Site.openConnection d.url d.connectArguments
    Site.beginSession connection
    return connection
  | .sqlServer =>
    match d.connectionString with
    | .error cause => throw (.url cause)
    | .ok target =>
      Site.openConnection target [("autocommit", .bool true), ("timeout", .int 10)]

/-- Whether a probe of a connection succeeds. -/
def answersProbe (d : Dialect) (connection : Nat) : Act Site Bool := do
  match ← Act.attempt (Site.ping connection) with
  | .ok _ => return true
  | .error f => if f.isAnyOf d.probeKinds then return false else throw f

/-- Whether a connection can be used. -/
def isValid (d : Dialect) (connection : Option Nat) : Act Site Bool := do
  match d.system, connection with
  | .generic, _ => throw .notImplemented
  | _, none => return false
  | .postgres, some n => if (← get).closed.contains n then return false else d.answersProbe n
  | .sqlServer, some n => d.answersProbe n

/-- Runs the listing query on a connection. -/
def query (d : Dialect) (connection : Nat) : Act Site Listing := do
  Site.log .debug logger ("Listing " ++ d.name ++ " tables with types " ++ d.typesText)
  Site.query connection d.listingText d.listingParameters

/-- Lists the tables on a connection. -/
def list (d : Dialect) (connection : Nat) : Act Site (List Table) := do
  let listing ← d.query connection
  Act.ofExcept (d.tablesOf listing)

end Dialect

/-- How the connection is opened: attempts, and milliseconds between them. -/
structure Provider where
  dialect : Dialect
  maxAttempts : Int := 3
  backoff : Int := 10000
deriving DecidableEq, Repr

/-- Milliseconds as seconds. -/
def secondsOfMilliseconds (n : Int) : Except Fault Float :=
  match Number.ofInt? n with
  | some x => .ok (x / 1000.0)
  | none => .error .integerTooLarge

namespace Provider

/-- The logger of this module. -/
def logger : String := "discovery.connection"

/-- A provider makes at least one attempt. -/
def check (p : Provider) : Except Fault Provider :=
  if p.maxAttempts < 1 then .error .tooFewAttempts else .ok p

/-- Opening is retried after a fixed delay as long as its failures are transient. -/
def policy (p : Provider) (delay : Float) : Retry.Policy :=
  ⟨p.maxAttempts - 1, delay, delay, 1.0, false, p.dialect.transientKinds⟩

/-- Opens a new connection. -/
def openNew (p : Provider) : Act Pool Nat := do
  let delay ← Act.ofExcept (secondsOfMilliseconds p.backoff)
  match ← Act.attempt (liftM (Retry.run "connect" (p.policy delay) none p.dialect.connect)) with
  | .error f =>
    if p.dialect.isTransient f then throw (.unreachable p.dialect.name p.maxAttempts f) else throw f
  | .ok connection =>
    modify fun s => { s with connects := s.connects + 1 }
    Site.log .info logger ("Connected to " ++ p.dialect.name ++ " database")
    return connection

/-- Forgets the cached connection and closes it; a failure to close is only logged. -/
def closeQuietly : Act Pool Unit := do
  match (← get).cached with
  | none => pure ()
  | some connection =>
    modify fun s => { s with cached := none }
    match ← Act.attempt (liftM (Site.close connection)) with
    | .ok _ => pure ()
    | .error f =>
      if f.isFailure then Site.log .warning logger ("Error closing connection: " ++ f.message)
      else throw f

/-- Opens a connection and keeps it. -/
def renew (p : Provider) : Act Pool Nat := do
  let connection ← p.openNew
  modify fun s => { s with cached := some connection }
  return connection

/-- The cached connection if it is valid, else a new one. -/
def get (p : Provider) : Act Pool Nat := do
  match (← MonadState.get).cached with
  | none => p.renew
  | some connection =>
    if ← p.dialect.isValid (some connection) then return connection
    else
      Site.log .warning logger "Cached connection is no longer valid, reconnecting"
      closeQuietly
      p.renew

/-- Closes and forgets the cached connection. -/
def close (p : Provider) : Act Pool Unit := do
  if (← MonadState.get).cached.isSome then
    Site.log .debug logger ("Closing cached " ++ p.dialect.name ++ " connection")
  closeQuietly

/-- Lists the tables on the connection in use. -/
def list (p : Provider) : Act Pool (List Table) := do
  let connection ← p.get
  p.dialect.list connection

end Provider

end TableDiscovery
