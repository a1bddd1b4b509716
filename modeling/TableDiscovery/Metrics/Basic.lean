import TableDiscovery.Site

/-!
# Metrics of the monitor

Polls are counted by their outcome and their durations put into buckets; reconfiguration requests
are counted; the size of the published table set is a gauge. All are kept per dialect.

* `Histogram`, `Histogram.observe`: durations in buckets;
* `Metrics`, `Metrics.addPoll`, `Metrics.setTables`, `Metrics.setSizes`, `Metrics.addRequest`.
-/

namespace TableDiscovery

/-- The upper bounds of the buckets but the last one, which has none. -/
def Histogram.bounds : List Float := [0.01, 0.05, 0.1, 0.25, 0.5, 1.0, 2.5, 5.0, 10.0, 30.0]

/-- How many observations fell into each bucket, the last one open above, and their sum. -/
structure Histogram where
  counts : List Nat := List.replicate 11 0
  sum : Float := 0.0

namespace Histogram

/-- The number of the bucket that takes a value. -/
def bucketOf (x : Float) : Nat := bounds.findIdx fun b => x ≤ b

/-- Adds an observation. One that is no number adds to the sum only. -/
def observe (h : Histogram) (x : Float) : Histogram :=
  { counts := if x.isNaN then h.counts else h.counts.modify (bucketOf x) (· + 1)
    sum := h.sum + x }

/-- The number of observations that are numbers. -/
def count (h : Histogram) : Nat := h.counts.foldl (· + ·) 0

/-- The number of observations up to each bound. -/
def cumulative (h : Histogram) : List Nat :=
  (List.range h.counts.length).map fun i => (h.counts.take (i + 1)).foldl (· + ·) 0

end Histogram

/-- The metrics of the monitor, each under its dialect; polls also under their outcome. -/
structure Metrics where
  polls : Assoc (String × String) Nat := []
  durations : Assoc String Histogram := []
  requests : Assoc String Nat := []
  tables : Assoc String Float := []
  duplicates : Assoc String Float := []

namespace Metrics

/-- The logger of this module. -/
def logger : String := "utils.metrics.discovery"

/-- Counts a poll with its outcome and duration. -/
def addPoll (m : Metrics) (dialect status : String) (duration : Float) : Metrics :=
  { m with
    polls := Assoc.alter m.polls (dialect, status) 0 (· + 1)
    durations := Assoc.alter m.durations dialect { } (·.observe duration) }

/-- Sets the gauge of a dialect, which exists from then on. A number that is too large for it leaves
the value that it has, zero for a new gauge. -/
def setGauge (gauges : Assoc String Float) (dialect : String) (n : Int) :
    Except Fault Unit × Assoc String Float :=
  match Number.ofInt? n with
  | some x => (.ok (), Assoc.put gauges dialect x)
  | none => (.error .integerTooLarge, Assoc.alter gauges dialect 0.0 id)

/-- Sets the number of tables, then that of the names that several of them share. -/
def setTables (m : Metrics) (dialect : String) (tables duplicates : Int) :
    Except Fault Unit × Metrics :=
  match setGauge m.tables dialect tables with
  | (.error f, gauges) => (.error f, { m with tables := gauges })
  | (.ok _, gauges) =>
    let (result, shared) := setGauge m.duplicates dialect duplicates
    (result, { m with tables := gauges, duplicates := shared })

/-- Sets both numbers for a published set. The length of a list is never too large for a gauge. -/
def setSizes (m : Metrics) (dialect : String) (tables duplicates : Nat) : Metrics :=
  { m with
    tables := Assoc.put m.tables dialect (Float.ofNat tables)
    duplicates := Assoc.put m.duplicates dialect (Float.ofNat duplicates) }

/-- Counts a reconfiguration request. -/
def addRequest (m : Metrics) (dialect : String) : Metrics :=
  { m with requests := Assoc.alter m.requests dialect 0 (· + 1) }

/-- Shared names are worth a warning. -/
def warnOfDuplicates (duplicates : Int) : Act Site Unit :=
  if duplicates ≠ 0 then
    Site.log .warning logger
      ("Published table set has " ++ toString duplicates ++ " duplicate table name(s)")
  else pure ()

end Metrics

end TableDiscovery
