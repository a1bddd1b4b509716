import TableDiscovery.Metrics.Basic
import TableDiscovery.Number.Shortest

/-!
# Samples

What a reader of the metrics sees: named numbers with labels, in order of name and labels.

* `Sample`, `Sample.sorted`;
* `Metrics.samples`.
-/

namespace TableDiscovery

/-- A named number with labels, which stand in order of their names. -/
structure Sample where
  name : String
  labels : List (String × String)
  value : Float

namespace Sample

/-- The order of label lists. -/
def labelsBefore : List (String × String) → List (String × String) → Bool
  | [], [] => false
  | [], _ :: _ => true
  | _ :: _, [] => false
  | (k, v) :: rest, (l, w) :: rest' =>
    k < l || (k == l && (v < w || (v == w && labelsBefore rest rest')))

/-- The order by name, then labels. -/
def before (a b : Sample) : Bool :=
  a.name < b.name || (a.name == b.name && labelsBefore a.labels b.labels)

/-- The samples in order. -/
def sorted (samples : List Sample) : List Sample := samples.mergeSort fun a b => !b.before a

end Sample

namespace Histogram

/-- The names of the bounds, the last of which is infinite. -/
def boundNames : List String := bounds.map Number.shortest ++ ["+Inf"]

/-- The samples of a histogram: its buckets, the number of observations and their sum. -/
def samples (h : Histogram) (name : String) (labels : List (String × String)) : List Sample :=
  (boundNames.zip h.cumulative).map
      (fun p => ⟨name ++ "_bucket", labels ++ [("le", p.1)], Float.ofNat p.2⟩) ++
    [⟨name ++ "_count", labels, Float.ofNat h.count⟩, ⟨name ++ "_sum", labels, h.sum⟩]

end Histogram

namespace Metrics

/-- The samples of the metrics. -/
def samples (m : Metrics) : List Sample :=
  m.polls.map (fun p => ⟨"table_monitor_polls_total",
      [("dialect", p.1.1), ("status", p.1.2)], Float.ofNat p.2⟩) ++
    m.durations.flatMap (fun p =>
      p.2.samples "table_monitor_poll_duration_seconds" [("dialect", p.1)]) ++
    m.requests.map (fun p =>
      ⟨"table_monitor_reconfigurations_total", [("dialect", p.1)], Float.ofNat p.2⟩) ++
    m.tables.map (fun p => ⟨"table_monitor_tables", [("dialect", p.1)], p.2⟩) ++
    m.duplicates.map (fun p =>
      ⟨"table_monitor_duplicate_table_names", [("dialect", p.1)], p.2⟩)

/-- The value of a sample. -/
def value? (m : Metrics) (name : String) (labels : List (String × String)) : Option Float :=
  (m.samples.find? fun s => s.name = name && s.labels.all (labels.contains ·) &&
    s.labels.length == labels.length).map (·.value)

end Metrics

end TableDiscovery
