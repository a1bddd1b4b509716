import TableDiscovery.Fault

/-!
# Spans

A span is a named stretch of work with attributes. Spans nest; a failure that leaves a span marks
it. A span takes note of its attributes only while a tracer provider records it, and holds a limited
number of them, the newest ones.

* `Span`, `Span.set`, `Span.setTexts`: spans, and attributes, whose values are freed of nameless
  fields;
* `Span.note`, `Span.mark`: what a failure leaves on a span;
* `Tracing`: the providers, the open spans and the finished ones.
-/

namespace TableDiscovery

/-- The role of a span. -/
inductive Span.Kind
  | inner
  | client
  | server
  | producer
  | consumer
deriving DecidableEq, Repr

/-- The name of a role. -/
def Span.Kind.label : Span.Kind → String
  | inner => "INTERNAL"
  | client => "CLIENT"
  | server => "SERVER"
  | producer => "PRODUCER"
  | consumer => "CONSUMER"

/-- A failure noted on a span: its qualified kind and its message. -/
structure Span.Note where
  kind : String
  message : String
deriving DecidableEq, Repr

/-- A stretch of work. -/
structure Span where
  name : String
  kind : Span.Kind
  parent : Option String
  recording : Bool
  attributes : Assoc String Json := []
  notes : List Span.Note := []
  failure : Option String := none

namespace Span

mutual

/-- A value without the fields of its objects that have no name. -/
def named : Json → Json
  | .arr items => .arr (namedItems items)
  | .obj fields => .obj (namedFields fields)
  | v => v

/-- The items of a list, each without nameless fields. -/
def namedItems : List Json → List Json
  | [] => []
  | v :: rest => named v :: namedItems rest

/-- The fields of an object that have a name. -/
def namedFields : List (String × Json) → List (String × Json)
  | [] => []
  | (k, v) :: rest => if k = "" then namedFields rest else (k, named v) :: namedFields rest

end

/-- The number of attributes that a span holds at most. -/
def capacity : Nat := 128

/-- Sets an attribute, if the span is recorded and the name is not empty. The attribute becomes the
newest one; a full span forgets its oldest attribute for one of a new name. -/
def set (s : Span) (key : String) (value : Json) : Span :=
  if s.recording && key ≠ "" then
    let others := Assoc.erase s.attributes key
    { s with attributes := others.drop (others.length + 1 - capacity) ++ [(key, named value)] }
  else s

/-- Sets attributes to texts. -/
def setTexts (s : Span) (texts : List (String × String)) : Span :=
  texts.foldl (fun s p => s.set p.1 (.str p.2)) s

/-- What is noted about a fault. -/
def noteOf (f : Fault) : Note := ⟨f.kind.qualifiedLabel, f.message⟩

/-- What the tracer leaves on a span that a failure ends: a note and the status. An interrupt leaves
nothing. -/
def note (s : Span) (f : Fault) : Span :=
  if s.recording && f.isFailure then
    { s with notes := s.notes ++ [noteOf f], failure := some f.summary }
  else s

/-- The marks of a failure that leaves the work in a span: three attributes and a note by whoever
opened the span, then what the tracer leaves. -/
def mark (s : Span) (f : Fault) : Span :=
  if s.recording && f.isFailure then
    let s := ((s.set "error" (.bool true)).set "error.type" (.str f.kind.label)).set
      "error.message" (.str f.message)
    { s with notes := s.notes ++ [noteOf f] }.note f
  else s

end Span

/-- Where finished spans are sent. -/
inductive Exporter
  | collector
  | console
deriving DecidableEq, Repr

/-- The name of an exporter. -/
def Exporter.label : Exporter → String
  | collector => "otlp"
  | console => "console"

/-- A provider of tracers: whether it samples spans, and the exporters that it sends them to. -/
structure TracerProvider where
  samples : Bool
  exporters : List Exporter
deriving DecidableEq, Repr

/-- Shuts an exporter down: no span is sent to it any more. -/
def TracerProvider.release (p : TracerProvider) (e : Exporter) : TracerProvider :=
  { p with exporters := p.exporters.filter (· ≠ e) }

/-- The state of tracing: the provider that is installed globally, whether it was set up here and
is still held, the open spans, innermost first, and the finished ones. -/
structure Tracing where
  provider : Option TracerProvider := none
  isSetUp : Bool := false
  current : List Span := []
  finished : List Span := []
  announcesLookups : Bool := false

namespace Tracing

/-- Whether the next span is recorded. -/
def records (t : Tracing) : Bool := t.provider.any (·.samples)

end Tracing

end TableDiscovery
