import Metering.Stream.Series

/-!
Streams: the series of one metric, shared by all readers of a provider. Each reader has a slot that
remembers what it was last given for each series, so that its next delta can be computed without
touching what other readers know. When every reader asks for deltas, a series is dropped once all
of them have been given its latest value; totals that are observed are kept until an observation
is missed.
-/

namespace Metering

/-- Which measurements are kept as exemplars. -/
inductive ExemplarFilter where
  | alwaysOn
  | alwaysOff
  /-- Only measurements inside a sampled trace; measurements carry no trace here. -/
  | traceBased
  deriving DecidableEq, Repr

namespace ExemplarFilter

instance : Inhabited ExemplarFilter := ⟨.traceBased⟩

def samples : ExemplarFilter → Bool
  | .alwaysOn => true
  | _ => false

def name : ExemplarFilter → String
  | .alwaysOn => "AlwaysOn"
  | .alwaysOff => "AlwaysOff"
  | .traceBased => "TraceBased"

end ExemplarFilter

/-- A reader as the streams of its provider see it. -/
structure Collector where
  position : Nat
  temporality : TemporalityChoice
  /-- When the reader's last finished collection began. -/
  lastCollect : UInt64

/-- What a reader was last given for a series. -/
structure Reported where
  value : Quantity
  updates : Nat
  generation : Nat

abbrev Slot := Table AttributeSet Reported

structure Stream where
  definition : StreamDefinition
  filter : ExemplarFilter
  start : UInt64
  /-- Whether all readers ask for deltas, so that reported series can be dropped. -/
  evicting : Bool
  series : Series
  slots : List Slot

namespace Stream

def create (definition : StreamDefinition) (filter : ExemplarFilter) (start : UInt64)
    (readers : List TemporalityChoice) : Stream :=
  { definition, filter, start
    evicting := !readers.isEmpty &&
      readers.all fun temporality => temporality definition.kind = .delta
    series := .empty
    slots := readers.map fun _ => .empty }

/-- The attribute set of a measurement, less the keys that the stream does not keep. -/
def attributeSet (stream : Stream) (attributes : List Attribute) : AttributeSet :=
  match stream.definition.allowedKeys with
  | none => .ofList attributes
  | some keys => (AttributeSet.ofList attributes).restrict keys

/-- Whether a stream takes a measurement: increments must not be negative. -/
def accepts (stream : Stream) (value : Quantity) : Bool :=
  !(stream.definition.kind.isMonotonic && value.isNegative)

def record (stream : Stream) (now : UInt64) (value : Quantity) (attributes : List Attribute) :
    Stream × List Event :=
  if stream.accepts value then
    let exemplar := if stream.filter.samples then some ⟨now, value⟩ else none
    let (series, events) :=
      stream.series.take stream.definition (stream.attributeSet attributes) value exemplar
    ({ stream with series }, events)
  else (stream, [.negativeMeasurement stream.definition.name])

/-- Whether measurements are observed totals, whose last report is kept for as long as they are
observed. -/
def reportsTotals (stream : Stream) : Bool :=
  stream.definition.kind.isSum && stream.definition.kind.isPrecomputed

/-- What one reader's visit does to a series. -/
structure Visit where
  accumulation : Accumulation
  /-- The value to report, if the series has changed since the reader's last visit. -/
  value? : Option Quantity
  evicted : Bool

/-- Visits a series on behalf of a reader that last saw it as `previous`. -/
def visit (stream : Stream) (previous : Option Reported) (accumulation : Accumulation) : Visit :=
  let previous := previous.filter fun last => last.generation = accumulation.generation
  let readers := stream.slots.length
  match previous.filter fun last => last.updates = accumulation.updates with
  | some _ =>
    { accumulation, value? := none
      evicted := stream.evicting && stream.reportsTotals && accumulation.acks = readers }
  | none =>
    let value := match previous with
      | some last =>
        if stream.definition.kind.isSum then accumulation.value - last.value
        else accumulation.value
      | none => accumulation.value
    { accumulation := { accumulation with acks := accumulation.acks + 1 }
      value? := some value
      evicted := stream.evicting && !stream.reportsTotals && accumulation.acks + 1 = readers }

def point (set : AttributeSet) (accumulation : Accumulation) (start time : UInt64)
    (value : Quantity) : DataPoint :=
  { attributes := set.toList, start, time, value, exemplars := accumulation.exemplar.toList }

def visits (stream : Stream) (slot : Slot) : List (AttributeSet × Visit) :=
  stream.series.accumulations.entries.map fun (set, accumulation) =>
    (set, stream.visit (slot.get? set) accumulation)

def remember (slot : Slot) (visits : List (AttributeSet × Visit)) : Slot :=
  visits.foldl (fun slot (set, visit) =>
    if visit.value?.isSome then
      slot.insert set ⟨visit.accumulation.value, visit.accumulation.updates,
        visit.accumulation.generation⟩
    else slot) slot

/-- The series as their visits leave them, less those that are dropped. -/
def sweep (series : Series) (visits : List (AttributeSet × Visit)) : Series :=
  (visits.filter fun (_, visit) => visit.evicted).foldl (fun series (set, _) => series.evict set)
    { series with accumulations := ⟨visits.map fun (set, visit) => (set, visit.accumulation)⟩ }

/-- Visits every series on behalf of a reader. Answers the points for what has changed since the
reader's last visit, and remembers in the reader's slot what was reported, less what concerns
series that no longer exist. -/
def deltaPoints (stream : Stream) (collector : Collector) (time : UInt64) :
    Stream × List DataPoint :=
  match stream.slots[collector.position]? with
  | none => (stream, [])
  | some slot =>
    let visits := stream.visits slot
    let points := visits.filterMap fun (set, visit) =>
      visit.value?.map (point set visit.accumulation collector.lastCollect time)
    let series := sweep stream.series visits
    let kept := (remember slot visits).filter fun set last =>
      ((series.accumulations.get? set).map (·.generation)) = some last.generation
    ({ stream with series, slots := stream.slots.set collector.position kept }, points)

/-- A point for every series since the provider was built. -/
def cumulativePoints (stream : Stream) (time : UInt64) : List DataPoint :=
  stream.series.accumulations.entries.map fun (set, accumulation) =>
    point set accumulation stream.start time accumulation.value

def aggregation (stream : Stream) (temporality : Temporality) : Aggregation :=
  if stream.definition.kind.isSum then .sum temporality stream.definition.kind.isMonotonic
  else .gauge

def points (stream : Stream) (collector : Collector) (time : UInt64) : Stream × List DataPoint :=
  match collector.temporality stream.definition.kind with
  | .delta => stream.deltaPoints collector time
  | .cumulative => (stream, stream.cumulativePoints time)

/-- The metric for a reader whose collection began at `time`, unless it would have no points. -/
def collect (stream : Stream) (collector : Collector) (time : UInt64) : Stream × Option Metric :=
  let (next, points) := stream.points collector time
  let temporality := collector.temporality stream.definition.kind
  (next, if points.isEmpty then none else some
    { name := stream.definition.name
      description := stream.definition.description
      unit := stream.definition.unit
      aggregation := stream.aggregation temporality
      points })

def reset (stream : Stream) : Stream :=
  { stream with series := stream.series.clear, slots := stream.slots.map fun _ => .empty }

end Stream

end Metering
