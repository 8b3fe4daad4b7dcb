import Metering.Stream.Basic
import Metering.View

/-!
Meters: the streams of one scope, by name, and the callbacks of its observable instruments. An
instrument is resolved through the views into the streams that it records into; the first
definition of a stream stands, and an instrument that defines it otherwise does not record into it.
-/

namespace Metering

/-- What all meters of a provider share. -/
structure Shared where
  resource : Resource
  views : List View
  filter : ExemplarFilter
  /-- When the provider was built. -/
  start : UInt64
  /-- What the readers ask for, by position. -/
  readers : List TemporalityChoice

/-- What an instrument records into: streams of its meter, by key. An instrument without streams
ignores its measurements. -/
structure Instrument where
  number : NumberType
  streams : List String
  deriving DecidableEq, Repr

namespace Instrument

def ignoring (number : NumberType) : Instrument := ⟨number, []⟩

def records (instrument : Instrument) : Bool := !instrument.streams.isEmpty

end Instrument

/-- The callbacks of an observable instrument: the names of the cells that say what they do. -/
structure Observer where
  instrument : Instrument
  cells : List String
  deriving DecidableEq, Repr

structure Meter where
  scope : Scope
  streams : Table String Stream := .empty
  observers : List Observer := []

def Metric.insertByName (metric : Metric) : List Metric → List Metric
  | [] => [metric]
  | other :: rest =>
    if Text.before metric.name other.name then metric :: other :: rest
    else other :: insertByName metric rest

/-- Metrics in ascending order of their names' bytes. -/
def Metric.sortByName (metrics : List Metric) : List Metric :=
  metrics.foldl (fun sorted metric => metric.insertByName sorted) []

namespace Meter

def create (scope : Scope) : Meter := { scope }

/-- Finds or makes the stream of a definition. Answers its key unless a stream of that name has
another definition. -/
def join (meter : Meter) (shared : Shared) (definition : StreamDefinition) :
    Meter × Option String :=
  match meter.streams.get? definition.key with
  | some existing =>
    (meter, if existing.definition.same definition then some definition.key else none)
  | none =>
    let stream := Stream.create definition shared.filter shared.start shared.readers
    ({ meter with streams := meter.streams.insert definition.key stream }, some definition.key)

/-- Joins streams one after the other, leaving out those with a conflicting definition. -/
def joinAll (shared : Shared) (instrument : String) :
    Meter → List StreamDefinition → Meter × List String × List Event
  | meter, [] => (meter, [], [])
  | meter, definition :: rest =>
    let (meter, key?) := meter.join shared definition
    let (meter, keys, events) := joinAll shared instrument meter rest
    match key? with
    | some key => (meter, key :: keys, events)
    | none =>
      (meter, keys, .streamConflict meter.scope.name instrument definition.name :: events)

def resolve (meter : Meter) (shared : Shared) (config : InstrumentConfig) :
    Meter × Instrument × List Event :=
  match config.fault? with
  | some fault =>
    (meter, .ignoring config.number, [.instrumentRefused meter.scope.name config.name fault])
  | none =>
    let definitions := View.streams shared.views meter.scope.name config
    let (meter, keys, events) := joinAll shared config.name meter definitions
    (meter, ⟨config.number, keys⟩, events)

/-- Creates an instrument. Callbacks are registered only if it is observable, has some, and
records into a stream. -/
def instrument (meter : Meter) (shared : Shared) (config : InstrumentConfig)
    (cells : List String) : Meter × Instrument × List Event :=
  let (meter, instrument, events) := meter.resolve shared config
  let registers := config.kind.isObservable && instrument.records && !cells.isEmpty
  (if registers then { meter with observers := meter.observers ++ [⟨instrument, cells⟩] }
    else meter, instrument, events)

def recordInto (meter : Meter) (now : UInt64) (value : Quantity) (attributes : List Attribute)
    (key : String) : Meter × List Event :=
  match meter.streams.get? key with
  | none => (meter, [])
  | some stream =>
    let (stream, events) := stream.record now value attributes
    ({ meter with streams := meter.streams.insert key stream }, events)

def record (meter : Meter) (now : UInt64) (instrument : Instrument) (reading : Reading)
    (attributes : List Attribute) : Meter × List Event :=
  Event.gather
    (fun meter key => meter.recordInto now (instrument.number.quantity reading) attributes key)
    meter instrument.streams

/-- Collects every stream for a reader, in the order of the metrics' names. -/
def read (meter : Meter) (collector : Collector) (time : UInt64) : Meter × List Metric :=
  let results := meter.streams.entries.map fun (key, stream) =>
    (key, stream.collect collector time)
  ({ meter with streams := ⟨results.map fun (key, stream, _) => (key, stream)⟩ },
    Metric.sortByName (results.filterMap fun (_, _, metric?) => metric?))

def reset (meter : Meter) : Meter :=
  { meter with streams :=
      ⟨meter.streams.entries.map fun (key, stream) => (key, stream.reset)⟩ }

end Meter

end Metering
