import Metering.Provider.Collect
import Metering.Reader.Basic

/-!
Pipelines: providers, their readers and exporters, the codes of what they have been told to do, and
the log. All providers share one clock, which stands still unless it is moved; waiting and
exporting take place on a time line of their own.
-/

namespace Metering

open Completion

/-- Providers, readers and exporters at work together. -/
structure Pipeline where
  clock : UInt64
  /-- How much time has passed, in nanoseconds. -/
  time : Nat := 0
  codes : Codes := .empty
  /-- What the callbacks of observable instruments do. -/
  cells : Cells := .empty
  exporters : List Exporter := []
  readers : List Reader := []
  providers : List Provider := []
  log : List Event := []

namespace Pipeline

def start (clock : UInt64) : Pipeline := { clock }

def note (pipeline : Pipeline) (events : List Event) : Pipeline :=
  { pipeline with log := pipeline.log ++ events }

/-- Moves the clock on; it starts again from zero behind its last value. -/
def advance (pipeline : Pipeline) (nanos : UInt64) : Pipeline :=
  { pipeline with clock := pipeline.clock + nanos }

def setClock (pipeline : Pipeline) (clock : UInt64) : Pipeline := { pipeline with clock }

def setCell (pipeline : Pipeline) (cell : String) (actions : List Action) : Pipeline :=
  { pipeline with cells := pipeline.cells.insert cell actions }

def setReader (pipeline : Pipeline) (id : Nat) (reader : Reader) : Pipeline :=
  { pipeline with readers := pipeline.readers.set id reader }

def setProvider (pipeline : Pipeline) (id : Nat) (provider : Provider) : Pipeline :=
  { pipeline with providers := pipeline.providers.set id provider }

def setExporter (pipeline : Pipeline) (id : Nat) (exporter : Exporter) : Pipeline :=
  { pipeline with exporters := pipeline.exporters.set id exporter }

def addExporter (pipeline : Pipeline) (exporter : Exporter) : Pipeline × Nat :=
  ({ pipeline with exporters := pipeline.exporters ++ [exporter] }, pipeline.exporters.length)

def addReader (pipeline : Pipeline) (kind : ReaderKind) : Pipeline × Nat :=
  ({ pipeline with readers := pipeline.readers ++ [{ kind }] }, pipeline.readers.length)

/-- Adds a periodic reader of an exporter; its thread starts at once. -/
def addPeriodic (pipeline : Pipeline) (exporter : Nat) (config : PeriodicConfig) :
    Pipeline × Nat :=
  pipeline.addReader (.periodic exporter (.create config pipeline.time))

def addPeriodics : Pipeline → List Nat → Pipeline × List Nat
  | pipeline, [] => (pipeline, [])
  | pipeline, exporter :: rest =>
    let (pipeline, reader) := pipeline.addPeriodic exporter (.ofSettings none none)
    let (pipeline, readers) := addPeriodics pipeline rest
    (pipeline, reader :: readers)

def clearExporter (pipeline : Pipeline) (id : Nat) : Pipeline :=
  match pipeline.exporters[id]? with
  | none => pipeline
  | some exporter => pipeline.setExporter id exporter.clear

/-- The preference of a reader; that of a periodic reader is its exporter's. -/
def preference (pipeline : Pipeline) (reader : Nat) : TemporalityPreference :=
  match pipeline.readers[reader]? with
  | none => default
  | some reader =>
    match reader.kind with
    | .manual preference => preference
    | .counting preference _ _ _ => preference
    | .periodic exporter _ => ((pipeline.exporters[exporter]?).map (·.preference)).getD default

/-- What a reader asks for: a periodic reader leaves that to its exporter. -/
def temporality (pipeline : Pipeline) (reader : Nat) : TemporalityChoice :=
  match ((pipeline.readers[reader]?).bind Reader.exporter?).bind (pipeline.exporters[·]?) with
  | some exporter => exporter.temporality
  | none => (pipeline.preference reader).temporality

def registerAll (pipeline : Pipeline) (provider : Nat) : List Binding → Pipeline
  | [] => pipeline
  | binding :: rest =>
    match pipeline.readers[binding.reader]? with
    | none => registerAll pipeline provider rest
    | some reader =>
      let (registered, events) := reader.register ⟨provider, binding.collector.position⟩
      let counted := { registered with handles := registered.handles + 1 }
      registerAll ((pipeline.setReader binding.reader counted).note events) provider rest

/-- Builds a provider for readers, each of them shielded from its shutdown or not. -/
def build (pipeline : Pipeline) (config : ProviderConfig) (readers : List (Nat × Bool)) :
    Pipeline × Nat :=
  let provider := Provider.build config pipeline.clock <|
    readers.map fun (reader, shielded) =>
      (reader, pipeline.temporality reader, shielded)
  let id := pipeline.providers.length
  let added := { pipeline with providers := pipeline.providers ++ [provider] }
  ((added.registerAll id provider.bindings).note [.providerBuilt readers.length], id)

/-- Makes a change to a provider that notes events and has an answer. -/
def change {α : Type} (pipeline : Pipeline) (id : Nat) (absent : α)
    (act : Provider → Provider × α × List Event) : Pipeline × α :=
  match pipeline.providers[id]? with
  | none => (pipeline, absent)
  | some provider =>
    let (provider, answer, events) := act provider
    ((pipeline.setProvider id provider).note events, answer)

/-- Hands out the meter of a scope, with an empty name replaced either first or only when it is
needed. -/
def meter (pipeline : Pipeline) (provider : Nat) (scope : Scope) (named : Bool) :
    Pipeline × MeterHandle :=
  pipeline.change provider none fun provider =>
    let (provider, handle, events) :=
      if named then provider.namedMeter scope else provider.meter scope
    ({ provider with meterHandles := provider.meterHandles + handle.toList.length }, handle, events)

def instrument (pipeline : Pipeline) (provider : Nat) (handle : MeterHandle)
    (config : InstrumentConfig) (cells : List String) : Pipeline × Instrument :=
  pipeline.change provider (.ignoring config.number) fun provider =>
    provider.instrument handle config cells

def record (pipeline : Pipeline) (provider : Nat) (handle : MeterHandle)
    (instrument : Instrument) (reading : Reading) (attributes : List Attribute) : Pipeline :=
  (pipeline.change provider () fun provider =>
    let (provider, events) :=
      provider.record pipeline.clock handle instrument reading attributes
    (provider, (), events)).1

def recordTimes (pipeline : Pipeline) (provider : Nat) (handle : MeterHandle)
    (instrument : Instrument) (reading : Reading) (attributes : List Attribute) :
    Nat → Pipeline
  | 0 => pipeline
  | times + 1 =>
    (pipeline.record provider handle instrument reading attributes).recordTimes provider handle
      instrument reading attributes times

def reset (pipeline : Pipeline) (provider : Nat) : Pipeline :=
  (pipeline.change provider () fun provider => (provider.reset, (), [])).1

def produce (pipeline : Pipeline) (lease : Lease) : Pipeline × Except MetricError Report :=
  pipeline.change lease.provider (.error .providerDropped) fun provider =>
    provider.collect pipeline.cells pipeline.clock lease.position

def collect (pipeline : Pipeline) (reader : Nat) : Pipeline × Except MetricError Report :=
  match pipeline.readers[reader]? with
  | none => (pipeline, .error .readerNotRegistered)
  | some reader =>
    if reader.refusesCollections then (pipeline, .error .readerShutDown)
    else
      match reader.lease with
      | none => (pipeline, .error .readerNotRegistered)
      | some lease => pipeline.produce lease

end Pipeline

end Metering
