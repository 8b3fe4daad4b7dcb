import Metering.Failure
import Metering.Report

/-!
The internal log: what providers, readers, exporters and streams note about their work. An event
is what happened; its level, name and fields are derived from it.
-/

namespace Metering

inductive Event where
  | negativeMeasurement (stream : String)
  | cardinalityLimitReached (stream : String) (limit : Nat)
  | instrumentRefused (meter instrument : String) (fault : InstrumentFault)
  | streamConflict (meter instrument stream : String)
  | meterNameEmpty
  | meterAfterShutdown (meter : String)
  | meterCreated (meter : String)
  | providerBuilt (readers : Nat)
  | shutdownRequested
  | shutdownRepeated
  | providerDropped
  | providerDroppedAfterShutdown
  | shutdownOnDropFailed (failure : Failure)
  | manualReaderTaken
  | periodicReaderTaken
  | flushWithoutThread
  | shutdownWithoutThread
  | exportingOnFlush
  | exportingOnShutdown
  | exportingOnTimer
  | exportOverran
  | readerNotRegistered
  | collectionFailed (error : MetricError)
  | nothingCollected
  | exportFailed (failure : Failure)
  | metricLogged (scope : String) (metric : Metric)
  | pointLogged (metric : String) (point : DataPoint)

inductive Level where
  | debug
  | info
  | warn
  | error
  deriving DecidableEq, Repr

namespace Event

open Text

def level : Event → Level
  | .negativeMeasurement _ | .cardinalityLimitReached _ _ | .instrumentRefused _ _ _
  | .streamConflict _ _ _ | .manualReaderTaken | .periodicReaderTaken | .flushWithoutThread
  | .shutdownWithoutThread | .collectionFailed _ | .exportFailed _ => .warn
  | .shutdownRepeated | .metricLogged _ _ => .info
  | .shutdownOnDropFailed _ => .error
  | _ => .debug

def name : Event → String
  | .negativeMeasurement _ => "Counter.NegativeValue"
  | .cardinalityLimitReached _ _ => "MetricStorage.CardinalityLimitReached"
  | .instrumentRefused _ _ _ => "InstrumentCreationFailed"
  | .streamConflict _ _ _ => "DuplicateMetricStreamDefinition"
  | .meterNameEmpty => "MeterProvider.MeterNameEmpty"
  | .meterAfterShutdown _ => "MeterProvider.NoOpMeterReturned"
  | .meterCreated _ => "MeterProvider.NewMeterCreated"
  | .providerBuilt _ => "MeterProvider.Built"
  | .shutdownRequested => "MeterProvider.Shutdown"
  | .shutdownRepeated => "MeterProvider.AlreadyShutdown"
  | .providerDropped => "MeterProvider.Drop"
  | .providerDroppedAfterShutdown => "MeterProvider.Drop.AlreadyShutdown"
  | .shutdownOnDropFailed _ => "MeterProvider.Drop.ShutdownFailed"
  | .manualReaderTaken => "ManualReader.DuplicateRegistration"
  | .periodicReaderTaken => "PeriodicReader.DuplicateRegistration"
  | .flushWithoutThread => "PeriodicReader.ForceFlushError"
  | .shutdownWithoutThread => "PeriodicReader.ShutdownWithoutThread"
  | .exportingOnFlush => "PeriodicReader.ExportingDueToFlush"
  | .exportingOnShutdown => "PeriodicReader.ExportingDueToShutdown"
  | .exportingOnTimer => "PeriodicReader.ExportingDueToTimer"
  | .exportOverran => "PeriodicReader.ExportTookLongerThanInterval"
  | .readerNotRegistered => "PeriodicReader.NotRegistered"
  | .collectionFailed _ => "PeriodicReader.CollectError"
  | .nothingCollected => "PeriodicReader.NoMetricsCollected"
  | .exportFailed _ => "PeriodicReader.ExportError"
  | .metricLogged _ _ => "LoggingMetricExporter.Metric"
  | .pointLogged _ _ => "LoggingMetricExporter.DataPoint"

def explanation? : Event → Option String
  | .negativeMeasurement _ =>
    some "Counters only accept non-negative increments, the measurement is ignored."
  | .cardinalityLimitReached _ _ => some
      "Measurements for new attribute sets are reported under the overflow attribute set."
  | .instrumentRefused _ _ _ => some "Measurements from this instrument will be ignored."
  | .streamConflict _ _ _ => some <|
      "A stream with this name but a different definition already exists, " ++
      "measurements for it will be ignored."
  | .meterNameEmpty => some "Meter requested without a name, using the default name."
  | .shutdownRequested => some "User initiated shutdown of MeterProvider."
  | .shutdownRepeated => some "Shutdown was already invoked, ignoring the repeated call."
  | .providerDropped => some "Last reference of MeterProvider dropped, initiating shutdown."
  | .providerDroppedAfterShutdown =>
    some "MeterProvider was already shut down; drop will not attempt shutdown again."
  | .shutdownOnDropFailed _ => some "Shutdown attempt failed during drop of MeterProvider."
  | .manualReaderTaken | .periodicReaderTaken => some
      "The reader is already registered with a provider, ignoring the new registration."
  | .flushWithoutThread => some "The export thread is not running."
  | .shutdownWithoutThread =>
    some "The export thread is not running, shutting the exporter down directly."
  | .readerNotRegistered => some "No producer registered yet, skipping export."
  | _ => none

/-- The name of meters that were requested without a name. -/
def defaultMeterName : String := "unknown"

def details : Event → List (String × String)
  | .negativeMeasurement stream => [("instrument_name", stream)]
  | .cardinalityLimitReached stream limit =>
    [("stream_name", stream), ("cardinality_limit", toString limit)]
  | .instrumentRefused meter instrument fault =>
    [("meter_name", meter), ("instrument_name", instrument),
      ("reason", (MetricError.invalidInstrument fault).message)]
  | .streamConflict meter instrument stream =>
    [("meter_name", meter), ("instrument_name", instrument), ("stream_name", stream)]
  | .meterNameEmpty => [("default_name", defaultMeterName)]
  | .meterAfterShutdown meter | .meterCreated meter => [("meter_name", meter)]
  | .providerBuilt readers => [("readers", toString readers)]
  | .shutdownOnDropFailed failure => [("reason", failure.message)]
  | .collectionFailed error => [("error", error.message)]
  | .exportFailed failure => [("error", failure.message)]
  | .metricLogged scope metric =>
    [("scope", scope), ("metric_name", metric.name), ("unit", metric.unit),
      ("kind", metric.aggregation.name), ("data_points", toString metric.points.length)]
  | .pointLogged metric point =>
    [("metric_name", metric),
      ("attributes", Outline.list (point.attributes.map Attribute.outline)),
      ("value", point.value.text), ("start_time_unix_nano", toString point.start.toNat),
      ("time_unix_nano", toString point.time.toNat)]
  | _ => []

def fields (event : Event) : List (String × String) :=
  (event.explanation?.map fun text => ("message", text)).toList ++ event.details

/-- Makes changes one after the other and gathers what they note. -/
def gather {σ α : Type} (change : σ → α → σ × List Event) : σ → List α → σ × List Event
  | state, [] => (state, [])
  | state, item :: rest =>
    let (state, first) := change state item
    let (state, later) := gather change state rest
    (state, first ++ later)

end Event

end Metering
