import Metering.Pipeline.Basic

/-!
Outlines of readers, providers and what a provider is about to be built from. A counting reader
shows all that it keeps behind locks; the other readers show how they are configured.
-/

namespace Metering

open Text Completion

namespace Pipeline

def clockOutline (pipeline : Pipeline) : String :=
  Outline.fields "TestClock" [("nanos", toString pipeline.clock.toNat)]

/-- The outline of a clock that shows the time of day, which keeps no state. -/
def systemClockOutline : String := Outline.fields "SystemClock" [("_private", "()")]

def lockedOutline (value : Option String) : String :=
  Outline.someFields "Mutex" [("data", Outline.option value), ("poisoned", Outline.bool false)]

/-- The outline of a lease: the reader's position, for as long as anything keeps the reader. -/
def leaseOutline (pipeline : Pipeline) (lease : Lease) : String :=
  let released := ((pipeline.providers[lease.provider]?).map Provider.isReleased).getD true
  Outline.fields "LeasedMetricProducer"
    [("reader", Outline.option (if released then none else some (toString lease.position)))]

def exporterOutline (pipeline : Pipeline) (exporter : Nat) : String :=
  ((pipeline.exporters[exporter]?).map Exporter.outline).getD ""

def describeReader (pipeline : Pipeline) (reader : Reader) : String :=
  match reader.kind with
  | .manual preference => Outline.fields "ManualReader" [("temporality", preference.name)]
  | .counting preference code flushes shutdowns =>
    Outline.fields "TestMetricReader" [("inner", Outline.fields "Inner" [
      ("producer", lockedOutline (reader.lease.map pipeline.leaseOutline)),
      ("shutdown_result", lockedOutline (code.map pipeline.codes.outline)),
      ("temporality", preference.name),
      ("shutdown_count", toString shutdowns),
      ("flush_count", toString flushes)])]
  | .periodic exporter _ => Outline.fields "PeriodicReader" [
      ("exporter", pipeline.exporterOutline exporter),
      ("is_shutdown", Outline.bool reader.isShutdown)]

def readerOutline (pipeline : Pipeline) (id : Nat) : String :=
  ((pipeline.readers[id]?).map pipeline.describeReader).getD ""

def shieldedOutline (pipeline : Pipeline) (reader : Nat) (shielded : Bool) : String :=
  if shielded then Outline.applied "Shielded" (pipeline.readerOutline reader)
  else pipeline.readerOutline reader

def bindingOutline (pipeline : Pipeline) (binding : Binding) : String :=
  Outline.fields "RegisteredReader" [
    ("id", toString binding.collector.position),
    ("reader", pipeline.shieldedOutline binding.reader binding.shielded),
    ("last_collect_epoch_nanos", toString binding.collector.lastCollect.toNat)]

def describeProvider (pipeline : Pipeline) (provider : Provider) : String :=
  Outline.fields "SdkMeterProvider" [
    ("clock", pipeline.clockOutline),
    ("resource", provider.shared.resource.outline),
    ("readers", Outline.list (provider.bindings.map pipeline.bindingOutline)),
    ("views", toString provider.shared.views.length),
    ("exemplar_filter", provider.shared.filter.name)]

def providerOutline (pipeline : Pipeline) (id : Nat) : String :=
  ((pipeline.providers[id]?).map pipeline.describeProvider).getD ""

/-- The outline of what a provider is about to be built from. -/
def configOutline (pipeline : Pipeline) (config : ProviderConfig) (readers : List (Nat × Bool)) :
    String :=
  Outline.fields "MeterProviderBuilder" [
    ("resource", Outline.option (config.resource.map Resource.outline)),
    ("clock", Outline.option (some pipeline.clockOutline)),
    ("readers", Outline.list (readers.map fun (reader, shielded) =>
      pipeline.shieldedOutline reader shielded)),
    ("views", toString config.views.length),
    ("exemplar_filter", config.filter.name)]

end Pipeline

end Metering
