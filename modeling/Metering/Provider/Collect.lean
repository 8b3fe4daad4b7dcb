import Metering.Provider.Basic

/-!
Collections. A collection for a reader reads the clock and goes through the meters there are at
that time. For each it first runs the callbacks that are registered when it comes to the meter,
and then reads the streams that exist by then. At its end the reader's last collection time is
raised to the time the clock showed at the beginning.
-/

namespace Metering

inductive Action where
  /-- Observes a value of the callback's own instrument. -/
  | observe (reading : Reading) (attributes : List Attribute)
  /-- Creates an instrument of the callback's own meter and records a measurement with it. -/
  | create (config : InstrumentConfig) (reading : Reading) (attributes : List Attribute)
  /-- Creates an observable instrument of the callback's own meter. -/
  | register (config : InstrumentConfig) (cells : List String)
  | record (handle : MeterHandle) (instrument : Instrument) (reading : Reading)
      (attributes : List Attribute)
  | request (scope : Scope)
  deriving DecidableEq, Repr

/-- What callbacks do, by the name of their cell. -/
abbrev Cells := Table String (List Action)

namespace Provider

def act (provider : Provider) (now : UInt64) (scope : ScopeIdentity) (observer : Observer) :
    Action → Provider × List Event
  | .observe reading attributes =>
    provider.record now (some scope) observer.instrument reading attributes
  | .create config reading attributes =>
    let (provider, instrument, created) := provider.instrument (some scope) config []
    let (provider, recorded) := provider.record now (some scope) instrument reading attributes
    (provider, created ++ recorded)
  | .register config cells =>
    let (provider, _, events) := provider.instrument (some scope) config cells
    (provider, events)
  | .record handle instrument reading attributes =>
    provider.record now handle instrument reading attributes
  | .request scope =>
    let (provider, _, events) := provider.namedMeter scope
    (provider, events)

def runCell (provider : Provider) (now : UInt64) (cells : Cells) (scope : ScopeIdentity)
    (observer : Observer) (cell : String) : Provider × List Event :=
  Event.gather (fun provider action => provider.act now scope observer action) provider
    ((cells.get? cell).getD [])

def runObserver (provider : Provider) (now : UInt64) (cells : Cells) (scope : ScopeIdentity)
    (observer : Observer) : Provider × List Event :=
  Event.gather (fun provider cell => provider.runCell now cells scope observer cell) provider
    observer.cells

def observers (provider : Provider) (scope : ScopeIdentity) : List Observer :=
  ((provider.meter? scope).map (·.observers)).getD []

def runObservers (provider : Provider) (now : UInt64) (cells : Cells) (scope : ScopeIdentity) :
    Provider × List Event :=
  Event.gather (fun provider observer => provider.runObserver now cells scope observer) provider
    (provider.observers scope)

/-- The reader at a position as the streams see it. -/
def collector? (provider : Provider) (position : Nat) : Option Collector :=
  (provider.bindings[position]?).map (·.collector)

/-- Reads the streams of a meter for the reader at a position; a meter without metrics is left
out. -/
def readMeter (provider : Provider) (position : Nat) (time : UInt64)
    (scope : ScopeIdentity) : Provider × Option ScopeReport :=
  match provider.meter? scope, provider.collector? position with
  | some meter, some collector =>
    let (next, metrics) := meter.read collector time
    (provider.setMeter scope next,
      if metrics.isEmpty then none else some { scope := meter.scope, metrics })
  | _, _ => (provider, none)

/-- Runs the callbacks of a meter and then reads its streams. -/
def collectMeter (provider : Provider) (cells : Cells) (position : Nat) (time : UInt64)
    (scope : ScopeIdentity) : Provider × Option ScopeReport × List Event :=
  let (provider, events) := provider.runObservers time cells scope
  let (provider, report) := provider.readMeter position time scope
  (provider, report, events)

def collectMeters (cells : Cells) (position : Nat) (time : UInt64) :
    Provider → List ScopeIdentity → Provider × List ScopeReport × List Event
  | provider, [] => (provider, [], [])
  | provider, scope :: rest =>
    let (provider, report, first) := provider.collectMeter cells position time scope
    let (provider, reports, later) := collectMeters cells position time provider rest
    (provider, report.toList ++ reports, first ++ later)

/-- Raises the last collection time of a reader; it never goes back. -/
def finish (provider : Provider) (position : Nat) (time : UInt64) : Provider :=
  { provider with bindings := provider.bindings.modify position fun binding =>
      { binding with collector := { binding.collector with
          lastCollect := max binding.collector.lastCollect time } } }

/-- Collects for the reader at a position, at a time of the clock. -/
def collect (provider : Provider) (cells : Cells) (now : UInt64) (position : Nat) :
    Provider × Except MetricError Report × List Event :=
  if provider.isDropped then (provider, .error .providerDropped, [])
  else if (provider.collector? position).isNone then (provider, .error .readerDetached, [])
  else
    let (provider, scopes, events) :=
      collectMeters cells position now provider provider.registry.components.keys
    (provider.finish position now, .ok { resource := provider.shared.resource, scopes }, events)

end Provider

end Metering
