import Metering.Meter
import Metering.Registry

/-!
Providers: the meters of a program, one for each scope, and the readers they are collected for.
Without readers, and after shutdown, a provider hands out meters that do nothing.
-/

namespace Metering

structure Binding where
  /-- The reader's place among all readers. -/
  reader : Nat
  /-- Whether the provider's shutdown is kept from the reader. -/
  shielded : Bool
  collector : Collector

structure ProviderConfig where
  resource : Option Resource := none
  views : List View := []
  filter : ExemplarFilter := default
  deriving DecidableEq

structure Provider where
  shared : Shared
  bindings : List Binding
  registry : Registry Meter
  isShutdown : Bool := false
  /-- How many handles of the provider are left. -/
  handles : Nat := 1
  /-- How many handles of its meters callers hold. -/
  meterHandles : Nat := 0

/-- A meter as callers hold it: the scope it belongs to, unless it does nothing. -/
abbrev MeterHandle := Option ScopeIdentity

namespace Provider

/-- Builds a provider at a time of its clock, for readers given with what they ask for and whether
they are shielded. -/
def build (config : ProviderConfig) (now : UInt64)
    (readers : List (Nat × TemporalityChoice × Bool)) : Provider :=
  { shared :=
      { resource := config.resource.getD .standard
        views := config.views
        filter := config.filter
        start := now
        readers := readers.map fun (_, temporality, _) => temporality }
    bindings := readers.zipIdx.map fun ((reader, temporality, shielded), position) =>
      { reader, shielded, collector := { position, temporality, lastCollect := now } }
    registry := .empty }

def isDropped (provider : Provider) : Bool := provider.handles = 0

/-- Whether nothing keeps the provider's readers any more: a meter keeps them as long as somebody
holds it, and its own callbacks hold it too. -/
def isReleased (provider : Provider) : Bool :=
  provider.isDropped && provider.meterHandles = 0 &&
    provider.registry.snapshot.all fun meter => meter.observers.isEmpty

def nameScope (scope : Scope) : Scope × List Event :=
  if scope.name.isEmpty then ({ scope with name := Event.defaultMeterName }, [.meterNameEmpty])
  else (scope, [])

def meter (provider : Provider) (scope : Scope) : Provider × MeterHandle × List Event :=
  if provider.bindings.isEmpty then (provider, none, [])
  else if provider.isShutdown then (provider, none, [.meterAfterShutdown scope.name])
  else
    let (scope, events) := nameScope scope
    let (registry, _, isNew) := provider.registry.get scope Meter.create
    ({ provider with registry }, some scope.identity,
      events ++ if isNew then [.meterCreated scope.name] else [])

/-- The meter of a scope whose name is settled before anything else is looked at. -/
def namedMeter (provider : Provider) (scope : Scope) : Provider × MeterHandle × List Event :=
  let (scope, named) := nameScope scope
  let (provider, handle, events) := provider.meter scope
  (provider, handle, named ++ events)

def meter? (provider : Provider) (scope : ScopeIdentity) : Option Meter :=
  provider.registry.components.get? scope

def setMeter (provider : Provider) (scope : ScopeIdentity) (meter : Meter) : Provider :=
  { provider with registry := ⟨provider.registry.components.insert scope meter⟩ }

def instrument (provider : Provider) (handle : MeterHandle) (config : InstrumentConfig)
    (cells : List String) : Provider × Instrument × List Event :=
  match handle.bind fun scope => (provider.meter? scope).map (scope, ·) with
  | none => (provider, .ignoring config.number, [])
  | some (scope, meter) =>
    let (meter, instrument, events) := meter.instrument provider.shared config cells
    (provider.setMeter scope meter, instrument, events)

def record (provider : Provider) (now : UInt64) (handle : MeterHandle) (instrument : Instrument)
    (reading : Reading) (attributes : List Attribute) : Provider × List Event :=
  match handle.bind fun scope => (provider.meter? scope).map (scope, ·) with
  | none => (provider, [])
  | some (scope, meter) =>
    let (meter, events) := meter.record now instrument reading attributes
    (provider.setMeter scope meter, events)

def reset (provider : Provider) : Provider :=
  { provider with registry :=
      ⟨⟨provider.registry.components.entries.map fun (scope, meter) => (scope, meter.reset)⟩⟩ }

end Provider

end Metering
