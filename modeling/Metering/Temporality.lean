import Metering.Instrument

/-!
Temporality: whether a reader is given running totals or changes, chosen per kind of instrument by
a preference.
-/

namespace Metering

/-- The window that a reported value covers. -/
inductive Temporality where
  /-- Everything since the provider was built. -/
  | cumulative
  /-- Everything since the reader's last collection. -/
  | delta
  deriving DecidableEq, Repr

abbrev TemporalityChoice := InstrumentKind → Temporality

inductive TemporalityPreference where
  | cumulative
  | delta
  | lowMemory
  deriving DecidableEq, Repr

namespace TemporalityPreference

instance : Inhabited TemporalityPreference := ⟨.cumulative⟩

/-- The temporality for instruments of a kind. Sums that can go down stay cumulative, and low
memory use asks for deltas of synchronous counters only. -/
def temporality : TemporalityPreference → InstrumentKind → Temporality
  | .cumulative, _ => .cumulative
  | .delta, .upDownCounter | .delta, .observableUpDownCounter => .cumulative
  | .delta, _ => .delta
  | .lowMemory, .counter => .delta
  | .lowMemory, _ => .cumulative

def name : TemporalityPreference → String
  | .cumulative => "Cumulative"
  | .delta => "Delta"
  | .lowMemory => "LowMemory"

end TemporalityPreference

end Metering
