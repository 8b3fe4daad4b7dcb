import Metering.Attribute
import Metering.Event
import Metering.Instrument
import Metering.Table

/-!
The series of a stream: one running accumulation for each attribute set. Only so many attribute
sets are tracked; measurements for further ones are accumulated under the overflow set. The empty
set and the overflow set are always accepted and do not count towards the limit.
-/

namespace Metering

/-- The running value of a series. -/
structure Accumulation where
  value : Quantity
  updates : Nat
  /-- Tells the series from an earlier one with the same attributes. -/
  generation : Nat
  /-- How many readers have been given the current value. -/
  acks : Nat
  exemplar : Option Exemplar

structure Series where
  accumulations : Table AttributeSet Accumulation := .empty
  /-- How many of them count towards the limit. -/
  tracked : Nat := 0
  nextGeneration : Nat := 0
  limitReported : Bool := false

namespace AttributeSet

/-- The set that stands for all attribute sets beyond the limit. -/
def overflow : AttributeSet := ofList [⟨"otel.metric.overflow", .bool true⟩]

/-- Whether a set counts towards the limit. -/
def isCounted (set : AttributeSet) : Bool := !set.isEmpty && set ≠ overflow

end AttributeSet

/-- Takes a measurement into an accumulation: totals and gauges replace the value, increments are
added to it. -/
def Accumulation.take (accumulation : Accumulation) (kind : InstrumentKind)
    (value : Quantity) (exemplar : Option Exemplar) : Accumulation :=
  { accumulation with
    value := if kind.isPrecomputed then value else accumulation.value + value
    updates := accumulation.updates + 1
    acks := 0
    exemplar := exemplar.or accumulation.exemplar }

namespace Series

def empty : Series := {}

/-- Chooses the set under which a measurement for `set` is accumulated. -/
def route (series : Series) (definition : StreamDefinition) (set : AttributeSet) :
    Series × AttributeSet × List Event :=
  if set.isCounted && !series.accumulations.contains set then
    if series.tracked < definition.cardinalityLimit then
      ({ series with tracked := series.tracked + 1 }, set, [])
    else
      ({ series with limitReported := true }, .overflow,
        if series.limitReported then []
        else [.cardinalityLimitReached definition.name definition.cardinalityLimit])
  else (series, set, [])

/-- The accumulation of a set, a fresh one if it has none; a fresh one uses up a generation. -/
def accumulation (series : Series) (set : AttributeSet) (zero : Quantity) :
    Series × Accumulation :=
  let found := (series.accumulations.get? set).getD
    { value := zero, updates := 0, generation := series.nextGeneration, acks := 0, exemplar := none }
  (if found.generation = series.nextGeneration then
      { series with nextGeneration := series.nextGeneration + 1 }
    else series, found)

def take (series : Series) (definition : StreamDefinition) (set : AttributeSet)
    (value : Quantity) (exemplar : Option Exemplar) : Series × List Event :=
  let (series, key, events) := series.route definition set
  let (series, accumulation) := series.accumulation key value.zero
  ({ series with accumulations :=
      series.accumulations.insert key (accumulation.take definition.kind value exemplar) }, events)

def evict (series : Series) (set : AttributeSet) : Series :=
  if series.accumulations.contains set then
    { series with
      accumulations := series.accumulations.erase set
      tracked := if set.isCounted then series.tracked - 1 else series.tracked }
  else series

/-- Drops every series. Generations are never used again. -/
def clear (series : Series) : Series := { nextGeneration := series.nextGeneration }

end Series

end Metering
