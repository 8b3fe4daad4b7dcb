import Metering.Quantity
import Metering.Resource
import Metering.Temporality

/-!
What a collection reports: the batch of a provider's resource holds the metrics of each scope, and
a metric holds one data point for each series of its stream. Times are nanoseconds of the
provider's clock.
-/

namespace Metering

/-- A measurement kept as a typical example of its series. -/
structure Exemplar where
  time : UInt64
  value : Quantity

/-- The value of one series over a window of time. -/
structure DataPoint where
  attributes : List Attribute
  start : UInt64
  time : UInt64
  value : Quantity
  exemplars : List Exemplar

inductive Aggregation where
  | gauge
  | sum (temporality : Temporality) (monotonic : Bool)
  deriving DecidableEq, Repr

def Aggregation.name : Aggregation → String
  | .gauge => "gauge"
  | .sum _ _ => "sum"

structure Metric where
  name : String
  description : String
  unit : String
  aggregation : Aggregation
  points : List DataPoint

structure ScopeReport where
  scope : Scope
  metrics : List Metric

/-- The metrics of a provider, collected for one of its readers. -/
structure Report where
  resource : Resource
  scopes : List ScopeReport

def Report.isEmpty (report : Report) : Bool := report.scopes.isEmpty

end Metering
