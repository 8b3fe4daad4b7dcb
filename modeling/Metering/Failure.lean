import Metering.Instrument
import Metering.Number

/-!
Failures of operations on readers and exporters, and errors of collections and of the configuration
of views and instruments, with their messages.
-/

namespace Metering

open Text

/-- Why a flush, a shutdown or an export failed. -/
inductive Failure where
  | alreadyShutdown
  | timeout (limit : Span)
  | internal (reason : String)
  deriving DecidableEq, Repr

namespace Failure

def message : Failure → String
  | .alreadyShutdown => "Shutdown already invoked"
  | .timeout limit => "Operation timed out after " ++ limit.text
  | .internal reason => "Operation failed: " ++ reason

def outline : Failure → String
  | .alreadyShutdown => "AlreadyShutdown"
  | .timeout limit => Outline.applied "Timeout" limit.text
  | .internal reason => Outline.applied "InternalFailure" (quote reason)

/-- The failure reported for an operation that failed without a reason. -/
def unexplained : Failure := .internal "operation failed"

/-- The failure of an operation that needs a lock which a failed task left behind. -/
def ofAbandonedLock (detail : String) : Failure := .internal ("Mutex poisoned: " ++ detail)

end Failure

/-- How a lock that a failed task left behind is described. -/
def abandonedLock : String := "poisoned lock: another task failed inside"

inductive MetricError where
  /-- A failed task left the needed lock behind. -/
  | abandonedLock
  | readerShutDown
  | readerNotRegistered
  | providerDropped
  | readerDetached
  | viewSelectsNothing
  | zeroCardinalityLimit
  | renameByWildcard
  | invalidInstrument (fault : InstrumentFault)
  deriving DecidableEq, Repr

inductive ErrorCategory where
  | other
  | configuration
  | instrument
  deriving DecidableEq, Repr

namespace MetricError

def category : MetricError → ErrorCategory
  | .viewSelectsNothing | .zeroCardinalityLimit | .renameByWildcard => .configuration
  | .invalidInstrument _ => .instrument
  | _ => .other

/-- The message without the words for its category. -/
def reason : MetricError → String
  | .abandonedLock => Metering.abandonedLock
  | .readerShutDown => "reader is shut down"
  | .readerNotRegistered => "reader is not registered"
  | .providerDropped => "meter provider is dropped"
  | .readerDetached => "reader is no longer registered"
  | .viewSelectsNothing => "a view must select instruments by name, kind or meter name"
  | .zeroCardinalityLimit => "the cardinality limit must be greater than zero"
  | .renameByWildcard =>
    "renaming a stream requires an instrument name selector without wildcards"
  | .invalidInstrument fault => fault.message

def message (error : MetricError) : String :=
  match error.category with
  | .other => "Metrics error: " ++ error.reason
  | .configuration => "Config error " ++ error.reason
  | .instrument => "Invalid instrument configuration: " ++ error.reason

end MetricError

end Metering
