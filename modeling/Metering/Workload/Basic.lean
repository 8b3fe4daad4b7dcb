import Metering.Pipeline.Lifecycle

/-!
Workloads that keep a provider busy, and what they print. Two of them measure how often a second
their operation can be carried out by several threads at once; the third measures how much can be
recorded while a reader collects. The figures measured are handed in as texts.

Counts are written with their digits in groups of three, and ratios with two decimal places at the
right of a column.
-/

namespace Metering

inductive Workload where
  | recording
  | lookup
  /-- Recording with one counter while a reader collects. -/
  | collection
  deriving DecidableEq, Repr

namespace Workload

namespace Figures

/-- Puts a comma in front of every third digit, counted from the end of the number. -/
def groupDigits : List Char → List Char
  | [] => []
  | digit :: rest =>
    if rest.length % 3 = 0 && !rest.isEmpty then digit :: ',' :: groupDigits rest
    else digit :: groupDigits rest

def grouped (count : Nat) : String := String.ofList (groupDigits (Nat.toDigits 10 count))

/-- A ratio in hundredths, a half rounded up. -/
def hundredths (numerator denominator : Nat) : Nat :=
  (200 * numerator + denominator) / (2 * denominator)

def ratio (numerator denominator : Nat) : String :=
  if denominator = 0 then if numerator = 0 then "NaN" else "inf"
  else
    let scaled := hundredths numerator denominator
    toString (scaled / 100) ++ "." ++ toString (scaled % 100 / 10) ++ toString (scaled % 10)

/-- Moves a text to the right of a column of ten places. -/
def column (text : String) : String :=
  String.ofList (List.replicate (10 - text.length) ' ') ++ text

end Figures

/-- What a run of a workload leaves behind. -/
structure Transcript where
  exitCode : Nat
  errors : String
  lines : List String
  deriving DecidableEq, Repr

structure Measured where
  threads : String
  /-- Operations a second, one figure for each window of the run. -/
  throughputs : List String
  perMillisecond : String
  perIteration : String
  microseconds : String
  deriving DecidableEq, Repr

/-- The temporality that arguments ask for, or else the message about the first one. Further
arguments do not count. -/
def preference? : List String → Except String TemporalityPreference
  | [] => .ok .cumulative
  | "delta" :: _ => .ok .delta
  | "cumulative" :: _ => .ok .cumulative
  | other :: _ =>
    .error ("unknown temporality '" ++ other ++ "', expected 'delta' or 'cumulative'")

def headerLines (threads : String) : List String := ["Number of threads: " ++ threads, ""]

def throughputLine (figure : String) : String := "Throughput: " ++ figure ++ " iterations/sec"

def temporalityLine (preference : TemporalityPreference) : String :=
  "Temporality: " ++ preference.name

def resultLines (measured : Measured) : List String := [
  measured.perMillisecond ++ " measurements/ms",
  measured.perIteration ++ " measurements/it",
  measured.microseconds ++ " μs/it"]

/-- What a run prints. Only the measurement of collections looks at its arguments; the others run
until they are interrupted. -/
def transcript (workload : Workload) (arguments : List String) (measured : Measured) :
    Transcript :=
  match workload with
  | .recording | .lookup =>
    ⟨0, "", headerLines measured.threads ++ measured.throughputs.map throughputLine⟩
  | .collection =>
    match preference? arguments with
    | .ok preference => ⟨0, "", temporalityLine preference :: resultLines measured⟩
    | .error message => ⟨2, message ++ "\n", []⟩

def meterNames : List String :=
  ["http", "grpc", "db", "cache", "queue", "scheduler", "auth", "storage"]

/-- How many values each attribute can have. -/
def valueCount : Nat := 10

def attributes (first second third : Nat) : List Attribute :=
  let value (index : Nat) : Value := .string ("value" ++ toString (index % valueCount + 1))
  [⟨"attribute1", value first⟩, ⟨"attribute2", value second⟩, ⟨"attribute3", value third⟩]

/-- A pipeline under load, with one provider, one manual reader and one counter. -/
structure Load where
  pipeline : Pipeline
  reader : Nat
  provider : Nat
  meter : MeterHandle
  counter : Instrument

namespace Load

def counterConfig (name : String) : InstrumentConfig :=
  { kind := .counter, number := .unsigned, name }

def start (preference : TemporalityPreference) (clock : UInt64) : Load :=
  let (pipeline, reader) := (Pipeline.start clock).addReader (.manual preference)
  let (pipeline, provider) := pipeline.build {} [(reader, false)]
  let (pipeline, meter) := pipeline.meter provider { name := "test" } true
  let (pipeline, counter) := pipeline.instrument provider meter (counterConfig "hello") []
  { pipeline, reader, provider, meter, counter }

def record (load : Load) (attributes : List Attribute) : Load :=
  let { pipeline, provider, meter, counter, .. } := load
  { load with pipeline := pipeline.record provider meter counter (.integer 1) attributes }

/-- Asks for one of the meters and adds one to a counter of it. -/
def lookup (load : Load) (choice : Nat) : Load :=
  let name := (meterNames[choice % meterNames.length]?).getD Event.defaultMeterName
  let (pipeline, meter) := load.pipeline.meter load.provider { name } true
  let (pipeline, counter) := pipeline.instrument load.provider meter (counterConfig "lookups") []
  let pipeline := pipeline.record load.provider meter counter (.integer 1) []
  { load with pipeline := { pipeline.releaseMeter load.provider meter with log := [] } }

def collect (load : Load) : Load :=
  { load with pipeline := (load.pipeline.collect load.reader).1 }

end Load

end Workload

end Metering
