import Metering.Workload.Basic

/-!
The command line: measures one of the workloads. `recording` and `lookup` print their throughput
every few seconds until they are interrupted, `collection` prints its figures after three seconds.
-/

namespace Metering.Workload

/-- How many threads work at the same time, the one that prints included. -/
def threadCount : Nat := 2

def say (line : String) : IO Unit := do
  IO.println line
  (← IO.getStdout).flush

def operate (workload : Workload) (load : IO.Ref Load) : IO Unit := do
  let first ← IO.rand 0 (valueCount - 1)
  let second ← IO.rand 0 (valueCount - 1)
  let third ← IO.rand 0 (valueCount - 1)
  match workload with
  | .lookup => load.modify fun load => load.lookup first
  | _ => load.modify fun load => load.record (attributes first second third)

/-- Carries out operations without end and counts them. -/
partial def work (workload : Workload) (load : IO.Ref Load) (count : IO.Ref Nat) : IO Unit := do
  operate workload load
  count.modify (· + 1)
  work workload load count

/-- Prints how many operations a second there were in each window. -/
partial def monitor (count : IO.Ref Nat) : IO Unit := do
  let began ← IO.monoMsNow
  let before ← count.get
  IO.sleep 2000
  let seconds := ((← IO.monoMsNow) - began) / 1000
  let after ← count.get
  say (throughputLine (Figures.grouped ((after - before) / seconds)))
  monitor count

def measureThroughput (workload : Workload) : IO Unit := do
  for line in headerLines (toString threadCount) do
    say line
  let load ← IO.mkRef (Load.start .cumulative 0)
  let count ← IO.mkRef 0
  for _ in [1:threadCount] do
    let _ ← IO.asTask (work workload load count) .dedicated
  monitor count

/-- Records until the flag is cleared and answers how often. -/
partial def recordWhile (load : IO.Ref Load) (active : IO.Ref Bool) (count : Nat) : IO Nat := do
  if ← active.get then
    operate .recording load
    recordWhile load active (count + 1)
  else return count

/-- Collects again and again for three seconds while another thread records. -/
partial def measureRounds (load : IO.Ref Load) (ends measurements micros rounds : Nat) :
    IO (Nat × Nat × Nat) := do
  if ends ≤ (← IO.monoMsNow) then return (measurements, micros, rounds)
  for _ in [0:1000] do
    operate .recording load
  let active ← IO.mkRef true
  let began ← IO.monoNanosNow
  let recorder ← IO.asTask (recordWhile load active 0) .dedicated
  load.modify Load.collect
  active.set false
  let count ← IO.ofExcept recorder.get
  let elapsed := ((← IO.monoNanosNow) - began) / 1000
  measureRounds load ends (measurements + count) (micros + elapsed) (rounds + 1)

def measureCollections (arguments : List String) : IO UInt32 := do
  match preference? arguments with
  | .error message =>
    IO.eprintln message
    return 2
  | .ok preference =>
    say (temporalityLine preference)
    let load ← IO.mkRef (Load.start preference 0)
    let ends := (← IO.monoMsNow) + 3000
    let (measurements, micros, rounds) ← measureRounds load ends 0 0 0
    let measured : Measured :=
      { threads := toString threadCount
        throughputs := []
        perMillisecond := Figures.column (Figures.ratio (1000 * measurements) micros)
        perIteration := Figures.column (Figures.ratio measurements rounds)
        microseconds := Figures.column (Figures.ratio micros rounds) }
    for line in resultLines measured do
      say line
    return 0

def run : List String → IO UInt32
  | "recording" :: _ => do
    measureThroughput .recording
    return 0
  | "lookup" :: _ => do
    measureThroughput .lookup
    return 0
  | "collection" :: arguments => measureCollections arguments
  | _ => do
    IO.eprintln "expected 'recording', 'lookup' or 'collection'"
    return 2

end Metering.Workload

def main (arguments : List String) : IO UInt32 := Metering.Workload.run arguments
