import Metering.Pipeline.ExportThread

/-!
Waiting. While a caller waits, the export threads go on in the order of the times at which they
can, those of earlier readers first; the wait ends as soon as what it is for has come about, and at
its limit at the latest.
-/

namespace Metering

open Completion

namespace Pipeline

/-- The thread that can go on first, with the time at which it can. -/
def next? (pipeline : Pipeline) : Option (Nat × Nat) :=
  pipeline.readers.zipIdx.foldl (fun first (reader, id) =>
    match first, pipeline.ready? reader with
    | first, none => first
    | none, some time => some (time, id)
    | some (earliest, other), some time =>
      if time < earliest then some (time, id) else some (earliest, other)) none

/-- How many steps all threads together can take before a time. -/
def stepsUntil (pipeline : Pipeline) (limit : Nat) : Nat :=
  pipeline.readers.foldl (fun steps reader =>
    match reader.worker? with
    | none => steps
    | some worker => steps + worker.stepsUntil pipeline.time limit) 1

/-- Lets threads go on for at most `fuel` steps, until `done` holds or the limit has come. -/
def waitFor (limit : Nat) (done : Pipeline → Bool) : Nat → Pipeline → Pipeline
  | 0, pipeline => { pipeline with time := max pipeline.time limit }
  | fuel + 1, pipeline =>
    if done pipeline then pipeline
    else
      match pipeline.next? with
      | some (time, id) =>
        if time ≤ limit then
          waitFor limit done fuel
            (stepWorker { pipeline with time := max pipeline.time time } id)
        else { pipeline with time := max pipeline.time limit }
      | none => { pipeline with time := max pipeline.time limit }

def wait (pipeline : Pipeline) (span : Span) (done : Pipeline → Bool) : Pipeline :=
  let limit := pipeline.time + span.nanos
  waitFor limit done (pipeline.stepsUntil limit) pipeline

/-- Lets all threads do what they can at the present time. -/
def catchUp (pipeline : Pipeline) : Pipeline := pipeline.wait .zero fun _ => false

/-- Waits for a code. A wait of no time only looks at it: no thread has time to answer. -/
def join (pipeline : Pipeline) (code : CodeId) (span : Span) : Pipeline :=
  if span.isZero then pipeline
  else pipeline.wait span fun pipeline => !(pipeline.codes.outcome code).isPending

def exportedReports (pipeline : Pipeline) (reader : Nat) : List Report :=
  (((pipeline.readers[reader]?).bind Reader.exporter?).bind fun exporter =>
    (pipeline.exporters[exporter]?).map (·.reports)).getD []

/-- Waits until a reader's exporter keeps a number of reports, and answers whether it does. The
threads then finish what they can do without a wait, so that an export which has arrived also has
answered whoever asked for it. -/
def awaitExports (pipeline : Pipeline) (reader count : Nat) (span : Span) : Pipeline × Bool :=
  let arrived (pipeline : Pipeline) := decide (count ≤ (pipeline.exportedReports reader).length)
  let pipeline := pipeline.wait span arrived
  (pipeline.catchUp, arrived pipeline)

end Pipeline

end Metering
