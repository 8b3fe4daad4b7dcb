import Metering.Pipeline.Basic

/-!
The export thread of a periodic reader. Told to flush or to shut down, or when an export is due, it
collects, hands a report that is not empty to the exporter and waits for the outcome; a flush and a
shutdown then go on to the exporter, and the code of the message follows both. After a shutdown the
thread ends. Each step below is one stretch of its work without a wait.
-/

namespace Metering

open Completion

namespace Pipeline

def setWorker (pipeline : Pipeline) (id : Nat) (worker : Worker) : Pipeline :=
  match pipeline.readers[id]? with
  | none => pipeline
  | some reader => pipeline.setReader id (reader.setWorker worker)

/-- Lets a code of a message follow the export's result and the code of the exporter's own call. -/
def answer (pipeline : Pipeline) (target : CodeId) (exported : Except Failure Unit)
    (outcome : Outcome) : Pipeline :=
  let (codes, first) := pipeline.codes.create (.ofResult exported)
  let (codes, second) := codes.create outcome
  let (codes, both) := codes.allOf [first, second]
  { pipeline with codes := codes.forwardTo both target }

/-- Ends a job whose exporter calls are done. -/
def settle (pipeline : Pipeline) (id : Nat) (worker : Worker) (job : Job)
    (exported : Except Failure Unit) (outcome : Outcome) : Pipeline :=
  match job with
  | .timer => pipeline.setWorker id { worker with phase := .waiting }
  | .flush code =>
    (pipeline.answer code exported outcome).setWorker id
      { worker with phase := .waiting, schedule := worker.schedule.afterFlush pipeline.time }
  | .shutdown code => (pipeline.answer code exported outcome).setWorker id worker.stop

/-- Goes on with what the exporter answered to a flush or shutdown call. -/
def close (pipeline : Pipeline) (id : Nat) (worker : Worker) (job : Job)
    (exported : Except Failure Unit) : Response → Pipeline
  | .code outcome => pipeline.settle id worker job exported outcome
  | .slow duration =>
    pipeline.setWorker id
      { worker with phase := .closing job exported (pipeline.time + duration.nanos) }
  | .crash => pipeline.setWorker id worker.stop

/-- Goes on after the export of a job that began at `began` has ended with a result. -/
def conclude (pipeline : Pipeline) (id : Nat) (worker : Worker) (exporter : Nat) (job : Job)
    (began : Nat) (exported : Except Failure Unit) : Pipeline :=
  match job, pipeline.exporters[exporter]? with
  | .timer, _ =>
    let overran := worker.schedule.overran began pipeline.time
    (pipeline.note (if overran then [.exportOverran] else [])).setWorker id
      { worker with
        phase := .waiting
        schedule := worker.schedule.afterExport began pipeline.time }
  | .flush _, some target =>
    let (target, response) := target.flush
    (pipeline.setExporter exporter target).close id worker job exported response
  | .shutdown _, some target =>
    let (target, response) := target.shutdown
    (pipeline.setExporter exporter target).close id worker job exported response
  | _, none => pipeline

def exported (pipeline : Pipeline) (id : Nat) (worker : Worker) (exporter : Nat) (job : Job)
    (began : Nat) (result : Except Failure Unit) : Pipeline :=
  let events := match result with
    | .ok _ => []
    | .error failure => [.exportFailed failure]
  (pipeline.note events).conclude id worker exporter job began result

/-- Collects for a job and hands the report to the exporter. -/
def begin (pipeline : Pipeline) (id : Nat) (worker : Worker) (exporter : Nat)
    (lease : Option Lease) (job : Job) : Pipeline :=
  let began := pipeline.time
  match lease with
  | none =>
    (pipeline.note [.readerNotRegistered]).conclude id worker exporter job began (.ok ())
  | some lease =>
    let (pipeline, collected) := pipeline.produce lease
    match collected, pipeline.exporters[exporter]? with
    | .error error, _ =>
      (pipeline.note [.collectionFailed error]).conclude id worker exporter job began
        (.error (.internal error.message))
    | .ok report, some target =>
      if report.isEmpty then
        (pipeline.note [.nothingCollected]).conclude id worker exporter job began (.ok ())
      else
        let (target, response, events) := target.accept report
        let pipeline := (pipeline.setExporter exporter target).note events
        match response with
        | .code outcome =>
          let (codes, code) := pipeline.codes.create outcome
          ({ pipeline with codes }).setWorker id
            { worker with phase := .awaiting job began code (began + worker.timeout.nanos) }
        | .slow duration =>
          pipeline.setWorker id
            { worker with phase := .exporting job began (began + duration.nanos) }
        | .crash => pipeline.setWorker id worker.stop
    | .ok _, none => pipeline

/-- When the thread of a reader can go on, if it ever can by itself. -/
def ready? (pipeline : Pipeline) (reader : Reader) : Option Nat :=
  match reader.worker? with
  | none => none
  | some worker =>
    match worker.phase with
    | .waiting =>
      if worker.mailbox.isEmpty && reader.handles ≠ 0 then some worker.schedule.due
      else some pipeline.time
    | .exporting _ _ ends => some ends
    | .awaiting _ _ code limit =>
      if (pipeline.codes.outcome code).isPending then some limit else some pipeline.time
    | .closing _ _ ends => some ends
    | .ended => none

/-- Lets the worker of a reader go on until it has to wait again. A waiting worker takes the next
message; without one it exports, or ends when all handles of its reader are gone. -/
def proceed (pipeline : Pipeline) (id : Nat) (reader : Reader) (exporter : Nat)
    (worker : Worker) : Pipeline :=
  match worker.phase, worker.mailbox with
  | .waiting, .flush code :: rest =>
    (pipeline.note [.exportingOnFlush]).begin id { worker with mailbox := rest } exporter
      reader.lease (.flush code)
  | .waiting, .shutdown code :: rest =>
    (pipeline.note [.exportingOnShutdown]).begin id { worker with mailbox := rest } exporter
      reader.lease (.shutdown code)
  | .waiting, [] =>
    if reader.handles = 0 then pipeline.setWorker id worker.stop
    else (pipeline.note [.exportingOnTimer]).begin id worker exporter reader.lease .timer
  | .exporting job began _, _ => pipeline.exported id worker exporter job began (.ok ())
  | .awaiting job began code _, _ =>
    pipeline.exported id worker exporter job began
      (((pipeline.codes.outcome code).result?).getD (.error (.timeout worker.timeout)))
  | .closing job result _, _ => pipeline.settle id worker job result .succeeded
  | .ended, _ => pipeline

def stepWorker (pipeline : Pipeline) (id : Nat) : Pipeline :=
  match pipeline.readers[id]? with
  | none => pipeline
  | some reader =>
    match reader.kind with
    | .periodic exporter worker => pipeline.proceed id reader exporter worker
    | _ => pipeline

end Pipeline

end Metering
