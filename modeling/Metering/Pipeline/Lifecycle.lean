import Metering.Pipeline.Timeline

/-!
Flushing and shutting down. Readers are told one after the other without waiting for any of them,
and the code of a provider's flush or shutdown follows the codes of its readers. Only the first
shutdown of a provider reaches its readers. Dropping the last handle of a provider shuts it down if
nobody has, waits for that, and leaves its readers with nothing to collect from.
-/

namespace Metering

open Completion

namespace Pipeline

def newCode (pipeline : Pipeline) (outcome : Outcome) : Pipeline × CodeId :=
  let (codes, code) := pipeline.codes.create outcome
  ({ pipeline with codes }, code)

def complete (pipeline : Pipeline) (code : CodeId) (outcome : Outcome) : Pipeline :=
  { pipeline with codes := pipeline.codes.settle code outcome }

/-- Whether a reader's flush is let through: after its shutdown it is not. -/
def admitsFlush (reader : Reader) : Bool := !reader.isShutdown

/-- The failure of a flush for which there is no thread any more. -/
def noThread : Failure := .internal "export thread is not running"

def sendFlush (pipeline : Pipeline) (id : Nat) (reader : Reader) (worker : Worker) :
    Pipeline × CodeId :=
  let (pipeline, code) := pipeline.newCode .pending
  match worker.send? (.flush code) with
  | some worker => (pipeline.setReader id (reader.setWorker worker), code)
  | none =>
    ((pipeline.note [.flushWithoutThread]).complete code (.failed (some noThread)), code)

def flushReader (pipeline : Pipeline) (id : Nat) : Pipeline × CodeId :=
  match pipeline.readers[id]? with
  | none => pipeline.newCode .succeeded
  | some reader =>
    match reader.kind with
    | .manual _ => pipeline.newCode .succeeded
    | .counting preference code flushes shutdowns =>
      (pipeline.setReader id
        { reader with kind := .counting preference code (flushes + 1) shutdowns }).newCode
          .succeeded
    | .periodic _ worker =>
      if admitsFlush reader then pipeline.sendFlush id reader worker
      else pipeline.newCode (.failed (some .alreadyShutdown))

/-- Shuts the exporter of a reader down on the caller's own thread. That an exporter ends this thread
is left out: the call then goes on, with a code that stays pending. -/
def shutdownExporter (pipeline : Pipeline) (exporter : Nat) (code : CodeId) : Pipeline :=
  match pipeline.exporters[exporter]? with
  | none => pipeline
  | some target =>
    let (target, response) := target.shutdown
    let pipeline := pipeline.setExporter exporter target
    match response with
    | .code outcome =>
      let (pipeline, source) := pipeline.newCode outcome
      { pipeline with codes := pipeline.codes.forwardTo source code }
    | .slow duration =>
      let pipeline := { pipeline with time := pipeline.time + duration.nanos }
      pipeline.complete code .succeeded
    | .crash => pipeline

/-- Tells the thread of a reader to shut down. Without a thread the exporter is shut down
directly. -/
def sendShutdown (pipeline : Pipeline) (id : Nat) (reader : Reader) (exporter : Nat)
    (worker : Worker) : Pipeline × CodeId :=
  let (pipeline, code) := pipeline.newCode .pending
  match worker.send? (.shutdown code) with
  | some worker => (pipeline.setReader id (reader.setWorker worker), code)
  | none => ((pipeline.note [.shutdownWithoutThread]).shutdownExporter exporter code, code)

def shutdownReader (pipeline : Pipeline) (id : Nat) : Pipeline × CodeId :=
  match pipeline.readers[id]? with
  | none => pipeline.newCode .succeeded
  | some reader =>
    match reader.kind with
    | .counting preference code flushes shutdowns =>
      let pipeline := pipeline.setReader id
        { reader with kind := .counting preference code flushes (shutdowns + 1) }
      match code with
      | some code => (pipeline, code)
      | none => pipeline.newCode .succeeded
    | .manual _ =>
      if reader.isShutdown then pipeline.newCode (.failed (some .alreadyShutdown))
      else
        (pipeline.setReader id { reader with isShutdown := true, lease := none }).newCode
          .succeeded
    | .periodic exporter worker =>
      if reader.isShutdown then pipeline.newCode (.failed (some .alreadyShutdown))
      else
        let reader := { reader with isShutdown := true }
        (pipeline.setReader id reader).sendShutdown id reader exporter worker

def requestAll (request : Pipeline → Binding → Pipeline × CodeId) :
    Pipeline → List Binding → Pipeline × List CodeId
  | pipeline, [] => (pipeline, [])
  | pipeline, binding :: rest =>
    let (pipeline, code) := request pipeline binding
    let (pipeline, codes) := requestAll request pipeline rest
    (pipeline, code :: codes)

/-- Makes a request of all readers of a provider; the code answered follows theirs. -/
def broadcast (pipeline : Pipeline) (bindings : List Binding)
    (request : Pipeline → Binding → Pipeline × CodeId) : Pipeline × CodeId :=
  let (pipeline, children) := requestAll request pipeline bindings
  let (codes, code) := pipeline.codes.allOf children
  ({ pipeline with codes }, code)

def flush (pipeline : Pipeline) (provider : Nat) : Pipeline × CodeId :=
  match pipeline.providers[provider]? with
  | none => pipeline.newCode .succeeded
  | some target =>
    pipeline.broadcast target.bindings fun pipeline binding =>
      pipeline.flushReader binding.reader

/-- Shuts a reader of a provider down, unless it is shielded from that. -/
def shutdownBinding (pipeline : Pipeline) (binding : Binding) : Pipeline × CodeId :=
  if binding.shielded then pipeline.newCode .succeeded
  else pipeline.shutdownReader binding.reader

/-- Shuts a provider down; only the first time does this reach its readers. -/
def shutdownOnce (pipeline : Pipeline) (provider : Nat) : Pipeline × CodeId :=
  match pipeline.providers[provider]? with
  | none => pipeline.newCode .succeeded
  | some target =>
    if target.isShutdown then (pipeline.note [.shutdownRepeated]).newCode .succeeded
    else
      (pipeline.setProvider provider { target with isShutdown := true }).broadcast
        target.bindings shutdownBinding

def shutdown (pipeline : Pipeline) (provider : Nat) : Pipeline × CodeId :=
  (pipeline.note [.shutdownRequested]).shutdownOnce provider

/-- How long closing and dropping a provider wait for its shutdown. -/
def closeTimeout : Span := .ofSeconds 10

def closeProvider (pipeline : Pipeline) (provider : Nat) : Pipeline × CodeId :=
  let (pipeline, code) := pipeline.shutdown provider
  (pipeline.join code closeTimeout, code)

/-- Shuts a provider down whose last handle is going. -/
def shutdownOnDrop (pipeline : Pipeline) (provider : Nat) (target : Provider) : Pipeline :=
  if target.isShutdown then pipeline.note [.providerDroppedAfterShutdown]
  else
    let (pipeline, code) := (pipeline.note [.providerDropped]).shutdownOnce provider
    let pipeline := pipeline.join code closeTimeout
    match (pipeline.codes.outcome code).result? with
    | some (.error failure) => pipeline.note [.shutdownOnDropFailed failure]
    | _ => pipeline

def releaseReader (pipeline : Pipeline) (id : Nat) : Pipeline :=
  match pipeline.readers[id]? with
  | none => pipeline
  | some reader => pipeline.setReader id { reader with handles := reader.handles - 1 }

/-- Changes how a provider is held; readers that nothing keeps any more are released with it. -/
def changeHold (pipeline : Pipeline) (provider : Nat) (change : Provider → Provider) : Pipeline :=
  match pipeline.providers[provider]? with
  | none => pipeline
  | some target =>
    let held := pipeline.setProvider provider (change target)
    if (change target).isReleased && !target.isReleased then
      target.bindings.foldl (fun pipeline binding => pipeline.releaseReader binding.reader) held
    else held

def shareProvider (pipeline : Pipeline) (provider : Nat) : Pipeline :=
  pipeline.changeHold provider fun target => { target with handles := target.handles + 1 }

/-- Takes one handle of a provider away; the last one shuts it down first. -/
def releaseProvider (pipeline : Pipeline) (provider : Nat) : Pipeline :=
  match pipeline.providers[provider]? with
  | none => pipeline
  | some target =>
    let ended := if target.handles = 1 then pipeline.shutdownOnDrop provider target else pipeline
    ended.changeHold provider fun target => { target with handles := target.handles - 1 }

def releaseMeter (pipeline : Pipeline) (provider : Nat) (handle : MeterHandle) : Pipeline :=
  pipeline.changeHold provider fun target =>
    { target with meterHandles := target.meterHandles - handle.toList.length }

/-- Flushes a reader again and again until a flush is answered at once, or the attempts are used
up, and answers the code of the last flush. -/
def flushUntilAnswered (id : Nat) : Nat → Pipeline → Pipeline × CodeId
  | 0, pipeline => pipeline.flushReader id
  | attempts + 1, pipeline =>
    let (pipeline, code) := pipeline.flushReader id
    if (pipeline.codes.outcome code).isPending then
      flushUntilAnswered id attempts (pipeline.wait (.ofMillis 1) fun _ => false)
    else (pipeline, code)

/-- Makes a code the outcome of a counting reader's further shutdowns. -/
def setShutdownCode (pipeline : Pipeline) (id : Nat) (code : CodeId) : Pipeline :=
  match pipeline.readers[id]? with
  | none => pipeline
  | some reader =>
    match reader.kind with
    | .counting preference _ flushes shutdowns =>
      pipeline.setReader id
        { reader with kind := .counting preference (some code) flushes shutdowns }
    | _ => pipeline

end Pipeline

end Metering
