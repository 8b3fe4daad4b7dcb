import Metering.Completion.Operations
import Metering.Exporter
import Metering.Reader.Schedule
import Metering.Stream.Basic

/-!
Readers: what a provider's metrics are collected for. A manual reader collects when it is asked to;
a counting reader does so too, counts the calls it gets and can be told how its shutdown ends; a
periodic reader has a thread that collects and exports at intervals and when it is told to.
-/

namespace Metering

open Completion

def PeriodicConfig.outline (config : PeriodicConfig) (exporter : Exporter) : String :=
  Text.Outline.fields "PeriodicReaderBuilder" [
    ("interval", config.interval.text),
    ("timeout", config.timeout.text),
    ("exporter", exporter.outline)]

/-- What a reader collects from: a provider, and the reader's position there. -/
structure Lease where
  provider : Nat
  position : Nat
  deriving DecidableEq, Repr

inductive Message where
  | flush (code : CodeId)
  | shutdown (code : CodeId)
  deriving DecidableEq, Repr

inductive Job where
  | timer
  | flush (code : CodeId)
  | shutdown (code : CodeId)
  deriving DecidableEq, Repr

inductive Phase where
  /-- It waits for a message until its schedule says that an export is due. -/
  | waiting
  /-- It is inside the exporter's export call, which succeeds at a time. -/
  | exporting (job : Job) (began ends : Nat)
  /-- It waits for the code of an export until a time. -/
  | awaiting (job : Job) (began : Nat) (code : CodeId) (limit : Nat)
  /-- It is inside the exporter's flush or shutdown call, which succeeds at a time; the export
  ended with a result. -/
  | closing (job : Job) (exported : Except Failure Unit) (ends : Nat)
  /-- It has ended. Messages can no longer be sent to it. -/
  | ended

structure Worker where
  timeout : Span
  schedule : Schedule
  mailbox : List Message := []
  phase : Phase := .waiting

namespace Worker

def create (config : PeriodicConfig) (now : Nat) : Worker :=
  { timeout := config.timeout, schedule := .start config.interval.nanos now }

def hasEnded (worker : Worker) : Bool :=
  match worker.phase with
  | .ended => true
  | _ => false

/-- Sends a message, unless the thread has ended. -/
def send? (worker : Worker) (message : Message) : Option Worker :=
  if worker.hasEnded then none
  else some { worker with mailbox := worker.mailbox ++ [message] }

/-- Ends the thread; messages not yet taken are lost. -/
def stop (worker : Worker) : Worker := { worker with mailbox := [], phase := .ended }

/-- A bound on how many steps the thread takes from `now` until `limit`: a job takes at most four,
and a message can bring one export forward. -/
def stepsUntil (worker : Worker) (now limit : Nat) : Nat :=
  8 * ((limit - now) / (worker.schedule.interval + 1) + 2 * worker.mailbox.length + 4)

end Worker

inductive ReaderKind where
  | manual (preference : TemporalityPreference)
  | counting (preference : TemporalityPreference) (shutdownCode : Option CodeId)
      (flushes shutdowns : Nat)
  | periodic (exporter : Nat) (worker : Worker)

structure Reader where
  kind : ReaderKind
  lease : Option Lease := none
  isShutdown : Bool := false
  /-- How many handles of the reader are left: those of callers and those of providers. -/
  handles : Nat := 1

namespace Reader

/-- Hands a reader what to collect from. A reader keeps the first lease, but a counting reader
takes every new one. -/
def register (reader : Reader) (lease : Lease) : Reader × List Event :=
  match reader.kind, reader.lease with
  | .manual _, some _ => (reader, [.manualReaderTaken])
  | .periodic _ _, some _ => (reader, [.periodicReaderTaken])
  | _, _ => ({ reader with lease := some lease }, [])

/-- Whether collections on demand are refused: a manual reader refuses them after its shutdown. -/
def refusesCollections (reader : Reader) : Bool :=
  match reader.kind with
  | .manual _ => reader.isShutdown
  | _ => false

def worker? (reader : Reader) : Option Worker :=
  match reader.kind with
  | .periodic _ worker => some worker
  | _ => none

def exporter? (reader : Reader) : Option Nat :=
  match reader.kind with
  | .periodic exporter _ => some exporter
  | _ => none

def setWorker (reader : Reader) (worker : Worker) : Reader :=
  match reader.kind with
  | .periodic exporter _ => { reader with kind := .periodic exporter worker }
  | _ => reader

end Reader

end Metering
