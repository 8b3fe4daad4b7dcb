import Metering.Proofs.Pipeline.Errands
import Metering.Proofs.Pipeline.Requests

/-!
Asking the readers of a provider to flush or to shut down. A reader that is asked puts a message
with a new code into the mailbox of its thread, behind the messages that are there.
-/

namespace Metering

open Completion

/-- What a flush or shutdown of a provider asks each of its readers for. -/
def ReaderCall.request : ReaderCall → Pipeline → Binding → Pipeline × CodeId
  | .flush => fun pipeline binding => pipeline.flushReader binding.reader
  | .shutdown => Pipeline.shutdownBinding

namespace Pipeline

/-- Flushes a provider or shuts it down. -/
def tell (pipeline : Pipeline) (provider : Nat) : ReaderCall → Pipeline × CodeId
  | .flush => pipeline.flush provider
  | .shutdown => pipeline.shutdown provider

/-- The pipeline in which the readers of a provider are asked: a shutdown has set its flag. -/
def heralded (pipeline : Pipeline) (provider : Nat) (target : Provider) : ReaderCall → Pipeline
  | .flush => pipeline
  | .shutdown =>
    (pipeline.note [.shutdownRequested]).setProvider provider { target with isShutdown := true }

theorem tell_eq {pipeline : Pipeline} {provider : Nat} {target : Provider}
    (found : pipeline.providers[provider]? = some target) (running : target.isShutdown = false)
    (call : ReaderCall) :
    pipeline.tell provider call =
      (pipeline.heralded provider target call).broadcast target.bindings call.request := by
  cases call with
  | flush => simp only [tell, flush, found, heralded, ReaderCall.request]
  | shutdown =>
    have noted : (pipeline.note [.shutdownRequested]).providers[provider]? = some target := found
    simp [tell, shutdown, shutdownOnce, noted, running, heralded, ReaderCall.request]

/-- Whether a reader is periodic, has not been shut down, and its thread is running. -/
def serves (pipeline : Pipeline) (id : Nat) : Bool :=
  (pipeline.periodic? id).any fun (reader, _, worker) => !reader.isShutdown && !worker.hasEnded

/-- Whether a reader is periodic and has an exporter, for which its thread waits so long. -/
def Equipped (pipeline : Pipeline) (id : Nat) (limit : Span) : Prop :=
  ∃ reader exporter worker, pipeline.periodic? id = some (reader, exporter, worker) ∧
    exporter < pipeline.exporters.length ∧ worker.timeout = limit

instance (pipeline : Pipeline) (id : Nat) (limit : Span) :
    Decidable (pipeline.Equipped id limit) :=
  decidable_of_iff ((pipeline.periodic? id).any fun (_, exporter, worker) =>
    exporter < pipeline.exporters.length && worker.timeout = limit) <| by
      simp [Equipped, Option.any_eq_true]

theorem serves_iff {pipeline : Pipeline} {id : Nat} : pipeline.serves id = true ↔
    ∃ reader exporter worker, pipeline.periodic? id = some (reader, exporter, worker) ∧
      reader.isShutdown = false ∧ worker.hasEnded = false := by
  simp [serves, Option.any_eq_true]

theorem periodic?_of {pipeline : Pipeline} {id exporter : Nat} {reader : Reader} {worker : Worker}
    (found : pipeline.readers[id]? = some reader) (kind : reader.kind = .periodic exporter worker) :
    pipeline.periodic? id = some (reader, exporter, worker) := by
  simp only [periodic?, found, kind]

theorem Spares.periodic? {before after : Pipeline} {id exporter : Nat} {reader : Reader}
    {worker later : Worker} {exporters : List Exporter}
    (spares : before.Spares (before.readers.set id (reader.setWorker later)) exporters after)
    (found : before.readers[id]? = some reader) (kind : reader.kind = .periodic exporter worker) :
    after.periodic? id = some (reader.setWorker later, exporter, later) :=
  periodic?_of (spares.found found) (congrArg Reader.kind (Reader.setWorker_eq kind later))

theorem periodic?_congr {before after : Pipeline} {id : Nat}
    (same : after.readers[id]? = before.readers[id]?) :
    after.periodic? id = before.periodic? id := by
  simp only [periodic?, same]

/-- A reader has been given a message with a new code. -/
def posted (pipeline : Pipeline) (id : Nat) (later : Reader) : Pipeline :=
  { pipeline with
    codes := (pipeline.codes.create .pending).1
    readers := pipeline.readers.set id later }

/-- A request to a reader whose thread is running puts a message behind those in its mailbox. -/
theorem request_eq {pipeline : Pipeline} {binding : Binding} {reader : Reader} {exporter : Nat}
    {worker : Worker} (found : pipeline.periodic? binding.reader = some (reader, exporter, worker))
    (running : reader.isShutdown = false) (alive : worker.hasEnded = false) (call : ReaderCall)
    (open_ : call = .shutdown → binding.shielded = false) :
    ∃ later, later.kind = .periodic exporter { worker with
        mailbox := worker.mailbox ++ [call.message pipeline.codes.cells.length] } ∧
      call.request pipeline binding =
        (pipeline.posted binding.reader later, pipeline.codes.cells.length) := by
  obtain ⟨there, kind⟩ := of_periodic? found
  have inside := (List.getElem?_eq_some_iff.mp there).1
  cases call with
  | flush =>
    refine ⟨_, congrArg Reader.kind (Reader.setWorker_eq kind _), ?_⟩
    simp [ReaderCall.request, flushReader, there, kind, admitsFlush, running, sendFlush, newCode,
      Codes.create, Codes.push, Worker.send?, alive, setReader, ReaderCall.message, posted]
  | shutdown =>
    let flagged := { reader with isShutdown := true }
    have periodic : flagged.kind = .periodic exporter worker := kind
    refine ⟨_, congrArg Reader.kind (Reader.setWorker_eq periodic _), ?_⟩
    simp [ReaderCall.request, shutdownBinding, open_ rfl, shutdownReader, there, kind, running,
      sendShutdown, newCode, Codes.create, Codes.push, Worker.send?, alive, setReader,
      ReaderCall.message, posted, flagged]

section Posted

variable {pipeline : Pipeline} {id : Nat} {reader later : Reader}
  (there : pipeline.readers[id]? = some reader)

theorem holder_posted {other : Nat} {holder : Reader}
    (here : (pipeline.posted id later).readers[other]? = some holder) :
    (other ≠ id ∧ pipeline.readers[other]? = some holder) ∨ (other = id ∧ holder = later) := by
  by_cases same : other = id
  · subst same
    have inside := (List.getElem?_eq_some_iff.mp here).1
    rw [posted, List.length_set] at inside
    rw [posted, List.getElem?_set_self inside] at here
    exact .inr ⟨rfl, (Option.some.inj here).symm⟩
  · rw [posted, List.getElem?_set_ne (Ne.symm same)] at here
    exact .inl ⟨same, here⟩

variable (codes : later.codes = reader.codes ++ [pipeline.codes.cells.length])

include there codes

theorem held_posted {code : CodeId} (member : code ∈ (pipeline.posted id later).held) :
    code ∈ pipeline.held ∨ code = pipeline.codes.cells.length := by
  obtain ⟨holder, listed, inside⟩ := List.mem_flatMap.mp member
  rcases List.mem_or_eq_of_mem_set listed with old | rfl
  · exact .inl (List.mem_flatMap.mpr ⟨holder, old, inside⟩)
  · rw [codes] at inside
    rcases List.mem_append.mp inside with old | new
    · exact .inl (List.mem_flatMap.mpr ⟨reader, List.mem_of_getElem? there, old⟩)
    · exact .inr (List.mem_singleton.mp new)

variable (closed : pipeline.Closed)

include closed

theorem Closed.posted : (pipeline.posted id later).Closed := by
  have grown : (pipeline.posted id later).codes.cells.length = pipeline.codes.cells.length + 1 :=
    pipeline.codes.length_create .pending
  refine ⟨closed.codes.create _, fun code member => ?_⟩
  rw [grown]
  rcases held_posted there codes member with old | rfl
  · exact Nat.lt_succ_of_lt (closed.held code old)
  · exact Nat.lt_succ_self _

end Posted

end Pipeline

/-- A reader with an errand: its thread waits so long for exports, has one message for the errand at
most, and is the only one to have that. -/
structure Errand.Stands (call : ReaderCall) (limit : Span) (pipeline : Pipeline)
    (given : List CodeId) (errand : Errand) (found : List Finding) (reader : Reader)
    (exporter : Nat) (worker : Worker) : Prop where
  periodic : pipeline.periodic? errand.reader = some (reader, exporter, worker)
  present : exporter < pipeline.exporters.length
  timed : worker.timeout = limit
  single : (worker.messages.map Message.code).count errand.token ≤ 1
  alone : ∀ (other : Nat) there, pipeline.readers[other]? = some there →
    errand.token ∈ there.codes → other = errand.reader
  stage : Errand.Stage pipeline.codes given pipeline.held errand (call.message errand.token) limit
    worker found

namespace Errand.Stands

variable {call : ReaderCall} {limit : Span} {pipeline after : Pipeline}
  {given laterGiven : List CodeId} {errand : Errand} {found : List Finding} {reader : Reader}
  {exporter : Nat} {worker : Worker} {aim : CodeId}
  (stands : Stands call limit pipeline given errand found reader exporter worker)

include stands

/-- The reader of an errand is where it was while something else goes on. -/
theorem goOn (same : after.readers[errand.reader]? = pipeline.readers[errand.reader]?)
    (present : exporter < after.exporters.length)
    (former : ∀ (other : Nat) there, after.readers[other]? = some there →
      errand.token ∈ there.codes →
        ∃ old, pipeline.readers[other]? = some old ∧ errand.token ∈ old.codes)
    (advances : pipeline.codes.Advances given pipeline.held aim after.codes laterGiven after.held)
    (apart : aim ≠ errand.token) (inside : errand.token < pipeline.codes.cells.length) :
    Stands call limit after laterGiven errand found reader exporter worker where
  periodic := (Pipeline.periodic?_congr same).trans stands.periodic
  present := present
  timed := stands.timed
  single := stands.single
  alone := fun other there here concerned => by
    obtain ⟨old, before, held⟩ := former other there here concerned
    exact stands.alone other old before held
  stage := stands.stage.advance advances apart inside

end Errand.Stands

/-- A reader that has just been asked. -/
theorem Errand.stands_posted {call : ReaderCall} {limit : Span} {pipeline : Pipeline}
    {given : List CodeId} {id exporter : Nat} {reader later : Reader} {worker : Worker}
    (closed : pipeline.Closed) (there : pipeline.readers[id]? = some reader)
    (kind : later.kind = .periodic exporter { worker with
      mailbox := worker.mailbox ++ [call.message pipeline.codes.cells.length] })
    (codes : later.codes = reader.codes ++ [pipeline.codes.cells.length])
    (present : exporter < pipeline.exporters.length) (timed : worker.timeout = limit) :
    Errand.Stands call limit (pipeline.posted id later) given ⟨id, pipeline.codes.cells.length⟩ []
      later exporter { worker with
        mailbox := worker.mailbox ++ [call.message pipeline.codes.cells.length] } := by
  have unheld : pipeline.codes.cells.length ∉ pipeline.held := fun member =>
    Nat.lt_irrefl _ (closed.held _ member)
  constructor
  case periodic =>
    exact Pipeline.periodic?_of
      (List.getElem?_set_self (List.getElem?_eq_some_iff.mp there).1) kind
  case present => exact present
  case timed => exact timed
  case single =>
    have once : later.codes.count pipeline.codes.cells.length = 1 := by
      rw [codes, List.count_append, List.count_singleton_self, List.count_eq_zero.mpr fun member =>
        unheld (List.mem_flatMap.mpr ⟨reader, List.mem_of_getElem? there, member⟩)]
    simp only [Reader.codes, kind] at once
    exact Nat.le_of_eq once
  case alone =>
    intro place holder here concerned
    rcases Pipeline.holder_posted here with ⟨_, unchanged⟩ | ⟨rfl, _⟩
    · exact absurd (List.mem_flatMap.mpr ⟨holder, List.mem_of_getElem? unchanged, concerned⟩) unheld
    · rfl
  case stage =>
    exact .queued (List.mem_append_right _ (List.mem_singleton_self _)) closed.codes.heeds_create

/-- The errands of readers that have answered with certain codes. -/
def Errand.list (bindings : List Binding) (tokens : List CodeId) : List Errand :=
  List.zipWith (fun binding token => ⟨binding.reader, token⟩) bindings tokens

theorem Errand.tokens_list {bindings : List Binding} {tokens : List CodeId}
    (length : tokens.length = bindings.length) :
    (Errand.list bindings tokens).map Errand.token = tokens := by
  induction bindings generalizing tokens with
  | nil => exact (List.length_eq_zero_iff.mp length).symm
  | cons binding rest ih =>
    cases tokens with
    | nil => rfl
    | cons token later => exact congrArg (token :: ·) (ih (Nat.succ.inj length))

theorem Pipeline.length_requestAll (request : Pipeline → Binding → Pipeline × CodeId)
    (pipeline : Pipeline) (bindings : List Binding) :
    (requestAll request pipeline bindings).2.length = bindings.length := by
  induction bindings generalizing pipeline with
  | nil => rfl
  | cons binding rest ih => exact congrArg (· + 1) (ih _)

end Metering
