import Metering.Pipeline.Lifecycle
import Metering.Proofs.Completion.Drain

/-!
What an export thread does in one stretch of work. It goes on with its job, answers the message of
the job, or ends; messages are taken in the order in which they were sent. Providers stay as their
callers left them but for what collecting changes, and an exporter that never fails to return keeps
to that.
-/

namespace Metering

open Completion

/-- The code that answers a message. -/
def Message.code : Message → CodeId
  | .flush code => code
  | .shutdown code => code

def Message.isShutdown : Message → Bool
  | .flush _ => false
  | .shutdown _ => true

/-- The message that a job answers. -/
def Job.message? : Job → Option Message
  | .timer => none
  | .flush code => some (.flush code)
  | .shutdown code => some (.shutdown code)

def Phase.job? : Phase → Option Job
  | .exporting job _ _ => some job
  | .awaiting job _ _ _ => some job
  | .closing job _ _ => some job
  | _ => none

/-- The messages that a thread has not answered yet, the first one first. -/
def Worker.messages (worker : Worker) : List Message :=
  (worker.phase.job?.bind Job.message?).toList ++ worker.mailbox

/-- Whether an exporter returns from every call. -/
def Exporter.Calm (exporter : Exporter) : Prop :=
  match exporter.kind with
  | .scripted exports flush shutdown => .crash ∉ exports ∧ flush ≠ .crash ∧ shutdown ≠ .crash
  | _ => True

instance (exporter : Exporter) : Decidable exporter.Calm :=
  match kind : exporter.kind with
  | .memory => .isTrue (by simp [Exporter.Calm, kind])
  | .logging => .isTrue (by simp [Exporter.Calm, kind])
  | .scripted exports flush shutdown =>
    decidable_of_iff (.crash ∉ exports ∧ flush ≠ .crash ∧ shutdown ≠ .crash)
      (by simp [Exporter.Calm, kind])

namespace Exporter

theorem Calm.accept {exporter : Exporter} (calm : exporter.Calm) (report : Report) :
    (exporter.accept report).1.Calm ∧ (exporter.accept report).2.1 ≠ .crash := by
  unfold Calm at calm
  unfold Exporter.accept Calm
  cases kind : exporter.kind with
  | memory => simp
  | logging => cases exporter.isShutdown <;> simp
  | scripted exports flush shutdown =>
    rw [kind] at calm
    refine ⟨⟨fun member => calm.1 (List.mem_of_mem_tail member), calm.2⟩, ?_⟩
    cases exports with
    | nil => exact nofun
    | cons first rest => exact fun same => calm.1 (List.mem_cons.mpr (.inl same.symm))

theorem Calm.flush {exporter : Exporter} (calm : exporter.Calm) :
    exporter.flush.1.Calm ∧ exporter.flush.2 ≠ .crash := by
  refine ⟨calm, ?_⟩
  unfold Calm at calm
  unfold Exporter.flush
  cases kind : exporter.kind with
  | scripted exports flush shutdown =>
    rw [kind] at calm
    exact calm.2.1
  | _ => exact nofun

theorem Calm.shutdown {exporter : Exporter} (calm : exporter.Calm) :
    exporter.shutdown.1.Calm ∧ exporter.shutdown.2 ≠ .crash := by
  refine ⟨calm, ?_⟩
  unfold Calm at calm
  unfold Exporter.shutdown
  cases kind : exporter.kind with
  | scripted exports flush shutdown =>
    rw [kind] at calm
    exact calm.2.2
  | _ => exact nofun

end Exporter

/-- What the code of a message follows: the result of an export and a code of the exporter. -/
def Completion.Codes.answer (codes : Codes) (target : CodeId) (exported : Except Failure Unit)
    (outcome : Outcome) : Codes :=
  let (codes, first) := codes.create (.ofResult exported)
  let (codes, second) := codes.create outcome
  let (codes, both) := codes.allOf [first, second]
  codes.forwardTo both target

namespace Pipeline

theorem codes_answer (pipeline : Pipeline) (target : CodeId) (exported : Except Failure Unit)
    (outcome : Outcome) :
    (pipeline.answer target exported outcome).codes =
      pipeline.codes.answer target exported outcome := rfl

/-- What a stretch of work at a job comes to, for a thread whose other messages wait in the mailbox
of `base`. -/
inductive Progress (before : Pipeline) (id : Nat) (reader : Reader) (exporter : Nat)
    (base : Worker) (job : Job) (after : Pipeline) : Prop where
  /-- There is no exporter to go on with. -/
  | stuck (absent : before.exporters[exporter]? = none) (codes : after.codes = before.codes)
      (readers : after.readers = before.readers)
  | held (phase : Phase) (same : phase.job? = some job)
      (codes : after.codes = before.codes ∨
        ∃ outcome, after.codes = (before.codes.create outcome).1)
      (readers : after.readers =
        before.readers.set id (reader.setWorker { base with phase }))
  | rested (schedule : Schedule) (timer : job = .timer) (codes : after.codes = before.codes)
      (readers : after.readers =
        before.readers.set id (reader.setWorker { base with phase := .waiting, schedule }))
  | flushed (code : CodeId) (exported : Except Failure Unit) (outcome : Outcome)
      (schedule : Schedule) (flush : job = .flush code)
      (codes : after.codes = before.codes.answer code exported outcome)
      (readers : after.readers =
        before.readers.set id (reader.setWorker { base with phase := .waiting, schedule }))
  | ended (code : CodeId) (exported : Except Failure Unit) (outcome : Outcome)
      (shutdown : job = .shutdown code)
      (codes : after.codes = before.codes.answer code exported outcome)
      (readers : after.readers = before.readers.set id (reader.setWorker base.stop))
  | crashed (target : Exporter) (present : before.exporters[exporter]? = some target)
      (wild : ¬target.Calm) (codes : after.codes = before.codes)
      (readers : after.readers = before.readers.set id (reader.setWorker base.stop))

section Progress

variable {before : Pipeline} {id : Nat} {reader : Reader} {exporter : Nat} {base : Worker}
  {job : Job}

theorem codes_setWorker (pipeline : Pipeline) (id : Nat) (worker : Worker) :
    (pipeline.setWorker id worker).codes = pipeline.codes := by
  unfold setWorker
  split <;> rfl

theorem readers_setWorker {pipeline : Pipeline} (readers : pipeline.readers = before.readers)
    (found : before.readers[id]? = some reader) (worker : Worker) :
    (pipeline.setWorker id worker).readers = before.readers.set id (reader.setWorker worker) := by
  rw [← readers] at found ⊢
  simp only [setWorker, found, setReader]

end Progress

section Progress

variable (before early : Pipeline) {id : Nat} {reader : Reader} {exporter : Nat} {base : Worker}
  {job : Job} (codes : early.codes = before.codes) (readers : early.readers = before.readers)
  (found : before.readers[id]? = some reader)

include codes readers found

/-- The codes and readers of `early` are those that the stretch of work began with. -/
theorem progress_settle (exported : Except Failure Unit) (outcome : Outcome) :
    before.Progress id reader exporter base job (early.settle id base job exported outcome) := by
  cases job with
  | timer =>
    exact .rested base.schedule rfl ((codes_setWorker ..).trans codes)
      (readers_setWorker (by exact readers) found _)
  | flush code =>
    refine .flushed code exported outcome _ rfl ?_ (readers_setWorker (by exact readers) found _)
    exact (codes_setWorker ..).trans (codes ▸ early.codes_answer code exported outcome)
  | shutdown code =>
    refine .ended code exported outcome rfl ?_ (readers_setWorker (by exact readers) found _)
    exact (codes_setWorker ..).trans (codes ▸ early.codes_answer code exported outcome)

theorem progress_close {target : Exporter} (present : before.exporters[exporter]? = some target)
    {response : Response} (calm : target.Calm → response ≠ .crash)
    (exported : Except Failure Unit) :
    before.Progress id reader exporter base job (early.close id base job exported response) := by
  cases response with
  | code outcome => exact before.progress_settle early codes readers found exported outcome
  | slow duration =>
    exact .held (.closing job exported _) rfl (.inl ((codes_setWorker ..).trans codes))
      (readers_setWorker (by exact readers) found _)
  | crash =>
    exact .crashed target present (fun quiet => calm quiet rfl) ((codes_setWorker ..).trans codes)
      (readers_setWorker (by exact readers) found _)

theorem progress_conclude (exporters : early.exporters = before.exporters) (began : Nat)
    (exported : Except Failure Unit) :
    before.Progress id reader exporter base job
      (early.conclude id base exporter job began exported) := by
  unfold conclude
  split
  next =>
    exact .rested _ rfl ((codes_setWorker ..).trans codes)
      (readers_setWorker (by exact readers) found _)
  next code target present =>
    exact before.progress_close (early.setExporter exporter target.flush.1) codes readers found
      (exporters ▸ present) (fun calm => calm.flush.2) exported
  next code target present =>
    exact before.progress_close (early.setExporter exporter target.shutdown.1) codes readers found
      (exporters ▸ present) (fun calm => calm.shutdown.2) exported
  next absent => exact .stuck (exporters ▸ absent) codes readers

omit codes readers found

theorem produce_fields (pipeline : Pipeline) (lease : Lease) :
    (pipeline.produce lease).1.codes = pipeline.codes ∧
      (pipeline.produce lease).1.readers = pipeline.readers ∧
      (pipeline.produce lease).1.exporters = pipeline.exporters := by
  unfold produce change
  split <;> exact ⟨rfl, rfl, rfl⟩

include found

theorem progress_begin (lease : Option Lease) (events : List Event) :
    before.Progress id reader exporter base job
      ((before.note events).begin id base exporter lease job) := by
  cases lease with
  | none =>
    exact before.progress_conclude ((before.note events).note [.readerNotRegistered]) rfl rfl found
      rfl before.time (.ok ())
  | some lease =>
    have fields := (before.note events).produce_fields lease
    simp only [begin]
    generalize (before.note events).produce lease = produced at fields
    obtain ⟨early, collected⟩ := produced
    obtain ⟨codes, readers, exporters⟩ : early.codes = before.codes ∧
      early.readers = before.readers ∧ early.exporters = before.exporters := fields
    cases collected with
    | error error =>
      exact before.progress_conclude (early.note [.collectionFailed error]) codes readers found
        exporters _ _
    | ok report =>
      cases present : early.exporters[exporter]? with
      | none => exact .stuck (exporters ▸ present) codes readers
      | some target =>
        dsimp only
        split
        next =>
          exact before.progress_conclude (early.note [.nothingCollected]) codes readers found
            exporters _ _
        next =>
          cases response : (target.accept report).2.1 with
          | code outcome =>
            exact .held (.awaiting job _ early.codes.cells.length _) rfl
              (.inr ⟨outcome, (codes_setWorker ..).trans (codes ▸ rfl)⟩)
              (readers_setWorker (by exact readers) found _)
          | slow duration =>
            exact .held (.exporting job _ _) rfl (.inl ((codes_setWorker ..).trans codes))
              (readers_setWorker (by exact readers) found _)
          | crash =>
            exact .crashed target (exporters ▸ present)
              (fun calm => (calm.accept report).2 response)
              ((codes_setWorker ..).trans codes) (readers_setWorker (by exact readers) found _)

end Progress

/-- What an export thread does in one stretch of work. -/
inductive Stride (before : Pipeline) (id : Nat) (reader : Reader) (exporter : Nat)
    (worker : Worker) (after : Pipeline) : Prop where
  /-- It has gone on without an answer to a message. -/
  | kept (later : Worker) (messages : later.messages = worker.messages)
      (ended : later.hasEnded = worker.hasEnded)
      (codes : after.codes = before.codes ∨
        ∃ outcome, after.codes = (before.codes.create outcome).1)
      (readers : after.readers = before.readers.set id (reader.setWorker later))
  /-- It has answered its first message, and ends if that was to shut down. -/
  | answered (message : Message) (rest : List Message) (next : worker.messages = message :: rest)
      (alive : worker.hasEnded = false) (exported : Except Failure Unit) (outcome : Outcome)
      (later : Worker) (messages : later.messages = if message.isShutdown then [] else rest)
      (ended : later.hasEnded = message.isShutdown)
      (codes : after.codes = before.codes.answer message.code exported outcome)
      (readers : after.readers = before.readers.set id (reader.setWorker later))
  /-- It has ended since nobody holds the reader any more, or inside the exporter. -/
  | quit (unheld : reader.handles = 0 ∨
        ∃ target, before.exporters[exporter]? = some target ∧ ¬target.Calm)
      (codes : after.codes = before.codes)
      (readers : after.readers = before.readers.set id (reader.setWorker worker.stop))

section Stride

variable {before after : Pipeline} {id : Nat} {reader : Reader} {exporter : Nat} {worker : Worker}

theorem set_same {α : Type} {items : List α} {index : Nat} {item : α}
    (found : items[index]? = some item) : items.set index item = items := by
  obtain ⟨inside, rfl⟩ := List.getElem?_eq_some_iff.mp found
  exact List.set_getElem_self inside

theorem setWorker_self (kind : reader.kind = .periodic exporter worker) :
    reader.setWorker worker = reader := by
  cases reader
  cases kind
  rfl

theorem Progress.stride {base : Worker} {job : Job}
    (progress : before.Progress id reader exporter base job after)
    (found : before.readers[id]? = some reader) (kind : reader.kind = .periodic exporter worker)
    (alive : worker.hasEnded = false) (stop : base.stop = worker.stop)
    (messages : worker.messages = job.message?.toList ++ base.mailbox) :
    before.Stride id reader exporter worker after := by
  have running : ∀ phase later, Phase.job? phase = some later →
      Worker.hasEnded { base with phase } = false := by
    intro phase later same
    cases phase <;> first | rfl | cases same
  cases progress with
  | stuck absent codes readers =>
    refine .kept worker rfl rfl (.inl codes) ?_
    rw [readers, setWorker_self kind, set_same found]
  | held phase same codes readers =>
    refine .kept _ ?_ ((running phase job same).trans alive.symm) codes readers
    rw [messages, Worker.messages, same]
    rfl
  | rested schedule timer codes readers =>
    subst timer
    exact .kept { base with phase := .waiting, schedule } messages.symm alive.symm (.inl codes)
      readers
  | flushed code exported outcome schedule flush codes readers =>
    subst flush
    exact .answered (.flush code) base.mailbox messages alive exported outcome _ rfl rfl codes
      readers
  | ended code exported outcome shutdown codes readers =>
    subst shutdown
    exact .answered (.shutdown code) base.mailbox messages alive exported outcome _ rfl rfl codes
      readers
  | crashed target present wild codes readers =>
    exact .quit (.inr ⟨target, present, wild⟩) codes (stop ▸ readers)

theorem stepWorker_stride (found : before.readers[id]? = some reader)
    (kind : reader.kind = .periodic exporter worker) :
    before.Stride id reader exporter worker (before.stepWorker id) := by
  have step : before.stepWorker id = before.proceed id reader exporter worker := by
    simp only [stepWorker, found, kind]
  rw [step]
  unfold proceed
  split
  next code rest phase mailbox =>
    exact (before.progress_begin found reader.lease [.exportingOnFlush]).stride found kind
      (by rw [Worker.hasEnded, phase]) rfl (by rw [Worker.messages, phase, mailbox]; rfl)
  next code rest phase mailbox =>
    exact (before.progress_begin found reader.lease [.exportingOnShutdown]).stride found kind
      (by rw [Worker.hasEnded, phase]) rfl (by rw [Worker.messages, phase, mailbox]; rfl)
  next phase mailbox =>
    split
    next unheld =>
      exact .quit (.inl unheld) (codes_setWorker ..) (readers_setWorker rfl found _)
    next =>
      exact (before.progress_begin found reader.lease [.exportingOnTimer]).stride found kind
        (by rw [Worker.hasEnded, phase]) rfl (by rw [Worker.messages, phase, mailbox]; rfl)
  next job began ends phase =>
    exact (before.progress_conclude (before.note []) rfl rfl found rfl began (.ok ())).stride found
      kind (by rw [Worker.hasEnded, phase]) rfl (by rw [Worker.messages, phase]; rfl)
  next job began code limit phase =>
    generalize ((before.codes.outcome code).result?).getD _ = result
    exact (before.progress_conclude (before.note _) rfl rfl found rfl began result).stride found
      kind (by rw [Worker.hasEnded, phase]) rfl (by rw [Worker.messages, phase]; rfl)
  next job result ends phase =>
    exact (before.progress_settle before rfl rfl found result .succeeded).stride found kind
      (by rw [Worker.hasEnded, phase]) rfl (by rw [Worker.messages, phase]; rfl)
  next phase =>
    refine .kept worker rfl rfl (.inl rfl) ?_
    rw [setWorker_self kind, set_same found]

/-- A stretch of work changes its own thread alone, which takes messages and gets none. -/
theorem readers_stepWorker (found : before.readers[id]? = some reader)
    (kind : reader.kind = .periodic exporter worker) :
    ∃ later, (before.stepWorker id).readers = before.readers.set id (reader.setWorker later) ∧
      later.messages ⊆ worker.messages := by
  cases stepWorker_stride found kind with
  | kept later messages _ _ readers => exact ⟨later, readers, messages ▸ List.Subset.refl _⟩
  | answered message rest next _ _ _ later messages _ _ readers =>
    refine ⟨later, readers, ?_⟩
    rw [messages, next]
    split
    next => exact List.nil_subset _
    next => exact List.subset_cons_self _ _
  | quit _ _ readers => exact ⟨_, readers, List.nil_subset _⟩

end Stride

end Pipeline

end Metering
