import Metering.Proofs.Pipeline.ExportThread

/-!
The work of an export thread call by call: which job it begins, what it collects for that, which
call it makes on its exporter, and where the answer leaves it. A stretch of work makes at most one
call on the exporter, and collects at most once.
-/

namespace Metering

open Completion

namespace Worker

/-- The job that a thread begins when it goes on, with its worker then. Without a message it
exports, unless nobody holds its reader any more. -/
def begins? (worker : Worker) (handles : Nat) : Option (Job × Worker) :=
  match worker.phase, worker.mailbox with
  | .waiting, .flush code :: rest => some (.flush code, { worker with mailbox := rest })
  | .waiting, .shutdown code :: rest => some (.shutdown code, { worker with mailbox := rest })
  | .waiting, [] => if handles = 0 then none else some (.timer, worker)
  | _, _ => none

theorem begun {worker base : Worker} {handles : Nat} {job : Job}
    (begins : worker.begins? handles = some (job, base)) :
    worker.phase = .waiting ∧ base.phase = .waiting ∧ base.timeout = worker.timeout ∧
      worker.mailbox = job.message?.toList ++ base.mailbox := by
  unfold begins? at begins
  split at begins
  next phase mailbox =>
    cases begins
    exact ⟨phase, phase, rfl, mailbox⟩
  next phase mailbox =>
    cases begins
    exact ⟨phase, phase, rfl, mailbox⟩
  next phase mailbox =>
    split at begins
    next => cases begins
    next =>
      cases begins
      exact ⟨phase, phase, rfl, rfl⟩
  next => cases begins

/-- A thread without messages begins nothing once nobody holds its reader any more. -/
theorem begins?_of_unheld {worker : Worker} (phase : worker.phase = .waiting)
    (mailbox : worker.mailbox = []) : worker.begins? 0 = none := by
  simp only [begins?, phase, mailbox, if_true]

theorem begins?_eq_none {worker : Worker} {handles : Nat} (phase : worker.phase ≠ .waiting) :
    worker.begins? handles = none := by
  unfold begins?
  split
  next waiting _ => exact absurd waiting phase
  next waiting _ => exact absurd waiting phase
  next waiting _ => exact absurd waiting phase
  next => rfl

end Worker

/-- The call that a message makes a thread end its job with. -/
def Exporter.ask (exporter : Exporter) (message : Message) : Exporter × Response :=
  if message.isShutdown then exporter.shutdown else exporter.flush

namespace Pipeline

/-- The pipeline after a collection for what a reader collects from, if anything. -/
def gathered (pipeline : Pipeline) : Option Lease → Pipeline
  | none => pipeline
  | some lease => (pipeline.produce lease).1

/-- What a collection leaves to hand to the exporter; an empty report is left out. -/
def gather? (pipeline : Pipeline) : Option Lease → Except Failure (Option Report)
  | none => .ok none
  | some lease =>
    match (pipeline.produce lease).2 with
    | .error error => .error (.internal error.message)
    | .ok report => .ok (if report.isEmpty then none else some report)

/-- How a job ends: it was due by schedule, or the code of its message follows the result of the
export and the outcome of the exporter's own code. -/
inductive Settles (codes : Codes) (base : Worker) (job : Job) (exported : Except Failure Unit)
    (outcome : Outcome) (final : Codes) (later : Worker) : Prop where
  | rested (timer : job = .timer) (schedule : Schedule) (same : final = codes)
      (worker : later = { base with phase := .waiting, schedule })
  | flushed (code : CodeId) (schedule : Schedule) (flush : job = .flush code)
      (answers : final = codes.answer code exported outcome)
      (worker : later = { base with phase := .waiting, schedule })
  | stopped (code : CodeId) (shutdown : job = .shutdown code)
      (answers : final = codes.answer code exported outcome) (worker : later = base.stop)

/-- Where the exporter's answer to a flush or shutdown call leaves a thread. -/
inductive Closes (codes : Codes) (time : Nat) (base : Worker) (job : Job)
    (exported : Except Failure Unit) (response : Response) (final : Codes) (later : Worker) :
    Prop where
  | settled (outcome : Outcome) (answer : response = .code outcome)
      (settles : Settles codes base job exported outcome final later)
  | waits (duration : Span) (answer : response = .slow duration) (same : final = codes)
      (worker : later = { base with phase := .closing job exported (time + duration.nanos) })
  | crashed (answer : response = .crash) (same : final = codes) (worker : later = base.stop)

/-- What a thread does once the export of its job has ended with a result. -/
inductive Concludes (codes : Codes) (time : Nat) (base : Worker) (job : Job)
    (exported : Except Failure Unit) (target changed : Exporter) (final : Codes)
    (later : Worker) : Prop where
  | rested (timer : job = .timer) (schedule : Schedule) (exporter : changed = target)
      (same : final = codes) (worker : later = { base with phase := .waiting, schedule })
  | asked (message : Message) (asks : job.message? = some message)
      (exporter : changed = (target.ask message).1)
      (closes : Closes codes time base job exported (target.ask message).2 final later)

/-- Where the exporter's answer to an export call leaves a thread. -/
inductive Hands (codes : Codes) (time : Nat) (base : Worker) (job : Job) (response : Response)
    (final : Codes) (later : Worker) : Prop where
  | awaits (outcome : Outcome) (answer : response = .code outcome)
      (given : final = (codes.create outcome).1)
      (worker : later = { base with
        phase := .awaiting job time codes.cells.length (time + base.timeout.nanos) })
  | waits (duration : Span) (answer : response = .slow duration) (same : final = codes)
      (worker : later = { base with phase := .exporting job time (time + duration.nanos) })
  | crashed (answer : response = .crash) (same : final = codes) (worker : later = base.stop)

/-- One stretch of work of a thread, whose exporter is `changed` by it. -/
inductive Move (before : Pipeline) (reader : Reader) (worker : Worker) (target changed : Exporter)
    (after : Pipeline) (later : Worker) : Prop where
  | ended (phase : worker.phase = .ended) (exporter : changed = target)
      (codes : after.codes = before.codes) (providers : after.providers = before.providers)
      (same : later = worker)
  /-- Nobody holds the reader any more. -/
  | left (phase : worker.phase = .waiting) (mailbox : worker.mailbox = [])
      (unheld : reader.handles = 0) (exporter : changed = target)
      (codes : after.codes = before.codes) (providers : after.providers = before.providers)
      (stop : later = worker.stop)
  | handed (job : Job) (base : Worker) (begins : worker.begins? reader.handles = some (job, base))
      (report : Report) (gathers : before.gather? reader.lease = .ok (some report))
      (providers : after.providers = (before.gathered reader.lease).providers)
      (exporter : changed = (target.accept report).1)
      (hands : Hands before.codes before.time base job (target.accept report).2.1 after.codes
        later)
  /-- There is nothing to export, or the collection has failed. -/
  | skipped (job : Job) (base : Worker)
      (begins : worker.begins? reader.handles = some (job, base)) (exported : Except Failure Unit)
      (gathers : before.gather? reader.lease = exported.map fun _ => none)
      (providers : after.providers = (before.gathered reader.lease).providers)
      (concludes : Concludes before.codes before.time base job exported target changed after.codes
        later)
  | exported (job : Job) (exported : Except Failure Unit)
      (phase : (∃ began ends, worker.phase = .exporting job began ends ∧ exported = .ok ()) ∨
        ∃ began code limit, worker.phase = .awaiting job began code limit ∧
          exported = ((before.codes.outcome code).result?).getD (.error (.timeout worker.timeout)))
      (providers : after.providers = before.providers)
      (concludes : Concludes before.codes before.time worker job exported target changed
        after.codes later)
  | closed (job : Job) (exported : Except Failure Unit) (ends : Nat)
      (phase : worker.phase = .closing job exported ends) (exporter : changed = target)
      (providers : after.providers = before.providers)
      (settles : Settles before.codes worker job exported .succeeded after.codes later)

/-- A change to codes, providers and the log, and to readers and exporters as given. -/
structure Spares (before : Pipeline) (readers : List Reader) (exporters : List Exporter)
    (after : Pipeline) : Prop where
  readers : after.readers = readers
  exporters : after.exporters = exporters
  time : after.time = before.time
  clock : after.clock = before.clock
  cells : after.cells = before.cells

/-- The reader of a thread that has gone on. -/
theorem Spares.found {before after : Pipeline} {id : Nat} {reader later : Reader}
    {exporters : List Exporter} (spares : before.Spares (before.readers.set id later) exporters after)
    (found : before.readers[id]? = some reader) : after.readers[id]? = some later := by
  rw [spares.readers]
  exact List.getElem?_set_self (List.getElem?_eq_some_iff.mp found).1

/-- The thread of a reader has come to where its worker and the codes are as `holds` says. -/
def Lands (before : Pipeline) (id : Nat) (reader : Reader) (exporters : List Exporter)
    (providers : List Provider) (holds : Codes → Worker → Prop) (after : Pipeline) : Prop :=
  ∃ later, before.Spares (before.readers.set id (reader.setWorker later)) exporters after ∧
    after.providers = providers ∧ holds after.codes later

/-- Notes in the log make no difference to a collection. -/
theorem produce_note (pipeline : Pipeline) (events : List Event) (lease : Lease) :
    ((pipeline.note events).produce lease).1.providers = (pipeline.produce lease).1.providers ∧
      ((pipeline.note events).produce lease).2 = (pipeline.produce lease).2 := by
  unfold produce change note
  dsimp only
  split <;> exact ⟨rfl, rfl⟩

theorem spares_produce (pipeline : Pipeline) (lease : Lease) :
    pipeline.Spares pipeline.readers pipeline.exporters (pipeline.produce lease).1 := by
  unfold produce change
  split <;> exact ⟨rfl, rfl, rfl, rfl, rfl⟩

section Lands

variable {before : Pipeline} (early : Pipeline) {id : Nat} {reader : Reader} (base : Worker)
  (job : Job) {exporters : List Exporter} (found : before.readers[id]? = some reader)
  (spares : before.Spares before.readers exporters early) (codes : early.codes = before.codes)

include found spares

theorem Lands.of_setWorker {later : Worker} {holds : Codes → Worker → Prop}
    (reached : holds early.codes later) :
    before.Lands id reader exporters early.providers holds (early.setWorker id later) := by
  have there : early.readers[id]? = some reader := spares.readers ▸ found
  refine ⟨later, ?_, ?_, ?_⟩
  · simp only [setWorker, there, setReader]
    exact { spares with readers := by rw [spares.readers] }
  · simp only [setWorker, there, setReader]
  · simpa only [setWorker, there, setReader] using reached

include codes

theorem lands_settle (exported : Except Failure Unit) (outcome : Outcome) :
    before.Lands id reader exporters early.providers
      (Settles before.codes base job exported outcome)
      (early.settle id base job exported outcome) := by
  cases job with
  | timer =>
    exact .of_setWorker early found spares (.rested rfl base.schedule codes rfl)
  | flush code =>
    refine Lands.of_setWorker (early.answer code exported outcome) found { spares with } ?_
    exact .flushed code _ rfl (by rw [codes_answer, codes]) rfl
  | shutdown code =>
    refine Lands.of_setWorker (early.answer code exported outcome) found { spares with } ?_
    exact .stopped code rfl (by rw [codes_answer, codes]) rfl

theorem lands_close (exported : Except Failure Unit) (response : Response) :
    before.Lands id reader exporters early.providers
      (Closes before.codes before.time base job exported response)
      (early.close id base job exported response) := by
  cases response with
  | code outcome =>
    obtain ⟨later, spared, providers, settles⟩ :=
      lands_settle early base job found spares codes exported outcome
    exact ⟨later, spared, providers, .settled outcome rfl settles⟩
  | slow duration =>
    exact .of_setWorker early found spares (.waits duration rfl codes (by rw [spares.time]))
  | crash => exact .of_setWorker early found spares (.crashed rfl codes rfl)

end Lands

section Begun

variable {before : Pipeline} (early : Pipeline) {id : Nat} {reader : Reader} {exporter : Nat}
  (base : Worker) (job : Job) {target : Exporter} (found : before.readers[id]? = some reader)
  (present : before.exporters[exporter]? = some target)

include found present

theorem lands_conclude (spared : before.Spares before.readers before.exporters early)
    (codes : early.codes = before.codes) (began : Nat) (exported : Except Failure Unit) :
    ∃ changed, before.Lands id reader (before.exporters.set exporter changed) early.providers
      (Concludes before.codes before.time base job exported target changed)
      (early.conclude id base exporter job began exported) := by
  have there : early.exporters[exporter]? = some target := spared.exporters ▸ present
  have asked : ∀ message changed response, job.message? = some message →
      target.ask message = (changed, response) →
      before.Lands id reader (before.exporters.set exporter changed) early.providers
        (Concludes before.codes before.time base job exported target changed)
        ((early.setExporter exporter changed).close id base job exported response) := by
    intro message changed response asks asked
    have goes : before.Spares before.readers (before.exporters.set exporter changed)
        (early.setExporter exporter changed) :=
      { spared with exporters := by rw [setExporter, spared.exporters] }
    obtain ⟨later, spares, providers, closes⟩ :=
      lands_close (early.setExporter exporter changed) base job found goes codes exported response
    exact ⟨later, spares, providers, .asked message asks (by rw [asked]) (by rwa [asked])⟩
  cases job with
  | timer =>
    refine ⟨target, ?_⟩
    rw [set_same present]
    exact .of_setWorker (early.note _) found { spared with } (.rested rfl _ rfl codes rfl)
  | flush code =>
    refine ⟨target.flush.1, ?_⟩
    simp only [conclude, there]
    exact asked (.flush code) _ _ rfl rfl
  | shutdown code =>
    refine ⟨target.shutdown.1, ?_⟩
    simp only [conclude, there]
    exact asked (.shutdown code) _ _ rfl rfl

omit found present

/-- What a thread does that begins a job. -/
inductive Begun (before : Pipeline) (id : Nat) (reader : Reader) (exporter : Nat)
    (target : Exporter) (source : Option Lease) (base : Worker) (job : Job) (after : Pipeline) :
    Prop where
  | handed (report : Report) (gathers : before.gather? source = .ok (some report))
      (lands : before.Lands id reader (before.exporters.set exporter (target.accept report).1)
        (before.gathered source).providers
        (Hands before.codes before.time base job (target.accept report).2.1) after)
  | skipped (exported : Except Failure Unit) (changed : Exporter)
      (gathers : before.gather? source = exported.map fun _ => none)
      (lands : before.Lands id reader (before.exporters.set exporter changed)
        (before.gathered source).providers
        (Concludes before.codes before.time base job exported target changed) after)

include found present

theorem begun_begin (events : List Event) (source : Option Lease) :
    before.Begun id reader exporter target source base job
      ((before.note events).begin id base exporter source job) := by
  cases source with
  | none =>
    obtain ⟨changed, lands⟩ := lands_conclude
      ((before.note events).note [.readerNotRegistered]) base job found present
      ⟨rfl, rfl, rfl, rfl, rfl⟩ rfl before.time (.ok ())
    exact .skipped (.ok ()) changed rfl lands
  | some lease =>
    obtain ⟨providers, answer⟩ := before.produce_note events lease
    obtain ⟨readers, exporters, time, clock, cells⟩ := (before.note events).spares_produce lease
    have codes := ((before.note events).produce_fields lease).1
    change _ = (before.gathered (some lease)).providers at providers
    simp only [begin]
    generalize (before.note events).produce lease = produced at *
    obtain ⟨early, collected⟩ := produced
    dsimp only at *
    have spared : before.Spares before.readers before.exporters early :=
      ⟨readers, exporters, time, clock, cells⟩
    have there : early.exporters[exporter]? = some target := exporters ▸ present
    cases collected with
    | error error =>
      have gathers : before.gather? (some lease) = .error (.internal error.message) := by
        simp only [gather?, ← answer]
      obtain ⟨changed, lands⟩ := lands_conclude (early.note [.collectionFailed error]) base job
        found present { spared with } codes before.time
        (.error (.internal error.message))
      exact .skipped (.error (.internal error.message)) changed gathers (providers ▸ lands)
    | ok report =>
      simp only [there]
      split
      next empty =>
        have gathers : before.gather? (some lease) = .ok none := by
          simp only [gather?, ← answer, if_pos empty]
        obtain ⟨changed, lands⟩ := lands_conclude (early.note [.nothingCollected]) base job
          found present { spared with } codes before.time
          (.ok ())
        exact .skipped (.ok ()) changed gathers (providers ▸ lands)
      next full =>
        have gathers : before.gather? (some lease) = .ok (some report) := by
          simp only [gather?, ← answer, if_neg full]
        refine .handed report gathers ?_
        have goes : before.Spares before.readers
            (before.exporters.set exporter (target.accept report).1)
            ((early.setExporter exporter (target.accept report).1).note
              (target.accept report).2.2) :=
          { spared with exporters := congrArg (List.set · exporter _) exporters }
        rw [← providers]
        cases response : (target.accept report).2.1 with
        | code outcome =>
          refine Lands.of_setWorker { (early.setExporter exporter
            (target.accept report).1).note (target.accept report).2.2 with
              codes := (early.codes.create outcome).1 } found { goes with } ?_
          have token : early.codes.cells.length = before.codes.cells.length := by
            rw [codes]
            rfl
          exact .awaits outcome rfl (congrArg (fun codes => (codes.create outcome).1) codes)
            (token ▸ rfl)
        | slow duration => exact .of_setWorker _ found goes (.waits duration rfl codes rfl)
        | crash => exact .of_setWorker _ found goes (.crashed rfl codes rfl)

/-- A thread that begins a job makes a move. -/
theorem begin_move {worker : Worker} (begins : worker.begins? reader.handles = some (job, base))
    (events : List Event) :
    ∃ changed later, before.Spares (before.readers.set id (reader.setWorker later))
        (before.exporters.set exporter changed)
        ((before.note events).begin id base exporter reader.lease job) ∧
      before.Move reader worker target changed
        ((before.note events).begin id base exporter reader.lease job) later := by
  cases begun_begin base job found present events reader.lease with
  | handed report gathers lands =>
    obtain ⟨later, spares, providers, hands⟩ := lands
    exact ⟨_, later, spares, .handed job base begins report gathers providers rfl hands⟩
  | skipped exported changed gathers lands =>
    obtain ⟨later, spares, providers, concludes⟩ := lands
    exact ⟨changed, later, spares,
      .skipped job base begins exported gathers providers concludes⟩

/-- A thread that has come to the end of an export makes a move. -/
theorem conclude_move {worker : Worker} {exported : Except Failure Unit}
    (phase : (∃ began ends, worker.phase = .exporting job began ends ∧ exported = .ok ()) ∨
      ∃ began code limit, worker.phase = .awaiting job began code limit ∧
        exported = ((before.codes.outcome code).result?).getD (.error (.timeout worker.timeout)))
    (events : List Event) (began : Nat) :
    ∃ changed later, before.Spares (before.readers.set id (reader.setWorker later))
        (before.exporters.set exporter changed)
        ((before.note events).conclude id worker exporter job began exported) ∧
      before.Move reader worker target changed
        ((before.note events).conclude id worker exporter job began exported) later := by
  obtain ⟨changed, later, spares, providers, concludes⟩ := lands_conclude (before.note events)
    worker job found present ⟨rfl, rfl, rfl, rfl, rfl⟩ rfl began exported
  exact ⟨changed, later, spares, .exported job exported phase providers concludes⟩

end Begun

/-- What the thread of a reader does in one stretch of work. -/
theorem stepWorker_move {before : Pipeline} {id exporter : Nat} {reader : Reader}
    {worker : Worker} {target : Exporter} (found : before.readers[id]? = some reader)
    (kind : reader.kind = .periodic exporter worker)
    (present : before.exporters[exporter]? = some target) :
    ∃ changed later, before.Spares (before.readers.set id (reader.setWorker later))
        (before.exporters.set exporter changed) (before.stepWorker id) ∧
      before.Move reader worker target changed (before.stepWorker id) later := by
  have step : before.stepWorker id = before.proceed id reader exporter worker := by
    simp only [stepWorker, found, kind]
  have unchanged : before.exporters.set exporter target = before.exporters := set_same present
  rw [step]
  unfold proceed
  split
  next code rest phase mailbox =>
    exact begin_move _ _ found present (by simp only [Worker.begins?, phase, mailbox]) _
  next code rest phase mailbox =>
    exact begin_move _ _ found present (by simp only [Worker.begins?, phase, mailbox]) _
  next phase mailbox =>
    split
    next unheld =>
      have stops : before.Lands id reader before.exporters before.providers
          (fun codes later => codes = before.codes ∧ later = worker.stop)
          (before.setWorker id worker.stop) :=
        .of_setWorker before found ⟨rfl, rfl, rfl, rfl, rfl⟩ ⟨rfl, rfl⟩
      obtain ⟨later, spares, providers, codes, same⟩ := stops
      exact ⟨target, later, unchanged.symm ▸ spares,
        .left phase mailbox unheld rfl codes providers same⟩
    next held =>
      exact begin_move _ _ found present
        (by simp only [Worker.begins?, phase, mailbox, held, if_false]) _
  next job began ends phase =>
    exact conclude_move job found present (.inl ⟨began, ends, phase, rfl⟩) [] began
  next job began code limit phase =>
    exact conclude_move job found present (.inr ⟨began, code, limit, phase, rfl⟩) _ began
  next job result ends phase =>
    have kept : before.Spares before.readers before.exporters before := ⟨rfl, rfl, rfl, rfl, rfl⟩
    obtain ⟨later, spares, providers, settles⟩ :=
      lands_settle before worker job found kept rfl result .succeeded
    exact ⟨target, later, unchanged.symm ▸ spares,
      .closed job result ends phase rfl providers settles⟩
  next phase =>
    refine ⟨target, worker, ?_, .ended phase rfl rfl rfl rfl⟩
    rw [setWorker_self kind, set_same found, unchanged]
    exact ⟨rfl, rfl, rfl, rfl, rfl⟩

section Begins

variable {before after : Pipeline} {reader : Reader} {worker later : Worker}
  {target changed : Exporter} (move : before.Move reader worker target changed after later)

include move

/-- A thread that begins a job collects for it, and exports what there is to export. -/
theorem Move.begun {job : Job} {base : Worker}
    (begins : worker.begins? reader.handles = some (job, base)) :
    after.providers = (before.gathered reader.lease).providers ∧
      ((∃ report, before.gather? reader.lease = .ok (some report) ∧
          changed = (target.accept report).1 ∧
          Hands before.codes before.time base job (target.accept report).2.1 after.codes later) ∨
        ∃ exported, before.gather? reader.lease = exported.map (fun _ => none) ∧
          Concludes before.codes before.time base job exported target changed after.codes
            later) := by
  have waiting := (Worker.begun begins).1
  cases move with
  | ended phase => cases waiting.symm.trans phase
  | left phase mailbox unheld => simp [Worker.begins?, phase, mailbox, unheld] at begins
  | handed other final begun report gathers providers exporter hands =>
    cases begins.symm.trans begun
    exact ⟨providers, .inl ⟨report, gathers, exporter, hands⟩⟩
  | skipped other final begun exported gathers providers concludes =>
    cases begins.symm.trans begun
    exact ⟨providers, .inr ⟨exported, gathers, concludes⟩⟩
  | exported _ _ phase =>
    rcases phase with ⟨_, _, phase, _⟩ | ⟨_, _, _, phase, _⟩ <;> cases waiting.symm.trans phase
  | closed _ _ _ phase => cases waiting.symm.trans phase

/-- A thread that begins no job collects nothing. -/
theorem Move.providers_of_idle (idle : worker.begins? reader.handles = none) :
    after.providers = before.providers := by
  cases move with
  | ended _ _ _ providers => exact providers
  | left _ _ _ _ _ providers => exact providers
  | handed _ _ begins => cases idle.symm.trans begins
  | skipped _ _ begins => cases idle.symm.trans begins
  | exported _ _ _ providers => exact providers
  | closed _ _ _ _ _ providers => exact providers

end Begins

section Messages

variable {codes final : Codes} {base later : Worker} {job : Job} {exported : Except Failure Unit}

theorem Settles.messages {outcome : Outcome}
    (settles : Settles codes base job exported outcome final later) :
    later.messages.Sublist base.mailbox := by
  cases settles with
  | rested _ _ _ worker => exact worker ▸ .refl _
  | flushed _ _ _ _ worker => exact worker ▸ .refl _
  | stopped _ _ _ worker => exact worker ▸ List.nil_sublist _

theorem Concludes.messages {time : Nat} {target changed : Exporter}
    (concludes : Concludes codes time base job exported target changed final later) :
    later.messages.Sublist (job.message?.toList ++ base.mailbox) := by
  have behind := List.sublist_append_right job.message?.toList base.mailbox
  cases concludes with
  | rested _ _ _ _ worker => exact worker ▸ behind
  | asked message asks exporter closes =>
    cases closes with
    | settled outcome _ settles => exact settles.messages.trans behind
    | waits _ _ _ worker => exact worker ▸ .refl _
    | crashed _ _ worker => exact worker ▸ List.nil_sublist _

/-- A thread has nothing to answer but the messages that it had. -/
theorem Move.messages {before after : Pipeline} {reader : Reader} {worker : Worker}
    {target changed : Exporter} (move : before.Move reader worker target changed after later) :
    later.messages.Sublist worker.messages := by
  have begun : ∀ {job base}, worker.begins? reader.handles = some (job, base) →
      worker.messages = job.message?.toList ++ base.mailbox := fun begins => by
    obtain ⟨phase, _, _, mailbox⟩ := Worker.begun begins
    rw [Worker.messages, phase, mailbox]
    rfl
  cases move with
  | ended _ _ _ _ same => exact same ▸ .refl _
  | left _ _ _ _ _ _ stop => exact stop ▸ List.nil_sublist _
  | handed job base begins report _ _ _ hands =>
    rw [begun begins]
    cases hands with
    | awaits _ _ _ worker => exact worker ▸ .refl _
    | waits _ _ _ worker => exact worker ▸ .refl _
    | crashed _ _ worker => exact worker ▸ List.nil_sublist _
  | skipped job base begins _ _ _ concludes => exact begun begins ▸ concludes.messages
  | exported job exported phase _ concludes =>
    have same : worker.messages = job.message?.toList ++ worker.mailbox := by
      rcases phase with ⟨_, _, phase, _⟩ | ⟨_, _, _, phase, _⟩ <;>
        rw [Worker.messages, phase] <;> rfl
    exact same ▸ concludes.messages
  | closed job exported ends phase _ _ settles =>
    exact settles.messages.trans (List.sublist_append_right _ _)

end Messages

end Pipeline

end Metering
