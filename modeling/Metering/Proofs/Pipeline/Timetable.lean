import Metering.Proofs.Pipeline.Calls
import Metering.Proofs.Reader.Schedule

/-!
The timetable of an export thread: the turns that it has made of its schedule, whatever its
exporter answers and whatever else happens around it. A thread exports when an export is due and no
message is there, and each job that ends with the thread waiting again is one turn, which began and
ended when the job did.
-/

namespace Metering

open Completion

def Phase.isWaiting : Phase → Bool
  | .waiting => true
  | _ => false

/-- Whether a thread is at a job that began at `began`. Only what was asked for is closed. -/
def Phase.At (job : Job) (began : Nat) : Phase → Prop
  | .exporting other since _ => other = job ∧ since = began
  | .awaiting other since _ _ => other = job ∧ since = began
  | .closing other _ _ => other = job ∧ job ≠ .timer
  | .waiting => False
  | .ended => False

section At

variable {phase : Phase} {job : Job} {began : Nat} (reached : phase.At job began)

include reached

theorem Phase.At.job? : phase.job? = some job := by
  cases phase with
  | exporting => exact congrArg some reached.1
  | awaiting => exact congrArg some reached.1
  | closing => exact congrArg some reached.1
  | waiting => cases reached
  | ended => cases reached

theorem Phase.At.isWaiting : ¬phase.isWaiting = true := by
  cases phase with
  | waiting => cases reached
  | _ => exact nofun

end At

theorem Phase.At.begins? {worker : Worker} {job : Job} {began : Nat}
    (reached : worker.phase.At job began) (handles : Nat) : worker.begins? handles = none :=
  Worker.begins?_eq_none fun waiting => reached.isWaiting (congrArg Phase.isWaiting waiting)

/-- The job that a thread is at, or that it begins when it goes on. -/
def Worker.job? (worker : Worker) (handles : Nat) : Option Job :=
  ((worker.begins? handles).map Prod.fst).or worker.phase.job?

/-- The turn that a job makes of a schedule. Behind a shutdown there is no schedule. -/
def Job.turn? (waited took : Nat) : Job → Option Schedule.Turn
  | .timer => some (.timer waited took)
  | .flush _ => some (.flush waited took)
  | .shutdown _ => none

/-- A turn begins and ends when its job does. -/
theorem Job.of_turn? {schedule : Schedule} (job : Job) {began now : Nat} {turn : Schedule.Turn}
    (made : job.turn? (began - schedule.waitingSince) (now - began) = some turn)
    (since : schedule.waitingSince ≤ began) (begun : began ≤ now) :
    schedule.begun turn = began ∧ schedule.ended turn = now ∧
      (turn.isFlush = false → job = .timer) := by
  have begins : schedule.waitingSince + (began - schedule.waitingSince) = began := by omega
  have ends : began + (now - began) = now := by omega
  cases job with
  | timer =>
    cases made
    exact ⟨begins, (congrArg (· + _) begins).trans ends, fun _ => rfl⟩
  | flush code =>
    cases made
    exact ⟨begins, (congrArg (· + _) begins).trans ends, nofun⟩
  | shutdown code => cases made

/-- Where a job that began at `began` has come to by now. -/
inductive Paced (schedule : Schedule) (job : Job) (began now : Nat) (later : Worker) : Prop where
  | busy (phase : later.phase.At job began) (same : later.schedule = schedule)
  | rested (phase : later.phase = .waiting) (turn : Schedule.Turn)
      (made : job.turn? (began - schedule.waitingSince) (now - began) = some turn)
      (next : later.schedule = schedule.turn turn)
  | ended (phase : later.phase = .ended) (same : later.schedule = schedule)

namespace Pipeline

section Time

variable (pipeline : Pipeline) (id : Nat)

theorem time_setWorker (worker : Worker) : (pipeline.setWorker id worker).time = pipeline.time := by
  unfold setWorker
  split <;> rfl

theorem time_settle (worker : Worker) (job : Job) (exported : Except Failure Unit)
    (outcome : Outcome) :
    (pipeline.settle id worker job exported outcome).time = pipeline.time := by
  cases job with
  | timer => exact pipeline.time_setWorker ..
  | flush code => exact time_setWorker ..
  | shutdown code => exact time_setWorker ..

theorem time_close (worker : Worker) (job : Job) (exported : Except Failure Unit)
    (response : Response) :
    (pipeline.close id worker job exported response).time = pipeline.time := by
  cases response with
  | code outcome => exact pipeline.time_settle ..
  | slow duration => exact pipeline.time_setWorker ..
  | crash => exact pipeline.time_setWorker ..

theorem time_conclude (worker : Worker) (exporter : Nat) (job : Job) (began : Nat)
    (exported : Except Failure Unit) :
    (pipeline.conclude id worker exporter job began exported).time = pipeline.time := by
  unfold conclude
  split
  next => exact time_setWorker ..
  next => exact time_close ..
  next => exact time_close ..
  next => rfl

theorem time_begin (worker : Worker) (exporter : Nat) (lease : Option Lease) (job : Job) :
    (pipeline.begin id worker exporter lease job).time = pipeline.time := by
  cases lease with
  | none => exact time_conclude ..
  | some lease =>
    have produced := (pipeline.spares_produce lease).time
    simp only [begin]
    generalize pipeline.produce lease = production at produced
    obtain ⟨early, collected⟩ := production
    refine Eq.trans ?_ produced
    cases collected with
    | error error => exact time_conclude ..
    | ok report =>
      cases early.exporters[exporter]? with
      | none => rfl
      | some target =>
        dsimp only
        split
        next => exact time_conclude ..
        next => split <;> exact time_setWorker ..

/-- The work of a thread takes no time: it waits in between. -/
theorem time_stepWorker : (pipeline.stepWorker id).time = pipeline.time := by
  unfold stepWorker
  split
  next => rfl
  next reader _ =>
    split
    next exporter worker _ =>
      unfold proceed
      split
      next => exact time_begin ..
      next => exact time_begin ..
      next =>
        split
        next => exact time_setWorker ..
        next => exact time_begin ..
      next => exact time_conclude ..
      next => exact time_conclude ..
      next => exact time_settle ..
      next => rfl
    next => rfl

theorem time_flushReader : (pipeline.flushReader id).1.time = pipeline.time := by
  unfold flushReader
  split
  next => rfl
  next reader _ =>
    split
    next => rfl
    next => rfl
    next worker _ =>
      split
      next =>
        unfold sendFlush
        dsimp only
        split <;> rfl
      next => rfl

/-- A call that shuts an exporter down itself can take time. -/
theorem time_le_shutdownReader : pipeline.time ≤ (pipeline.shutdownReader id).1.time := by
  unfold shutdownReader
  split
  next => exact Nat.le_refl _
  next reader _ =>
    split
    next => split <;> exact Nat.le_refl _
    next => split <;> exact Nat.le_refl _
    next exporter worker _ =>
      split
      next => exact Nat.le_refl _
      next =>
        unfold sendShutdown
        dsimp only
        split
        next => exact Nat.le_refl _
        next =>
          unfold shutdownExporter
          split
          next => exact Nat.le_refl _
          next =>
            dsimp only
            split
            next => exact Nat.le_refl _
            next => exact Nat.le_add_right _ _
            next => exact Nat.le_refl _

end Time

/-- The thread of a reader has come to where `Paced` says. -/
def Paces (before : Pipeline) (id : Nat) (reader : Reader) (schedule : Schedule) (job : Job)
    (began : Nat) (after : Pipeline) : Prop :=
  ∃ later, after.readers = before.readers.set id (reader.setWorker later) ∧
    Paced schedule job began before.time later

section Paces

variable {before : Pipeline} (early : Pipeline) {id : Nat} {reader : Reader} (base : Worker)
  {job : Job} {began : Nat} (readers : early.readers = before.readers)
  (found : before.readers[id]? = some reader)

include readers found

theorem Paces.of_setWorker {schedule : Schedule} {later : Worker}
    (paced : Paced schedule job began before.time later) :
    before.Paces id reader schedule job began (early.setWorker id later) :=
  ⟨later, readers_setWorker readers found later, paced⟩

variable (time : early.time = before.time) (begun : began ≤ before.time)
  (since : base.schedule.waitingSince ≤ began)

include time begun since

theorem paces_settle (asked : job ≠ .timer) (exported : Except Failure Unit) (outcome : Outcome) :
    before.Paces id reader base.schedule job began
      (early.settle id base job exported outcome) := by
  cases job with
  | timer => exact absurd rfl asked
  | flush code =>
    refine .of_setWorker (early.answer code exported outcome) readers found
      (.rested rfl (.flush _ _) rfl ?_)
    have moments := Job.of_turn? (.flush code) rfl since begun
    show base.schedule.afterFlush early.time = base.schedule.afterFlush _
    rw [moments.2.1, time]
  | shutdown code =>
    exact .of_setWorker (early.answer code exported outcome) readers found (.ended rfl rfl)

theorem paces_close (asked : job ≠ .timer) (exported : Except Failure Unit)
    (response : Response) :
    before.Paces id reader base.schedule job began
      (early.close id base job exported response) := by
  cases response with
  | code outcome =>
    exact paces_settle early base readers found time begun since asked exported outcome
  | slow duration => exact .of_setWorker early readers found (.busy ⟨rfl, asked⟩ rfl)
  | crash => exact .of_setWorker early readers found (.ended rfl rfl)

variable {exporter : Nat} (present : exporter < early.exporters.length)

include present

theorem paces_conclude (exported : Except Failure Unit) :
    before.Paces id reader base.schedule job began
      (early.conclude id base exporter job began exported) := by
  have there : early.exporters[exporter]? = some early.exporters[exporter] :=
    List.getElem?_eq_getElem present
  unfold conclude
  split
  next =>
    refine .of_setWorker (early.note _) readers found (.rested rfl (.timer _ _) rfl ?_)
    have moments := Job.of_turn? .timer rfl since begun
    show base.schedule.afterExport began early.time = base.schedule.afterExport _ _
    rw [moments.1, moments.2.1, time]
  next code target _ =>
    have asked : Job.flush code ≠ .timer := nofun
    exact paces_close (early.setExporter exporter target.flush.1) base readers found time begun
      since asked exported target.flush.2
  next code target _ =>
    have asked : Job.shutdown code ≠ .timer := nofun
    exact paces_close (early.setExporter exporter target.shutdown.1) base readers found time begun
      since asked exported target.shutdown.2
  next absent => cases there.symm.trans absent

omit begun since readers present

theorem paces_begin (readers : early.readers = before.readers)
    (present : exporter < early.exporters.length)
    (since : base.schedule.waitingSince ≤ before.time) (lease : Option Lease) :
    before.Paces id reader base.schedule job before.time
      (early.begin id base exporter lease job) := by
  cases lease with
  | none =>
    simp only [begin]
    rw [time]
    exact paces_conclude (early.note [.readerNotRegistered]) base readers found time
      (Nat.le_refl _) since present (.ok ())
  | some lease =>
    obtain ⟨kept, exporters, still, _⟩ := early.spares_produce lease
    simp only [begin]
    generalize early.produce lease = produced at *
    obtain ⟨next, collected⟩ := produced
    dsimp only at *
    have readers : next.readers = before.readers := kept.trans readers
    have inside : exporter < next.exporters.length := exporters ▸ present
    have now : next.time = before.time := still.trans time
    rw [time]
    cases collected with
    | error error =>
      exact paces_conclude (next.note [.collectionFailed error]) base readers found now
        (Nat.le_refl _) since inside _
    | ok report =>
      simp only [List.getElem?_eq_getElem inside]
      split
      next =>
        exact paces_conclude (next.note [.nothingCollected]) base readers found now
          (Nat.le_refl _) since inside (.ok ())
      next =>
        have placed : ∀ (given : Pipeline) later, given.readers = next.readers →
            Paced base.schedule job before.time before.time later →
              before.Paces id reader base.schedule job before.time (given.setWorker id later) :=
          fun given _ same paced => .of_setWorker given (same.trans readers) found paced
        split
        next => exact placed _ { base with phase := .awaiting .. } rfl (.busy ⟨rfl, rfl⟩ rfl)
        next => exact placed _ { base with phase := .exporting .. } rfl (.busy ⟨rfl, rfl⟩ rfl)
        next => exact placed _ base.stop rfl (.ended rfl rfl)

end Paces

end Pipeline

/-- Where a thread is by `now`; its present job, if there is one, began at `began`. -/
inductive Worker.Stands (worker : Worker) (began now : Nat) : Prop where
  | idle (phase : worker.phase = .waiting) (since : worker.schedule.waitingSince ≤ now)
  | busy (job : Job) (phase : worker.phase.At job began)
      (since : worker.schedule.waitingSince ≤ began) (begun : began ≤ now)
      (due : job = .timer → worker.schedule.due ≤ began)
  | ended (phase : worker.phase = .ended)

namespace Worker

theorem schedule_begins {worker base : Worker} {handles : Nat} {job : Job}
    (begins : worker.begins? handles = some (job, base)) : base.schedule = worker.schedule := by
  unfold begins? at begins
  split at begins
  next => cases begins; rfl
  next => cases begins; rfl
  next =>
    split at begins
    next => cases begins
    next => cases begins; rfl
  next => cases begins

theorem Stands.later {worker : Worker} {began now later : Nat} (stands : worker.Stands began now)
    (order : now ≤ later) : worker.Stands began later := by
  cases stands with
  | idle phase since => exact .idle phase (Nat.le_trans since order)
  | busy job phase since begun due => exact .busy job phase since (Nat.le_trans begun order) due
  | ended phase => exact .ended phase

/-- What a thread is sent makes no difference to where it is. -/
theorem Stands.sent {worker : Worker} {began now : Nat} (stands : worker.Stands began now)
    (mailbox : List Message) : Stands { worker with mailbox } began now := by
  cases stands with
  | idle phase since => exact .idle phase since
  | busy job phase since begun due => exact .busy job phase since begun due
  | ended phase => exact .ended phase

end Worker

/-- When the job begins with which a thread goes on. -/
def Worker.beginning (worker : Worker) (began now : Nat) : Nat :=
  if worker.phase.isWaiting then now else began

/-- What is known of the job with which a thread goes on. -/
theorem Worker.Stands.begins {worker : Worker} {began now handles : Nat} {job : Job}
    (stands : worker.Stands began now) (busy : worker.job? handles = some job)
    (due : worker.phase = .waiting → worker.job? handles = some .timer →
      worker.schedule.due ≤ now) :
    worker.schedule.waitingSince ≤ worker.beginning began now ∧
      worker.beginning began now ≤ now ∧
        (job = .timer → worker.schedule.due ≤ worker.beginning began now) := by
  cases stands with
  | idle phase since =>
    have same : worker.beginning began now = now := by rw [beginning, phase]; rfl
    rw [same]
    exact ⟨since, Nat.le_refl _, fun timer => due phase (timer ▸ busy)⟩
  | busy other reached since begun late =>
    have same : worker.beginning began now = began := if_neg reached.isWaiting
    rw [Worker.job?, Phase.At.begins? reached, reached.job?] at busy
    cases busy
    exact same.symm ▸ ⟨since, begun, late⟩
  | ended phase => simp [Worker.job?, Worker.begins?, phase, Phase.job?] at busy

/-- How a thread goes on: with a job, if there is one. -/
inductive Worker.GoesOn (worker : Worker) (handles began now : Nat) (later : Worker) : Prop where
  | stops (idle : worker.job? handles = none) (ended : later.phase = .ended)
      (same : later.schedule = worker.schedule)
  | works (job : Job) (busy : worker.job? handles = some job)
      (paced : Paced worker.schedule job (worker.beginning began now) now later)

namespace Pipeline

/-- The thread of a reader has gone on. -/
def Advances (before : Pipeline) (id : Nat) (reader : Reader) (worker : Worker) (began : Nat)
    (after : Pipeline) : Prop :=
  ∃ later, after.readers = before.readers.set id (reader.setWorker later) ∧
    worker.GoesOn reader.handles began before.time later

section Worker

variable {before : Pipeline} {id exporter : Nat} {reader : Reader} {worker : Worker} {began : Nat}
  (found : before.readers[id]? = some reader) (present : exporter < before.exporters.length)
  (stands : worker.Stands began before.time)

include found present stands

theorem advances_begin {job : Job} {base : Worker}
    (begins : worker.begins? reader.handles = some (job, base)) (events : List Event) :
    before.Advances id reader worker began
      ((before.note events).begin id base exporter reader.lease job) := by
  have waiting := (Worker.begun begins).1
  have same := Worker.schedule_begins begins
  have busy : worker.job? reader.handles = some job := by
    simp only [Worker.job?, begins, Option.map_some, Option.some_or]
  have since : worker.schedule.waitingSince ≤ before.time := by
    cases stands with
    | idle _ since => exact since
    | busy _ phase => rw [waiting] at phase; cases phase
    | ended phase => cases waiting.symm.trans phase
  have now : worker.beginning began before.time = before.time := by
    simp only [Worker.beginning, waiting, Phase.isWaiting, if_true]
  have inside : exporter < (before.note events).exporters.length := present
  obtain ⟨later, readers, paced⟩ := paces_begin (before.note events) base found rfl rfl inside
    (same ▸ since) reader.lease
  exact ⟨later, readers, .works job busy (now.symm ▸ same ▸ paced)⟩

omit found present in
/-- A thread that is at a job goes on with that. -/
theorem advances_at {job : Job} {after : Pipeline} (phase : worker.phase.job? = some job)
    (paces : worker.phase.At job began → worker.schedule.waitingSince ≤ began →
      began ≤ before.time → before.Paces id reader worker.schedule job began after) :
    before.Advances id reader worker began after := by
  cases stands with
  | idle waiting => rw [waiting] at phase; cases phase
  | ended ended => rw [ended] at phase; cases phase
  | busy other reached since begun =>
    cases (reached.job?).symm.trans phase
    obtain ⟨later, readers, paced⟩ := paces reached since begun
    have busy : worker.job? reader.handles = some job := by
      rw [Worker.job?, Phase.At.begins? reached, phase]
      rfl
    have same : worker.beginning began before.time = began := if_neg reached.isWaiting
    exact ⟨later, readers, .works job busy (same.symm ▸ paced)⟩

/-- Either a thread has come to its end, or it goes on with a job. -/
theorem stepWorker_advances (kind : reader.kind = .periodic exporter worker) :
    before.Advances id reader worker began (before.stepWorker id) := by
  have step : before.stepWorker id = before.proceed id reader exporter worker := by
    simp only [stepWorker, found, kind]
  rw [step]
  unfold proceed
  split
  next code rest phase mailbox =>
    exact advances_begin found present stands
      (by simp only [Worker.begins?, phase, mailbox]) [.exportingOnFlush]
  next code rest phase mailbox =>
    exact advances_begin found present stands
      (by simp only [Worker.begins?, phase, mailbox]) [.exportingOnShutdown]
  next phase mailbox =>
    split
    next unheld =>
      refine ⟨worker.stop, readers_setWorker rfl found _, .stops ?_ rfl rfl⟩
      simp [Worker.job?, Worker.begins?, phase, mailbox, unheld, Phase.job?]
    next held =>
      exact advances_begin found present stands
        (by simp only [Worker.begins?, phase, mailbox, if_neg held]) [.exportingOnTimer]
  next job since ends phase =>
    refine advances_at stands (by rw [phase]; rfl) fun reached early begun => ?_
    rw [phase] at reached
    obtain ⟨_, rfl⟩ := reached
    exact paces_conclude (before.note []) worker rfl found rfl begun early present (.ok ())
  next job since code limit phase =>
    refine advances_at stands (by rw [phase]; rfl) fun reached early begun => ?_
    rw [phase] at reached
    obtain ⟨_, rfl⟩ := reached
    exact paces_conclude (before.note _) worker rfl found rfl begun early present _
  next job result ends phase =>
    refine advances_at stands (by rw [phase]; rfl) fun reached early begun => ?_
    rw [phase] at reached
    obtain ⟨_, asked⟩ := reached
    exact paces_settle before worker rfl found rfl begun early asked result .succeeded
  next phase =>
    refine ⟨worker, ?_, .stops ?_ phase rfl⟩
    · rw [setWorker_self kind, set_same found]
    · simp [Worker.job?, Worker.begins?, phase, Phase.job?]

end Worker

/-- Whether the thread of a reader can go on by now. -/
def canGoOn (pipeline : Pipeline) (id : Nat) : Bool :=
  ((pipeline.readers[id]?).bind pipeline.ready?).any (· ≤ pipeline.time)

section Ready

variable {pipeline : Pipeline} {reader : Reader} {exporter : Nat} {worker : Worker}
  (kind : reader.kind = .periodic exporter worker) (phase : worker.phase = .waiting)

include kind phase

theorem ready?_of_idle (mailbox : worker.mailbox = []) (held : reader.handles ≠ 0) :
    pipeline.ready? reader = some worker.schedule.due := by
  simp [ready?, Reader.worker?, kind, phase, mailbox, held]

/-- A thread goes on without a message only if an export is due. -/
theorem due_of_canGoOn {id : Nat} (found : pipeline.readers[id]? = some reader)
    (can : pipeline.canGoOn id = true) (timer : worker.job? reader.handles = some .timer) :
    worker.schedule.due ≤ pipeline.time := by
  obtain ⟨mailbox, held⟩ : worker.mailbox = [] ∧ reader.handles ≠ 0 := by
    cases mailbox : worker.mailbox with
    | nil =>
      refine ⟨rfl, fun none => ?_⟩
      simp [Worker.job?, Worker.begins?, phase, mailbox, none, Phase.job?] at timer
    | cons message rest =>
      cases message <;> simp [Worker.job?, Worker.begins?, phase, mailbox] at timer
  rw [canGoOn, found, Option.bind_some, ready?_of_idle kind phase mailbox held] at can
  exact of_decide_eq_true can

end Ready

/-- The turn that the thread of a reader makes by going on, if it comes to wait again. -/
def turn? (pipeline : Pipeline) (id began : Nat) : Option Schedule.Turn :=
  (pipeline.periodic? id).bind fun (reader, _, worker) =>
    ((pipeline.stepWorker id).periodic? id).bind fun (_, _, later) =>
      if later.phase.isWaiting then
        (worker.job? reader.handles).bind
          (Job.turn? (began - worker.schedule.waitingSince) (pipeline.time - began))
      else none

def ask (pipeline : Pipeline) (id : Nat) : ReaderCall → Pipeline
  | .flush => (pipeline.flushReader id).1
  | .shutdown => (pipeline.shutdownReader id).1

/-- Readers have at most been handed what to collect from. -/
structure Registered (before after : Pipeline) : Prop where
  time : after.time = before.time
  exporters : after.exporters = before.exporters
  readers : ∀ id reader exporter worker, before.periodic? id = some (reader, exporter, worker) →
    ∃ later, after.periodic? id = some (later, exporter, worker)

theorem registered_registerAll (pipeline : Pipeline) (provider : Nat) (bindings : List Binding) :
    pipeline.Registered (pipeline.registerAll provider bindings) := by
  induction bindings generalizing pipeline with
  | nil => exact ⟨rfl, rfl, fun _ reader _ _ found => ⟨reader, found⟩⟩
  | cons binding rest ih =>
    unfold registerAll
    split
    next => exact ih pipeline
    next reader there =>
      generalize lent : reader.register ⟨provider, binding.collector.position⟩ = registered
      have kind : registered.1.kind = reader.kind := by
        rw [← lent]
        unfold Reader.register
        split <;> rfl
      obtain ⟨time, exporters, readers⟩ := ih ((pipeline.setReader binding.reader
        { registered.1 with handles := registered.1.handles + 1 }).note registered.2)
      refine ⟨time, exporters, fun id holder exporter worker found => ?_⟩
      obtain ⟨here, periodic⟩ := of_periodic? found
      by_cases same : binding.reader = id
      · subst same
        cases there.symm.trans here
        have inside := (List.getElem?_eq_some_iff.mp there).1
        exact readers _ _ _ _
          (periodic?_of (List.getElem?_set_self inside) (kind.trans periodic))
      · have apart : (pipeline.readers.set binding.reader
            { registered.1 with handles := registered.1.handles + 1 })[id]? =
              pipeline.readers[id]? := List.getElem?_set_ne same
        exact readers _ _ _ _ ((periodic?_congr apart).trans found)

theorem registered_build (pipeline : Pipeline) (config : ProviderConfig)
    (readers : List (Nat × Bool)) : pipeline.Registered (pipeline.build config readers).1 := by
  unfold build
  dsimp only
  generalize Provider.build config pipeline.clock _ = provider
  obtain ⟨time, exporters, kept⟩ := registered_registerAll
    { pipeline with providers := pipeline.providers ++ [provider] } pipeline.providers.length
    provider.bindings
  exact ⟨time, exporters, kept⟩

end Pipeline

/-- What can happen around an export thread. -/
inductive TimetableEvent where
  | pass (nanos : Nat)
  /-- The thread of a reader goes on, if it can by now. -/
  | work (reader : Nat)
  | ask (reader : Nat) (call : ReaderCall)
  | release (reader : Nat)
  | build (config : ProviderConfig) (readers : List (Nat × Bool))
  /-- Codes are completed, the clock is set, and callers measure with providers. -/
  | change (codes : Codes) (clock : UInt64) (cells : Cells) (providers : List Provider)

/-- A pipeline with the turns that the thread of one of its readers has made. -/
structure Timetable where
  pipeline : Pipeline
  /-- When the thread's last job began. -/
  began : Nat
  turns : List Schedule.Turn := []

namespace Timetable

/-- A periodic reader has just been added, with an exporter of its own. -/
def start (pipeline : Pipeline) (target : Exporter) (config : PeriodicConfig) : Timetable :=
  { pipeline := ((pipeline.addExporter target).1.addPeriodic pipeline.exporters.length config).1
    began := pipeline.time }

def work (table : Timetable) (id : Nat) : Timetable :=
  let began := match table.pipeline.periodic? id with
    | none => table.began
    | some (_, _, worker) => worker.beginning table.began table.pipeline.time
  { pipeline := table.pipeline.stepWorker id
    began
    turns := table.turns ++ (table.pipeline.turn? id began).toList }

def step (id : Nat) (table : Timetable) : TimetableEvent → Timetable
  | .pass nanos =>
    { table with pipeline := { table.pipeline with time := table.pipeline.time + nanos } }
  | .work reader =>
    if table.pipeline.canGoOn reader then
      if reader = id then table.work id
      else { table with pipeline := table.pipeline.stepWorker reader }
    else table
  | .ask reader call => { table with pipeline := table.pipeline.ask reader call }
  | .release reader => { table with pipeline := table.pipeline.releaseReader reader }
  | .build config readers => { table with pipeline := (table.pipeline.build config readers).1 }
  | .change codes clock cells providers =>
    { table with pipeline := { table.pipeline with codes, clock, cells, providers } }

def run (id : Nat) (table : Timetable) (events : List TimetableEvent) : Timetable :=
  events.foldl (step id) table

/-- Whether a thread has kept to a schedule by the turns that it has made. -/
structure Keeps (first : Schedule) (id : Nat) (table : Timetable) : Prop where
  thread : ∃ reader exporter worker,
    table.pipeline.periodic? id = some (reader, exporter, worker) ∧
      exporter < table.pipeline.exporters.length ∧ worker.schedule = first.run table.turns ∧
        worker.Stands table.began table.pipeline.time
  timely : first.Timely table.turns

section Keeps

variable {first : Schedule} {id : Nat} {table : Timetable} (keeps : Keeps first id table)

theorem keeps_start (pipeline : Pipeline) (target : Exporter) (config : PeriodicConfig) :
    Keeps (.start config.interval.nanos pipeline.time) pipeline.readers.length
      (start pipeline target config) where
  thread := by
    refine ⟨_, pipeline.exporters.length, .create config pipeline.time,
      Pipeline.periodic?_of (List.getElem?_concat_length) rfl, ?_, rfl,
      .idle rfl (Nat.le_refl _)⟩
    simp [start, Pipeline.addExporter, Pipeline.addPeriodic, Pipeline.addReader]
  timely := trivial

include keeps

/-- Something else happens, in which the thread is at most sent messages. -/
theorem Keeps.elsewhere {after : Pipeline} (time : table.pipeline.time ≤ after.time)
    (exporters : ∀ (other : Nat) target, table.pipeline.exporters[other]? = some target →
      ∃ later, after.exporters[other]? = some later)
    (sent : ∀ reader exporter worker,
      table.pipeline.periodic? id = some (reader, exporter, worker) → ∃ later mailbox,
        after.periodic? id = some (later, exporter, { worker with mailbox })) :
    Keeps first id { table with pipeline := after } := by
  obtain ⟨reader, exporter, worker, found, present, same, stands⟩ := keeps.thread
  obtain ⟨later, mailbox, there⟩ := sent reader exporter worker found
  obtain ⟨_, target⟩ := exporters exporter _ (List.getElem?_eq_getElem present)
  exact ⟨⟨later, exporter, _, there, (List.getElem?_eq_some_iff.mp target).1, same,
    (stands.later time).sent mailbox⟩, keeps.timely⟩

theorem Keeps.of_readers {after : Pipeline} (time : table.pipeline.time ≤ after.time)
    (exporters : after.exporters = table.pipeline.exporters)
    (readers : after.readers = table.pipeline.readers) :
    Keeps first id { table with pipeline := after } := by
  refine keeps.elsewhere time (fun other target found => ⟨target, exporters ▸ found⟩)
    fun reader exporter worker found => ?_
  exact ⟨reader, worker.mailbox, (Pipeline.periodic?_congr (by rw [readers])).trans found⟩

theorem Keeps.of_leaves {after : Pipeline} (time : table.pipeline.time ≤ after.time)
    (leaves : table.pipeline.Leaves after) : Keeps first id { table with pipeline := after } := by
  refine keeps.elsewhere time (fun other target found => ?_) fun reader exporter worker found => ?_
  · obtain ⟨_, _, there⟩ := leaves.exporters other target found
    exact ⟨_, there⟩
  · obtain ⟨later, _, there, _, _⟩ := leaves.readers id reader exporter worker found
    exact ⟨later, _, there⟩

/-- The thread goes on, and makes a turn if it comes to wait again. -/
theorem Keeps.work (can : table.pipeline.canGoOn id = true) : Keeps first id (table.work id) := by
  obtain ⟨reader, exporter, worker, found, present, same, stands⟩ := keeps.thread
  obtain ⟨there, kind⟩ := Pipeline.of_periodic? found
  obtain ⟨later, readers, goes⟩ := Pipeline.stepWorker_advances there present stands kind
  have after : (table.pipeline.stepWorker id).periodic? id =
      some (reader.setWorker later, exporter, later) := by
    refine Pipeline.periodic?_of ?_ (congrArg Reader.kind (Reader.setWorker_eq kind later))
    rw [readers]
    exact List.getElem?_set_self (List.getElem?_eq_some_iff.mp there).1
  have still : exporter < (table.pipeline.stepWorker id).exporters.length := by
    obtain ⟨_, target, _⟩ := (table.pipeline.kept_stepWorker id).exporters exporter _
      (List.getElem?_eq_getElem present)
    exact (List.getElem?_eq_some_iff.mp target).1
  have time := table.pipeline.time_stepWorker id
  have turn : table.pipeline.turn? id = fun began =>
      if later.phase.isWaiting then
        (worker.job? reader.handles).bind
          (Job.turn? (began - worker.schedule.waitingSince) (table.pipeline.time - began))
      else none := by
    funext began
    simp only [Pipeline.turn?, found, after, Option.bind_some]
  simp only [Timetable.work, found, turn]
  -- Only a job that leaves the thread waiting is a turn; else the schedule stays as it was.
  cases goes with
  | stops idle ended unchanged =>
    rw [if_neg (ended ▸ nofun), Option.toList_none, List.append_nil]
    exact ⟨⟨_, exporter, later, after, still, unchanged.trans same, .ended ended⟩, keeps.timely⟩
  | works job busy paced =>
    obtain ⟨since, begun, due⟩ := stands.begins busy fun waiting timer =>
      Pipeline.due_of_canGoOn kind waiting there can timer
    cases paced with
    | busy phase unchanged =>
      rw [if_neg phase.isWaiting, Option.toList_none, List.append_nil]
      refine ⟨⟨_, exporter, later, after, still, unchanged.trans same, ?_⟩, keeps.timely⟩
      rw [time]
      exact .busy job phase (unchanged ▸ since) begun (unchanged ▸ due)
    | ended phase unchanged =>
      rw [if_neg (phase ▸ nofun), Option.toList_none, List.append_nil]
      exact ⟨⟨_, exporter, later, after, still, unchanged.trans same, .ended phase⟩, keeps.timely⟩
    | rested phase turn made next =>
      obtain ⟨begins, ends, timer⟩ := Job.of_turn? _ made since begun
      rw [if_pos (phase ▸ rfl), busy, Option.bind_some, made, Option.toList_some]
      refine ⟨⟨_, exporter, later, after, still, ?_, .idle phase ?_⟩, ?_⟩
      · rw [Schedule.run_concat, ← same, next]
      · refine Nat.le_of_eq ?_
        rw [next, Schedule.waitingSince_turn, time, ends]
      · refine Schedule.timely_concat keeps.timely fun scheduled => ?_
        rw [← same, begins]
        exact due (timer scheduled)

theorem Keeps.step (event : TimetableEvent) : Keeps first id (table.step id event) := by
  cases event with
  | pass nanos => exact keeps.of_readers (Nat.le_add_right _ _) rfl rfl
  | work reader =>
    simp only [Timetable.step]
    split
    next can =>
      split
      next same => exact keeps.work (same ▸ can)
      next apart =>
        refine keeps.elsewhere (Nat.le_of_eq (table.pipeline.time_stepWorker reader).symm) ?_ ?_
        · intro other target found
          obtain ⟨later, there, _⟩ :=
            (table.pipeline.kept_stepWorker reader).exporters other target found
          exact ⟨later, there⟩
        · intro holder exporter worker found
          exact ⟨holder, worker.mailbox,
            (table.pipeline.periodic?_stepWorker (Ne.symm apart)).trans found⟩
    next => exact keeps
  | ask reader call =>
    cases call with
    | flush =>
      exact keeps.of_leaves (Nat.le_of_eq (table.pipeline.time_flushReader reader).symm)
        (table.pipeline.called_flushReader reader).toLeaves
    | shutdown =>
      exact keeps.of_leaves (table.pipeline.time_le_shutdownReader reader)
        (table.pipeline.called_shutdownReader reader).toLeaves
  | release reader =>
    simp only [Timetable.step, Pipeline.releaseReader]
    split
    next => exact keeps
    next holder found =>
      have released : table.pipeline.Called
          (table.pipeline.setReader reader { holder with handles := holder.handles - 1 }) :=
        Pipeline.called_setReader found rfl fun _ _ _ => ⟨rfl, rfl⟩
      exact keeps.of_leaves (Nat.le_refl _) released.toLeaves
  | build config readers =>
    have registered := table.pipeline.registered_build config readers
    exact keeps.elsewhere (Nat.le_of_eq registered.time.symm)
      (fun other target found => ⟨target, registered.exporters ▸ found⟩)
      fun reader exporter worker found => by
        obtain ⟨later, there⟩ := registered.readers id reader exporter worker found
        exact ⟨later, worker.mailbox, there⟩
  | change codes clock cells providers => exact keeps.of_readers (Nat.le_refl _) rfl rfl

/-- A thread keeps to its schedule, whatever happens around it. -/
theorem Keeps.run (events : List TimetableEvent) : Keeps first id (table.run id events) := by
  induction events generalizing table with
  | nil => exact keeps
  | cons event rest ih => exact ih (keeps.step event)

end Keeps

/-- When exports are due, for a thread with a schedule: whatever turns are made of it, and by a
thread that keeps to it. -/
structure Exact (first : Schedule) (id : Nat) (table : Timetable) : Prop where
  /-- No subtraction of a turn goes below zero. -/
  checked : ∀ turns, first.run? turns = some (first.run turns)
  due : ∀ turns, (first.run turns).Exact
  lag : first.lag = 0
  /-- The thread's schedule is that of the turns made, none of them before it was due. -/
  kept : ∃ reader exporter worker,
    table.pipeline.periodic? id = some (reader, exporter, worker) ∧
      worker.schedule = first.run table.turns ∧
        (worker.phase = .waiting → worker.mailbox = [] → reader.handles ≠ 0 →
          table.pipeline.ready? reader = some worker.schedule.due)
  timely : first.Timely table.turns

/-- Exports are due an interval after the last one on schedule began, or at once if it took longer
than that. A flush puts the next export off by the lag of the schedule, unless it ends behind the
export put off: the lag is the time that the last export took, up to an interval, or an interval
behind a flush that ran past an export. No other flush puts an export off. -/
theorem next_export_exact (pipeline : Pipeline) (target : Exporter) (config : PeriodicConfig)
    (events : List TimetableEvent) :
    Exact (.start config.interval.nanos pipeline.time) pipeline.readers.length
      ((start pipeline target config).run pipeline.readers.length events) := by
  have sound := Schedule.sound_start config.interval.nanos pipeline.time
  have keeps := (keeps_start pipeline target config).run events
  constructor
  case checked => exact fun turns => Schedule.run?_eq sound turns
  case due => exact fun turns => Schedule.exact_of_sound (Schedule.sound_run sound turns)
  case lag => exact Schedule.lag_start _ _
  case kept =>
    obtain ⟨reader, exporter, worker, found, _, same, _⟩ := keeps.thread
    obtain ⟨_, kind⟩ := Pipeline.of_periodic? found
    exact ⟨reader, exporter, worker, found, same, Pipeline.ready?_of_idle kind⟩
  case timely => exact keeps.timely

/-- An export that takes half of its interval is followed by a flush: the next one was due in half
an interval, and is now due in a whole one. -/
theorem flush_puts_export_off :
    let exporter : Exporter :=
      { kind := .scripted [.slow ⟨500⟩] (.code .succeeded) (.code .succeeded) }
    let built := (start (.start 1) exporter ⟨⟨1000⟩, ⟨30000⟩⟩).run 0 [.build {} [(0, false)]]
    let (metered, meter) := built.pipeline.meter 0 ⟨"test", none, none, []⟩ true
    let (made, instrument) :=
      metered.instrument 0 meter ⟨.counter, .unsigned, "requests", none, none⟩ []
    let measured := made.record 0 meter instrument (.integer 5) []
    let exported := built.run 0 [.change measured.codes 1 measured.cells measured.providers,
      .pass 1000, .work 0, .pass 500, .work 0]
    let flushed := exported.run 0 [.ask 0 .flush, .work 0, .work 0]
    let due (table : Timetable) := (table.pipeline.readers[0]?).bind table.pipeline.ready?
    exported.turns = [.timer 1000 500] ∧ due exported = some 2000 ∧
      flushed.turns = [.timer 1000 500, .flush 0 0] ∧ flushed.pipeline.time = 1500 ∧
        due flushed = some 2500 := by
  decide +kernel

end Timetable

end Metering
