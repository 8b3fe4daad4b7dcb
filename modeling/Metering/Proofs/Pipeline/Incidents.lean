import Metering.Proofs.Pipeline.Mailbox
import Metering.Proofs.Pipeline.Moves

/-!
What becomes of an exporter while its reader is flushed and shut down. Every call that reaches the
exporter is counted by the exporter itself; in the order in which they come about these calls stand
next to what callers find when they look at the flag and to what the thread collects. Here the
thread may end inside the exporter, and all handles of the reader may be dropped.
-/

namespace Metering

open Completion

/-- A call on an exporter. -/
inductive Request where
  | accept
  | flush
  | shutdown
  deriving DecidableEq, Repr

/-- Who calls an exporter: the export thread, or a call on the reader that does it itself. -/
inductive Party where
  | thread
  | caller (index : Nat)
  deriving DecidableEq, Repr

/-- What comes about that concerns the end of an exporter. -/
inductive Incident where
  /-- A call on the reader finds the flag set or unset; a shutdown that finds it unset sets it. -/
  | looked (index : Nat) (call : ReaderCall) (flag : Bool)
  | collected (job : Job) (source : Option Lease)
  | called (party : Party) (request : Request)
  deriving DecidableEq

namespace Incident

def isRequest (request : Request) : Incident → Bool
  | .called _ made => made = request
  | _ => false

/-- Whether it is the collection for a message to shut down. -/
def isFinal : Incident → Bool
  | .collected (.shutdown _) _ => true
  | _ => false

end Incident

/-- How many calls of a kind an exporter has counted. -/
def Exporter.count (exporter : Exporter) : Request → Nat
  | .accept => exporter.exports
  | .flush => exporter.flushes
  | .shutdown => exporter.shutdowns

/-- The calls that an exporter has counted since. A stretch of work makes at most one. -/
def Exporter.requestsSince (before after : Exporter) : List Request :=
  [Request.accept, .flush, .shutdown].flatMap fun request =>
    List.replicate (after.count request - before.count request) request

def Message.request (message : Message) : Request :=
  if message.isShutdown then .shutdown else .flush

namespace Exporter

theorem count_accept (exporter : Exporter) (report : Report) (request : Request) :
    (exporter.accept report).1.count request =
      exporter.count request + if request = .accept then 1 else 0 := by
  unfold accept
  cases exporter.kind with
  | logging => cases exporter.isShutdown <;> cases request <;> rfl
  | _ => cases request <;> rfl

theorem count_ask (exporter : Exporter) (message : Message) (request : Request) :
    (exporter.ask message).1.count request =
      exporter.count request + if request = message.request then 1 else 0 := by
  cases message <;> cases request <;> rfl

theorem requestsSince_self (exporter : Exporter) : exporter.requestsSince exporter = [] := by
  simp [requestsSince]

theorem requestsSince_accept (exporter : Exporter) (report : Report) :
    exporter.requestsSince (exporter.accept report).1 = [.accept] := by
  simp [requestsSince, count_accept]

theorem requestsSince_ask (exporter : Exporter) (message : Message) :
    exporter.requestsSince (exporter.ask message).1 = [message.request] := by
  cases message <;> simp [requestsSince, count_ask, Message.request, Message.isShutdown]

/-- The calls that an exporter has counted since are what its counters have risen by. -/
theorem countP_requestsSince (before after : Exporter) (party : Party) (request : Request) :
    ((before.requestsSince after).map (Incident.called party)).countP
        (Incident.isRequest request) = after.count request - before.count request := by
  simp only [requestsSince, List.flatMap_cons, List.flatMap_nil, List.append_nil, List.map_append,
    List.map_replicate, List.countP_append, List.countP_replicate, Incident.isRequest]
  cases request <;> simp

end Exporter

/-- The calls that an exporter of a pipeline has counted since. -/
def Pipeline.requestsSince (before after : Pipeline) (exporter : Nat) : List Request :=
  match before.exporters[exporter]?, after.exporters[exporter]? with
  | some target, some changed => target.requestsSince changed
  | _, _ => []

/-- Calls on a reader, with all incidents so far. -/
structure Lifespan where
  traffic : Traffic
  incidents : List Incident := []

/-- What happens: one of the events of the traffic on a reader, or a handle of it is dropped. -/
inductive LifespanEvent where
  | go (event : TrafficEvent)
  | drop

/-- Who calls the exporter when an event has it called. -/
def LifespanEvent.party : LifespanEvent → Party
  | .go (.advance index) => .caller index
  | _ => .thread

namespace Lifespan

/-- What a thread collects for when it goes on. -/
def collects (reader : Reader) (worker : Worker) : List Incident :=
  ((worker.begins? reader.handles).map fun (job, _) => .collected job reader.lease).toList

theorem collects_of_begun {reader : Reader} {worker base : Worker} {job : Job}
    (begins : worker.begins? reader.handles = some (job, base)) :
    collects reader worker = [.collected job reader.lease] := by
  rw [collects, begins]
  rfl

theorem collects_of_idle {reader : Reader} {worker : Worker}
    (idle : worker.begins? reader.handles = none) : collects reader worker = [] := by
  rw [collects, idle]
  rfl

/-- What a call that begins finds, and what the thread collects for when it begins a job. -/
def notices (traffic : Traffic) (id : Nat) : LifespanEvent → List Incident
  | .go (.advance index) =>
    match traffic.pipeline.periodic? id, traffic.calls[index]? with
    | some (reader, _, _), some (call, .fresh) => [.looked index call reader.isShutdown]
    | _, _ => []
  | .go .work =>
    match traffic.pipeline.periodic? id with
    | some (reader, _, worker) =>
      if (traffic.pipeline.ready? reader).any (· ≤ traffic.pipeline.time) then
        collects reader worker
      else []
    | none => []
  | _ => []

def react (traffic : Traffic) (id : Nat) : LifespanEvent → Traffic
  | .go event => traffic.step id event
  | .drop => { traffic with pipeline := traffic.pipeline.releaseReader id }

def step (span : Lifespan) (id exporter : Nat) (event : LifespanEvent) : Lifespan :=
  let after := react span.traffic id event
  { traffic := after
    incidents := span.incidents ++ (notices span.traffic id event ++
      (span.traffic.pipeline.requestsSince after.pipeline exporter).map
        (.called event.party)) }

def run (span : Lifespan) (id exporter : Nat) (events : List LifespanEvent) : Lifespan :=
  events.foldl (fun span event => span.step id exporter event) span

/-- A collection for a message to shut down stands behind everything but exports and callers who
look at the flag. -/
def Readied (source : Option Lease) (incidents : List Incident) : Prop :=
  ∃ code early between, incidents = early ++ .collected (.shutdown code) source :: between ∧
    ∀ incident ∈ between, (∃ index call flag, incident = .looked index call flag) ∨
      incident = .called .thread .accept

/-- What stands before and behind a shutdown call on the exporter. -/
structure Closing (source : Option Lease) (party : Party) (before after : List Incident) :
    Prop where
  won : ∃ winner, .looked winner .shutdown false ∈ before
  own : ∀ index, party = .caller index → .looked index .shutdown false ∈ before
  collected : party = .thread → Readied source before
  last : ∀ other request, .called other request ∉ after

/-- Incidents in an order in which the exporter is shut down last, and by leave of the flag. -/
structure Orderly (source : Option Lease) (incidents : List Incident) : Prop where
  closings : ∀ before after party, incidents = before ++ .called party .shutdown :: after →
    Closing source party before after
  flags : ∀ before after index call flag, incidents = before ++ .looked index call flag :: after →
    (flag = true ↔ ∃ winner, .looked winner .shutdown false ∈ before)

theorem split_concat {α : Type} {items before after : List α} {last item : α}
    (same : items ++ [last] = before ++ item :: after) :
    (before = items ∧ item = last ∧ after = []) ∨
      ∃ rest, items = before ++ item :: rest ∧ after = rest ++ [last] := by
  rcases List.append_eq_append_iff.mp same with ⟨early, rfl, tail⟩ | ⟨later, rfl, tail⟩
  · cases early with
    | nil =>
      cases tail
      exact .inl ⟨List.append_nil _, rfl, rfl⟩
    | cons first rest =>
      obtain ⟨_, none⟩ := List.cons.inj tail
      exact absurd none.symm (by simp)
  · cases later with
    | nil =>
      cases tail
      exact .inl ⟨(List.append_nil _).symm, rfl, rfl⟩
    | cons first rest =>
      obtain ⟨rfl, rfl⟩ := List.cons.inj tail
      exact .inr ⟨rest, rfl, rfl⟩

theorem Readied.concat {source : Option Lease} {incidents : List Incident} {incident : Incident}
    (readied : Readied source incidents)
    (fits : (∃ index call flag, incident = .looked index call flag) ∨
      incident = .called .thread .accept) : Readied source (incidents ++ [incident]) := by
  obtain ⟨code, early, between, rfl, all⟩ := readied
  refine ⟨code, early, between ++ [incident], by simp, fun other member => ?_⟩
  rcases List.mem_append.mp member with old | new
  · exact all other old
  · exact List.mem_singleton.mp new ▸ fits

theorem Orderly.concat {source : Option Lease} {incidents : List Incident} {incident : Incident}
    (orderly : Orderly source incidents)
    (closing : ∀ party, incident = .called party .shutdown → Closing source party incidents [])
    (flagged : ∀ index call flag, incident = .looked index call flag →
      (flag = true ↔ ∃ winner, .looked winner .shutdown false ∈ incidents))
    (quiet : ∀ party request, incident = .called party request →
      incidents.countP (Incident.isRequest .shutdown) = 0) :
    Orderly source (incidents ++ [incident]) := by
  constructor
  case closings =>
    intro before after party same
    rcases split_concat same with ⟨rfl, new, rfl⟩ | ⟨rest, old, rfl⟩
    · exact closing party new.symm
    · have closed := orderly.closings before rest party old
      refine { closed with last := fun other request member => ?_ }
      rcases List.mem_append.mp member with inside | new
      · exact closed.last other request inside
      · have none := quiet other request (List.mem_singleton.mp new).symm
        rw [old, List.countP_append, List.countP_cons_of_pos rfl] at none
        omega
  case flags =>
    intro before after index call flag same
    rcases split_concat same with ⟨rfl, new, rfl⟩ | ⟨rest, old, rfl⟩
    · exact flagged index call flag new.symm
    · exact orderly.flags before rest index call flag old

/-- Whether a thread is at the export of its shutdown. -/
def isFinishing (worker : Worker) : Bool :=
  match worker.phase with
  | .exporting (.shutdown _) _ _ => true
  | .awaiting (.shutdown _) _ _ _ => true
  | _ => false

/-- Whether a thread is inside the exporter's shutdown call, or has ended. -/
def isSpent (worker : Worker) : Bool :=
  match worker.phase with
  | .closing (.shutdown _) _ _ => true
  | .ended => true
  | _ => false

def isClosingJob : Job → Bool
  | .shutdown _ => true
  | _ => false

/-- The shutdown messages not yet taken. -/
def queued (mailbox : List Message) : Nat := mailbox.countP Message.isShutdown

def closes (incidents : List Incident) : Nat := incidents.countP (Incident.isRequest .shutdown)

def finals (incidents : List Incident) : Nat := incidents.countP Incident.isFinal

/-- A thread with `admitted` shutdowns about to send their message; the flag has let through no more
than `bound`, and each of them comes to one final collection and one shutdown call at most. -/
structure Thread (source : Option Lease) (admitted bound : Nat) (worker : Worker)
    (incidents : List Incident) : Prop where
  orderly : Orderly source incidents
  won : 0 < bound → ∃ winner, .looked winner .shutdown false ∈ incidents
  once : admitted + queued worker.mailbox + (if isFinishing worker then 1 else 0) +
    closes incidents ≤ bound
  final : admitted + queued worker.mailbox + finals incidents ≤ bound
  past : finals incidents ≠ 0 → isFinishing worker = true ∨ isSpent worker = true
  spent : closes incidents ≠ 0 → isSpent worker = true
  readied : isFinishing worker = true → Readied source incidents

/-- A thread at a job, with the messages behind it. -/
structure Busy (source : Option Lease) (admitted bound : Nat) (job : Job)
    (mailbox : List Message) (incidents : List Incident) : Prop where
  orderly : Orderly source incidents
  won : 0 < bound → ∃ winner, .looked winner .shutdown false ∈ incidents
  once : admitted + queued mailbox + (if isClosingJob job then 1 else 0) ≤ bound
  final : admitted + queued mailbox + finals incidents ≤ bound
  past : finals incidents ≠ 0 → isClosingJob job = true
  unspent : closes incidents = 0
  readied : isClosingJob job = true → Readied source incidents

section Thread

variable {source : Option Lease} {admitted bound : Nat} {worker base later : Worker} {job : Job}
  {incidents : List Incident}

theorem closes_concat (incidents : List Incident) (incident : Incident) :
    closes (incidents ++ [incident]) =
      closes incidents + if incident.isRequest .shutdown then 1 else 0 := by
  rw [closes, List.countP_append, List.countP_singleton, closes]

theorem finals_concat (incidents : List Incident) (incident : Incident) :
    finals (incidents ++ [incident]) = finals incidents + if incident.isFinal then 1 else 0 := by
  rw [finals, List.countP_append, List.countP_singleton, finals]

/-- A thread without messages, before anything has come about. -/
theorem Thread.begin (idle : worker.messages = []) : Thread source 0 0 worker [] := by
  obtain ⟨nothing, empty⟩ := List.append_eq_nil_iff.mp idle
  have unqueued : queued worker.mailbox = 0 := by
    rw [empty]
    rfl
  have unfinished : isFinishing worker = false := by
    unfold isFinishing
    split
    next phase =>
      rw [phase] at nothing
      cases nothing
    next phase =>
      rw [phase] at nothing
      cases nothing
    next => rfl
  constructor
  case orderly =>
    refine ⟨fun before after party same => ?_, fun before after index call flag same => ?_⟩
    · exact absurd same (by simp)
    · exact absurd same (by simp)
  case won => exact nofun
  case once =>
    rw [unqueued, unfinished]
    exact Nat.le_refl _
  case final =>
    rw [unqueued]
    exact Nat.le_refl _
  case past => exact fun some => absurd rfl some
  case spent => exact fun some => absurd rfl some
  case readied => exact fun finishing => nomatch unfinished.symm.trans finishing

theorem Thread.stop (thread : Thread source admitted bound worker incidents) :
    Thread source admitted bound worker.stop incidents where
  orderly := thread.orderly
  won := thread.won
  once := by
    have once := thread.once
    change admitted + 0 + 0 + closes incidents ≤ bound
    omega
  final := by
    have final := thread.final
    change admitted + 0 + finals incidents ≤ bound
    omega
  past := fun _ => .inr rfl
  spent := fun _ => rfl
  readied := nofun

/-- A thread begins a job with a collection. -/
theorem Thread.begins {handles : Nat} (thread : Thread source admitted bound worker incidents)
    (begins : worker.begins? handles = some (job, base)) :
    Busy source admitted bound job base.mailbox (incidents ++ [.collected job source]) := by
  obtain ⟨phase, _, _, mailbox⟩ := Worker.begun begins
  have unfinished : isFinishing worker = false := by rw [isFinishing, phase]
  have fresh : isSpent worker = false := by rw [isSpent, phase]
  have unclosed : closes incidents = 0 := by
    refine Decidable.byContradiction fun some => ?_
    cases fresh.symm.trans (thread.spent some)
  have unfinal : finals incidents = 0 := by
    refine Decidable.byContradiction fun some => ?_
    rcases thread.past some with finishing | spent
    · cases unfinished.symm.trans finishing
    · cases fresh.symm.trans spent
  have taken : queued worker.mailbox =
      (if isClosingJob job then 1 else 0) + queued base.mailbox := by
    rw [mailbox, queued, List.countP_append]
    cases job <;> rfl
  have final : (Incident.collected job source).isFinal = isClosingJob job := by cases job <;> rfl
  have once := thread.once
  have many := thread.final
  rw [unclosed, unfinished, if_neg Bool.false_ne_true, taken] at once
  constructor
  case orderly => exact thread.orderly.concat nofun nofun nofun
  case won =>
    intro some
    obtain ⟨winner, looked⟩ := thread.won some
    exact ⟨winner, List.mem_append_left _ looked⟩
  case once => omega
  case final =>
    rw [finals_concat, final, unfinal]
    omega
  case past =>
    rw [finals_concat, final, unfinal]
    intro some
    refine Decidable.byContradiction fun other => some ?_
    rw [if_neg other]
  case unspent =>
    rw [closes_concat, unclosed]
    rfl
  case readied =>
    intro closing
    cases job with
    | shutdown code => exact ⟨code, incidents, [], rfl, List.forall_mem_nil _⟩
    | timer => cases closing
    | flush code => cases closing

/-- A thread that has waited for an export is at its job. -/
theorem Thread.busy (job : Job) (thread : Thread source admitted bound worker incidents)
    (finishing : isFinishing worker = isClosingJob job) (alive : isSpent worker = false) :
    Busy source admitted bound job worker.mailbox incidents where
  orderly := thread.orderly
  won := thread.won
  once := by
    have once := thread.once
    rw [finishing] at once
    omega
  final := thread.final
  past := fun some => by
    rcases thread.past some with same | spent
    · exact finishing ▸ same
    · cases alive.symm.trans spent
  unspent := Decidable.byContradiction fun some => by
    cases alive.symm.trans (thread.spent some)
  readied := fun closing => thread.readied (finishing ▸ closing)

namespace Busy

variable {mailbox : List Message} (busy : Busy source admitted bound job mailbox incidents)

include busy

/-- A thread at a job waits for an export. -/
theorem thread (phase : isFinishing worker = isClosingJob job) (same : worker.mailbox = mailbox) :
    Thread source admitted bound worker incidents where
  orderly := busy.orderly
  won := busy.won
  once := by
    rw [phase, same, busy.unspent]
    exact busy.once
  final := same ▸ busy.final
  past := fun some => .inl (phase.trans (busy.past some))
  spent := fun some => absurd busy.unspent some
  readied := fun finishing => busy.readied (phase ▸ finishing)

theorem accept : Busy source admitted bound job mailbox
    (incidents ++ [.called .thread .accept]) where
  orderly := busy.orderly.concat nofun nofun fun _ _ _ => busy.unspent
  won := fun some => by
    obtain ⟨winner, looked⟩ := busy.won some
    exact ⟨winner, List.mem_append_left _ looked⟩
  once := busy.once
  final := by
    rw [finals_concat]
    exact busy.final
  past := by
    rw [finals_concat]
    exact busy.past
  unspent := by
    rw [closes_concat, busy.unspent]
    rfl
  readied := fun closing => (busy.readied closing).concat (.inr rfl)

/-- A thread ends, or goes on to wait, when nothing is left of its job. -/
theorem rest (unclosing : isClosingJob job = false) (alive : isFinishing worker = false)
    (fewer : queued worker.mailbox ≤ queued mailbox) :
    Thread source admitted bound worker incidents := by
  have none : finals incidents = 0 := Decidable.byContradiction fun some => by
    cases unclosing.symm.trans (busy.past some)
  constructor
  case orderly => exact busy.orderly
  case won => exact busy.won
  case once =>
    have once := busy.once
    rw [unclosing, if_neg Bool.false_ne_true] at once
    rw [alive, if_neg Bool.false_ne_true, busy.unspent]
    omega
  case final =>
    have final := busy.final
    omega
  case past => exact fun some => absurd none some
  case spent => exact fun some => absurd busy.unspent some
  case readied =>
    intro finishing
    cases alive.symm.trans finishing

theorem stop (worker : Worker) : Thread source admitted bound worker.stop incidents where
  orderly := busy.orderly
  won := busy.won
  once := by
    have once := busy.once
    change admitted + 0 + 0 + closes incidents ≤ bound
    rw [busy.unspent]
    omega
  final := by
    have final := busy.final
    change admitted + 0 + finals incidents ≤ bound
    omega
  past := fun _ => .inr rfl
  spent := fun _ => rfl
  readied := nofun

theorem flush (unclosing : isClosingJob job = false) :
    Busy source admitted bound job mailbox (incidents ++ [.called .thread .flush]) where
  orderly := busy.orderly.concat nofun nofun fun _ _ _ => busy.unspent
  won := fun some => by
    obtain ⟨winner, looked⟩ := busy.won some
    exact ⟨winner, List.mem_append_left _ looked⟩
  once := busy.once
  final := by
    rw [finals_concat]
    exact busy.final
  past := by
    rw [finals_concat]
    exact busy.past
  unspent := by
    rw [closes_concat, busy.unspent]
    rfl
  readied := fun closing => by cases unclosing.symm.trans closing

/-- The thread shuts the exporter down. -/
theorem shutdown (closing : isClosingJob job = true) (spent : isSpent worker = true)
    (finished : isFinishing worker = false) (fewer : queued worker.mailbox ≤ queued mailbox) :
    Thread source admitted bound worker (incidents ++ [.called .thread .shutdown]) := by
  have once := busy.once
  have final := busy.final
  rw [closing, if_pos rfl] at once
  obtain ⟨winner, looked⟩ := busy.won (by omega)
  constructor
  case orderly =>
    refine busy.orderly.concat ?_ nofun fun _ _ _ => busy.unspent
    rintro party ⟨⟩
    exact ⟨⟨winner, looked⟩, nofun, fun _ => busy.readied closing, nofun⟩
  case won => exact fun _ => ⟨winner, List.mem_append_left _ looked⟩
  case once =>
    rw [finished, closes_concat, busy.unspent]
    change admitted + queued worker.mailbox + 0 + (0 + 1) ≤ bound
    omega
  case final =>
    rw [finals_concat]
    change admitted + queued worker.mailbox + (finals incidents + 0) ≤ bound
    omega
  case past => exact fun _ => .inr spent
  case spent => exact fun _ => spent
  case readied =>
    intro finishing
    cases finished.symm.trans finishing

end Busy

section Busy

variable {codes final : Codes} {time : Nat} {response : Response} {exported : Except Failure Unit}
  {target changed : Exporter} (busy : Busy source admitted bound job base.mailbox incidents)

include busy

theorem Busy.hands (hands : Pipeline.Hands codes time base job response final later) :
    Thread source admitted bound later (incidents ++ [.called .thread .accept]) := by
  have handed := busy.accept
  cases hands with
  | awaits _ _ _ worker => exact worker ▸ handed.thread (by cases job <;> rfl) rfl
  | waits _ _ _ worker => exact worker ▸ handed.thread (by cases job <;> rfl) rfl
  | crashed _ _ worker => exact worker ▸ busy.accept.stop base

theorem Busy.closes_flush {code : CodeId}
    (closes : Pipeline.Closes codes time base (.flush code) exported response final later)
    (flush : job = .flush code) : Thread source admitted bound later incidents := by
  subst flush
  cases closes with
  | settled outcome _ settles =>
    cases settles with
    | rested timer => cases timer
    | flushed _ schedule _ _ worker => exact worker ▸ busy.rest rfl rfl (Nat.le_refl _)
    | stopped _ shutdown => cases shutdown
  | waits _ _ _ worker => exact worker ▸ busy.rest rfl rfl (Nat.le_refl _)
  | crashed _ _ worker => exact worker ▸ busy.stop base

theorem Busy.closes_shutdown {code : CodeId}
    (closes : Pipeline.Closes codes time base (.shutdown code) exported response final later)
    (shutdown : job = .shutdown code) :
    Thread source admitted bound later (incidents ++ [.called .thread .shutdown]) := by
  subst shutdown
  have none : queued base.stop.mailbox ≤ queued base.mailbox := Nat.zero_le _
  cases closes with
  | settled outcome _ settles =>
    cases settles with
    | rested timer => cases timer
    | flushed _ _ flush => cases flush
    | stopped _ _ _ worker => exact worker ▸ busy.shutdown rfl rfl rfl none
  | waits _ _ _ worker => exact worker ▸ busy.shutdown rfl rfl rfl (Nat.le_refl _)
  | crashed _ _ worker => exact worker ▸ busy.shutdown rfl rfl rfl none

theorem Busy.concludes
    (concludes : Pipeline.Concludes codes time base job exported target changed final later) :
    Thread source admitted bound later
      (incidents ++ (target.requestsSince changed).map (.called .thread)) := by
  cases concludes with
  | rested timer schedule exporter _ worker =>
    rw [exporter, target.requestsSince_self, List.map_nil, List.append_nil, worker]
    exact busy.rest (timer ▸ rfl) rfl (Nat.le_refl _)
  | asked message asks exporter closes =>
    rw [exporter, target.requestsSince_ask]
    cases job with
    | timer => cases asks
    | flush code =>
      cases asks
      exact (busy.flush rfl).closes_flush closes rfl
    | shutdown code =>
      cases asks
      exact busy.closes_shutdown closes rfl

end Busy

/-- A stretch of work of the thread. -/
theorem Thread.move {before after : Pipeline} {reader : Reader} {target changed : Exporter}
    (thread : Thread source admitted bound worker incidents) (leased : reader.lease = source)
    (move : before.Move reader worker target changed after later) :
    Thread source admitted bound later (incidents ++ (collects reader worker ++
      (target.requestsSince changed).map (.called .thread))) := by
  subst leased
  have nothing : target.requestsSince target = [] := target.requestsSince_self
  cases move with
  | ended phase exporter _ _ same =>
    have busy : worker.phase ≠ .waiting := by simp [phase]
    rw [collects_of_idle (Worker.begins?_eq_none busy), exporter, nothing, same]
    exact (List.append_nil incidents).symm ▸ thread
  | left phase mailbox unheld exporter _ _ stop =>
    have idle : worker.begins? reader.handles = none :=
      unheld ▸ Worker.begins?_of_unheld phase mailbox
    rw [collects_of_idle idle, exporter, nothing, stop]
    exact (List.append_nil incidents).symm ▸ thread.stop
  | handed job base begins report _ _ exporter hands =>
    rw [collects_of_begun begins, exporter, target.requestsSince_accept, ← List.append_assoc]
    exact (thread.begins begins).hands hands
  | skipped job base begins exported _ _ concludes =>
    rw [collects_of_begun begins, ← List.append_assoc]
    exact (thread.begins begins).concludes concludes
  | exported job exported phase _ concludes =>
    have busy : worker.phase ≠ .waiting := by
      rcases phase with ⟨began, ends, phase, _⟩ | ⟨began, code, limit, phase, _⟩ <;> simp [phase]
    have finishing : isFinishing worker = isClosingJob job := by
      rcases phase with ⟨began, ends, phase, _⟩ | ⟨began, code, limit, phase, _⟩ <;>
        rw [isFinishing, phase] <;> cases job <;> rfl
    have alive : isSpent worker = false := by
      rcases phase with ⟨began, ends, phase, _⟩ | ⟨began, code, limit, phase, _⟩ <;>
        rw [isSpent, phase]
    rw [collects_of_idle (Worker.begins?_eq_none busy), List.nil_append]
    exact (thread.busy job finishing alive).concludes concludes
  | closed job exported ends phase exporter _ settles =>
    have busy : worker.phase ≠ .waiting := by simp [phase]
    rw [collects_of_idle (Worker.begins?_eq_none busy), exporter, nothing]
    refine (List.append_nil incidents).symm ▸ ?_
    have unfinished : isFinishing worker = false := by rw [isFinishing, phase]
    cases settles with
    | rested timer schedule _ later =>
      have alive : isSpent worker = false := by rw [isSpent, phase, timer]
      exact later ▸ (thread.busy job (by rw [unfinished, timer]; rfl) alive).rest
        (timer ▸ rfl) rfl (Nat.le_refl _)
    | flushed code schedule flush _ later =>
      have alive : isSpent worker = false := by rw [isSpent, phase, flush]
      exact later ▸ (thread.busy job (by rw [unfinished, flush]; rfl) alive).rest
        (flush ▸ rfl) rfl (Nat.le_refl _)
    | stopped _ _ _ later => exact later ▸ thread.stop

/-- A call on the reader looks at the flag. -/
theorem Thread.look (thread : Thread source admitted bound worker incidents) (index : Nat)
    (call : ReaderCall) {flag : Bool}
    (same : flag = true ↔ ∃ winner, .looked winner .shutdown false ∈ incidents) :
    Thread source admitted bound worker (incidents ++ [.looked index call flag]) where
  orderly := thread.orderly.concat nofun
    (by
      rintro _ _ _ ⟨⟩
      exact same) nofun
  won := fun some => by
    obtain ⟨winner, looked⟩ := thread.won some
    exact ⟨winner, List.mem_append_left _ looked⟩
  once := by
    rw [closes_concat]
    exact thread.once
  final := by
    rw [finals_concat]
    exact thread.final
  past := by
    rw [finals_concat]
    exact thread.past
  spent := by
    rw [closes_concat]
    exact thread.spent
  readied := fun finishing => (thread.readied finishing).concat (.inl ⟨index, call, flag, rfl⟩)

/-- A shutdown has set the flag. -/
theorem Thread.admit (thread : Thread source admitted bound worker incidents)
    (won : ∃ winner, .looked winner .shutdown false ∈ incidents) :
    Thread source (admitted + 1) (bound + 1) worker incidents :=
  { thread with
    won := fun _ => won
    once := by
      have once := thread.once
      omega
    final := by
      have final := thread.final
      omega }

/-- A message is sent to the thread. -/
theorem Thread.post {message : Message}
    (thread : Thread source (admitted + if message.isShutdown then 1 else 0) bound worker
      incidents) :
    Thread source admitted bound { worker with mailbox := worker.mailbox ++ [message] }
      incidents := by
  have longer : queued (worker.mailbox ++ [message]) =
      queued worker.mailbox + if message.isShutdown then 1 else 0 := by
    rw [queued, List.countP_append, List.countP_singleton, queued]
  have once := thread.once
  have final := thread.final
  constructor
  case orderly => exact thread.orderly
  case won => exact thread.won
  case once =>
    change admitted + queued (worker.mailbox ++ [message]) +
      (if isFinishing worker then 1 else 0) + closes incidents ≤ bound
    omega
  case final =>
    change admitted + queued (worker.mailbox ++ [message]) + finals incidents ≤ bound
    omega
  case past => exact thread.past
  case spent => exact thread.spent
  case readied => exact thread.readied

/-- A shutdown finds no thread and shuts the exporter down itself. -/
theorem Thread.direct {index : Nat} (thread : Thread source (admitted + 1) bound worker incidents)
    (single : bound ≤ 1) (ended : worker.hasEnded = true)
    (own : .looked index .shutdown false ∈ incidents) :
    Thread source admitted bound worker (incidents ++ [.called (.caller index) .shutdown]) := by
  have phase : worker.phase = .ended := by
    unfold Worker.hasEnded at ended
    split at ended
    next phase => exact phase
    next => cases ended
  have spent : isSpent worker = true := by rw [isSpent, phase]
  have unfinished : isFinishing worker = false := by rw [isFinishing, phase]
  have once := thread.once
  have final := thread.final
  rw [unfinished, if_neg Bool.false_ne_true] at once
  constructor
  case orderly =>
    refine thread.orderly.concat ?_ nofun fun _ _ _ => ?_
    · rintro party ⟨⟩
      refine ⟨⟨index, own⟩, ?_, nofun, nofun⟩
      rintro _ ⟨⟩
      exact own
    · change closes incidents = 0
      omega
  case won => exact fun _ => ⟨index, List.mem_append_left _ own⟩
  case once =>
    rw [unfinished, if_neg Bool.false_ne_true, closes_concat]
    change admitted + queued worker.mailbox + 0 + (closes incidents + 1) ≤ bound
    omega
  case final =>
    rw [finals_concat]
    change admitted + queued worker.mailbox + (finals incidents + 0) ≤ bound
    omega
  case past => exact fun _ => .inr spent
  case spent => exact fun _ => spent
  case readied =>
    intro finishing
    cases unfinished.symm.trans finishing

end Thread

/-- The counters of an exporter never fall. -/
theorem count_le_move {before after : Pipeline} {reader : Reader} {worker later : Worker}
    {target changed : Exporter} (move : before.Move reader worker target changed after later)
    (request : Request) : target.count request ≤ changed.count request := by
  have concluded : ∀ {codes time base job exported final later},
      Pipeline.Concludes codes time base job exported target changed final later →
        target.count request ≤ changed.count request := by
    intro codes time base job exported final later concludes
    cases concludes with
    | rested _ _ exporter => exact Nat.le_of_eq (by rw [exporter])
    | asked message _ exporter =>
      rw [exporter, target.count_ask]
      exact Nat.le_add_right _ _
  cases move with
  | ended _ exporter => exact Nat.le_of_eq (by rw [exporter])
  | left _ _ _ exporter => exact Nat.le_of_eq (by rw [exporter])
  | handed _ _ _ report _ _ exporter =>
    rw [exporter, target.count_accept]
    exact Nat.le_add_right _ _
  | skipped _ _ _ _ _ _ concludes => exact concluded concludes
  | exported _ _ _ _ concludes => exact concluded concludes
  | closed _ _ _ _ exporter => exact Nat.le_of_eq (by rw [exporter])

/-- Providers are changed by the collections that a thread begins its jobs with. -/
theorem providers_move {before after : Pipeline} {reader : Reader} {worker later : Worker}
    {target changed : Exporter} (move : before.Move reader worker target changed after later) :
    after.providers =
      if collects reader worker = [] then before.providers
      else (before.gathered reader.lease).providers := by
  cases begins : worker.begins? reader.handles with
  | none => rw [if_pos (collects_of_idle begins), move.providers_of_idle begins]
  | some begun =>
    rw [collects_of_begun begins, if_neg (List.cons_ne_nil _ _), (move.begun begins).1]

end Lifespan

end Metering
