import Metering.Proofs.Pipeline.Answers

/-!
Calls on a periodic reader while its export thread is at work. A flush looks at the reader's flag
and a shutdown sets it before either sends its message, so a flush that was let through can send
behind the message to shut down. The thread answers messages in the order in which they were sent,
up to the one to shut down; what was sent behind that is lost.
-/

namespace Metering

open Completion

inductive ReaderCall where
  | flush
  | shutdown
  deriving DecidableEq, Repr

/-- How far a call on a reader has come. -/
inductive ReaderStage where
  | fresh
  /-- It has read or set the flag and is about to send its message. -/
  | admitted
  | returned (code : CodeId)
  deriving DecidableEq, Repr

/-- Calls on a reader, with the messages sent so far in their order and the codes that the exporter
has given. -/
structure Traffic where
  pipeline : Pipeline
  calls : List (ReaderCall × ReaderStage)
  sent : List Message := []
  given : List CodeId := []

/-- What happens meanwhile: a call goes on, the export thread goes on if it can, time passes, a code
of the exporter is completed, callers change the providers. -/
inductive TrafficEvent where
  | advance (call : Nat)
  | work
  | pass (nanos : Nat)
  | complete (code : CodeId) (outcome : Outcome)
  | change (providers : List Provider)

/-- A periodic reader with its exporter and its thread. -/
def Pipeline.periodic? (pipeline : Pipeline) (id : Nat) : Option (Reader × Nat × Worker) :=
  match pipeline.readers[id]? with
  | none => none
  | some reader =>
    match reader.kind with
    | .periodic exporter worker => some (reader, exporter, worker)
    | _ => none

theorem Pipeline.of_periodic? {pipeline : Pipeline} {id exporter : Nat} {reader : Reader}
    {worker : Worker} (found : pipeline.periodic? id = some (reader, exporter, worker)) :
    pipeline.readers[id]? = some reader ∧ reader.kind = .periodic exporter worker := by
  unfold periodic? at found
  split at found
  next => cases found
  next other there =>
    split at found
    next kind =>
      cases found
      exact ⟨there, kind⟩
    next => cases found

def ReaderCall.message : ReaderCall → CodeId → Message
  | .flush => .flush
  | .shutdown => .shutdown

theorem ReaderCall.code_message (call : ReaderCall) (code : CodeId) :
    (call.message code).code = code := by
  cases call <;> rfl

def Pipeline.sendCall (pipeline : Pipeline) (id : Nat) (call : ReaderCall) (reader : Reader)
    (exporter : Nat) (worker : Worker) : Pipeline × CodeId :=
  match call with
  | .flush => pipeline.sendFlush id reader worker
  | .shutdown => pipeline.sendShutdown id reader exporter worker

namespace Traffic

def begin (pipeline : Pipeline) (calls : List ReaderCall) : Traffic :=
  { pipeline, calls := calls.map (·, .fresh) }

def setStage (traffic : Traffic) (index : Nat) (call : ReaderCall) (stage : ReaderStage) :
    Traffic :=
  { traffic with calls := traffic.calls.set index (call, stage) }

/-- A call looks at the flag, and a shutdown sets it. -/
def enter (traffic : Traffic) (id index : Nat) (call : ReaderCall) (reader : Reader) : Traffic :=
  if reader.isShutdown then
    let (pipeline, code) := traffic.pipeline.newCode (.failed (some .alreadyShutdown))
    { traffic with pipeline }.setStage index call (.returned code)
  else
    match call with
    | .flush => traffic.setStage index .flush .admitted
    | .shutdown =>
      { traffic with pipeline := traffic.pipeline.setReader id { reader with isShutdown := true } }
        |>.setStage index .shutdown .admitted

/-- A call that has been let through sends its message, unless the thread has ended. -/
def send (traffic : Traffic) (id index : Nat) (call : ReaderCall) (reader : Reader)
    (exporter : Nat) (worker : Worker) : Traffic :=
  let (pipeline, code) := traffic.pipeline.sendCall id call reader exporter worker
  let sent := if worker.hasEnded then traffic.sent else traffic.sent ++ [call.message code]
  { traffic with pipeline, sent }.setStage index call (.returned code)

def advance (traffic : Traffic) (id index : Nat) : Traffic :=
  match traffic.pipeline.periodic? id, traffic.calls[index]? with
  | some (reader, _, _), some (call, .fresh) => traffic.enter id index call reader
  | some (reader, exporter, worker), some (call, .admitted) =>
    traffic.send id index call reader exporter worker
  | _, _ => traffic

/-- The export thread goes on once it need not wait any longer. -/
def work (traffic : Traffic) (id : Nat) : Traffic :=
  match traffic.pipeline.readers[id]?.bind traffic.pipeline.ready? with
  | none => traffic
  | some time =>
    if traffic.pipeline.time < time then traffic
    else
      let pipeline := traffic.pipeline.stepWorker id
      { traffic with
          pipeline
          given := traffic.given ++
            pipeline.codes.newcomers traffic.pipeline.codes.cells.length }

def step (traffic : Traffic) (id : Nat) : TrafficEvent → Traffic
  | .advance call => traffic.advance id call
  | .work => traffic.work id
  | .pass nanos =>
    { traffic with pipeline := { traffic.pipeline with time := traffic.pipeline.time + nanos } }
  | .complete code outcome =>
    if code ∈ traffic.given then
      { traffic with pipeline := traffic.pipeline.complete code outcome }
    else traffic
  | .change providers => { traffic with pipeline := { traffic.pipeline with providers } }

def run (traffic : Traffic) (id : Nat) (events : List TrafficEvent) : Traffic :=
  events.foldl (fun traffic event => traffic.step id event) traffic

/-- Whether the export thread of a reader has stopped. -/
def hasStopped (traffic : Traffic) (id : Nat) : Bool :=
  (traffic.pipeline.periodic? id).any fun (_, _, worker) => worker.hasEnded

/-- The messages sent behind the first one to shut down. -/
def behindShutdown (traffic : Traffic) : List Message :=
  (traffic.sent.dropWhile fun message => !message.isShutdown).tail

def tokens (traffic : Traffic) : List CodeId := traffic.sent.map Message.code

/-- A call that is not interrupted between its two steps is what a flush or a shutdown of the reader
does. -/
theorem run_alone {pipeline : Pipeline} {id exporter : Nat} {reader : Reader} {worker : Worker}
    (found : pipeline.readers[id]? = some reader) (kind : reader.kind = .periodic exporter worker)
    (call : ReaderCall) :
    let answer := match call with
      | .flush => pipeline.flushReader id
      | .shutdown => pipeline.shutdownReader id
    (begin pipeline [call]).run id [.advance 0, .advance 0] =
      { pipeline := answer.1
        calls := [(call, .returned answer.2)]
        sent := if reader.isShutdown || worker.hasEnded then [] else [call.message answer.2] } := by
  have periodic : pipeline.periodic? id = some (reader, exporter, worker) := by
    simp only [Pipeline.periodic?, found, kind]
  have inside := (List.getElem?_eq_some_iff.mp found).1
  cases shut : reader.isShutdown with
  | true =>
    cases call <;> simp [begin, run, step, advance, enter, setStage, periodic, shut,
      Pipeline.flushReader, Pipeline.shutdownReader, Pipeline.admitsFlush, found, kind]
  | false =>
    cases call with
    | flush =>
      simp [begin, run, step, advance, enter, send, setStage, periodic, shut,
        Pipeline.flushReader, Pipeline.admitsFlush, Pipeline.sendCall, found, kind]
    | shutdown =>
      have flagged : (pipeline.setReader id { reader with isShutdown := true }).periodic? id =
          some ({ reader with isShutdown := true }, exporter, worker) := by
        simp [Pipeline.periodic?, Pipeline.setReader, inside, kind]
      rw [kind] at flagged
      simp [begin, run, step, advance, enter, send, setStage, periodic, shut, flagged,
        Pipeline.shutdownReader, Pipeline.sendCall, found, kind]

/-- A call that finds the thread running puts its message behind those in the mailbox. -/
theorem send_alive_eq (traffic : Traffic) (id index : Nat) (call : ReaderCall) (reader : Reader)
    (exporter : Nat) {worker : Worker} (alive : worker.hasEnded = false) :
    let token := traffic.pipeline.codes.cells.length
    let message := call.message token
    traffic.send id index call reader exporter worker =
      { pipeline := (traffic.pipeline.newCode .pending).1.setReader id
          (reader.setWorker { worker with mailbox := worker.mailbox ++ [message] })
        calls := traffic.calls.set index (call, .returned token)
        sent := traffic.sent ++ [message]
        given := traffic.given } := by
  cases call with
  | flush =>
    simp [send, setStage, alive, Pipeline.sendCall, Pipeline.sendFlush, Pipeline.newCode,
      Codes.create, Codes.push, Worker.send?, ReaderCall.message]
  | shutdown =>
    simp [send, setStage, alive, Pipeline.sendCall, Pipeline.sendShutdown, Pipeline.newCode,
      Codes.create, Codes.push, Worker.send?, ReaderCall.message]

/-- A shutdown that has set the flag and not sent its message yet. -/
def isClosing : ReaderCall × ReaderStage → Bool
  | (.shutdown, .admitted) => true
  | _ => false

/-- How many shutdowns have been let through. -/
def shutdowns (traffic : Traffic) : Nat :=
  traffic.sent.countP Message.isShutdown + traffic.calls.countP isClosing

/-- The messages sent so far: those taken have been answered, and nothing concerns the codes of the
others. Behind a message to shut down none is taken any more. -/
structure Queue (codes : Codes) (given : List CodeId) (sent : List Message) (worker : Worker)
    (taken left : List Message) : Prop where
  whole : sent = taken ++ left
  answered : ∀ message ∈ taken, codes.Answered given (sent.map Message.code) message.code
  waiting : ∀ message ∈ left, codes.Untouched [] message.code
  alive : worker.hasEnded = false →
    left = worker.messages ∧ ∀ message ∈ taken, message.isShutdown = false
  ended : worker.hasEnded = true →
    ∃ before last, taken = before ++ [last] ∧ last.isShutdown = true

/-- A periodic reader whose exporter returns from every call, with calls on it under way. -/
structure Served (id exporter : Nat) (reader : Reader) (worker : Worker) (traffic : Traffic) :
    Prop where
  found : traffic.pipeline.readers[id]? = some reader
  kind : reader.kind = .periodic exporter worker
  held : reader.handles ≠ 0
  calm : ∃ target, traffic.pipeline.exporters[exporter]? = some target ∧ target.Calm
  closed : traffic.pipeline.codes.Closed
  once : traffic.shutdowns = if reader.isShutdown then 1 else 0
  distinct : traffic.tokens.Nodup
  known : ∀ code ∈ traffic.given ++ traffic.tokens, code < traffic.pipeline.codes.cells.length
  apart : ∀ code ∈ traffic.given, code ∉ traffic.tokens
  queue : ∃ taken left, Queue traffic.pipeline.codes traffic.given traffic.sent worker taken left
  returned : ∀ call code, (call, .returned code) ∈ traffic.calls →
    code < traffic.pipeline.codes.cells.length ∧
      (traffic.pipeline.codes.outcome code ≠ .pending ∨ code ∈ traffic.tokens)

section Queue

variable {codes after : Codes} {given : List CodeId} {sent : List Message} {worker : Worker}
  {taken left : List Message} {target : CodeId}
  (queue : Queue codes given sent worker taken left)
  (known : ∀ code ∈ given ++ sent.map Message.code, code < codes.cells.length)

include queue

theorem Queue.mem_tokens {message : Message} (member : message ∈ taken ++ left) :
    message.code ∈ sent.map Message.code :=
  List.mem_map_of_mem (queue.whole ▸ member)

include known

theorem Queue.within {message : Message} (member : message ∈ taken ++ left) :
    message.code < codes.cells.length :=
  known _ (List.mem_append_right _ (queue.mem_tokens member))

theorem Queue.evolve {laterGiven : List CodeId} (evolves : codes.Evolves after target)
    (aimed : target ∈ given ∨ codes.cells.length ≤ target)
    (apart : ∀ code ∈ given, code ∉ sent.map Message.code) (more : given ⊆ laterGiven)
    (fresh : ∀ code ∈ laterGiven, code ∈ given ∨ codes.cells.length ≤ code) :
    Queue after laterGiven sent worker taken left := by
  constructor
  case whole => exact queue.whole
  case answered =>
    intro message member
    refine (queue.answered message member).evolve evolves
      (queue.within known (List.mem_append_left _ member))
      (aimed.imp_left (List.mem_append_left _)) more fun code listed => ?_
    rcases List.mem_append.mp listed with given | token
    · exact (fresh code given).imp_left (List.mem_append_left _)
    · exact .inl (List.mem_append_right _ token)
  case waiting =>
    intro message member
    refine evolves.untouched _ ?_ (queue.waiting message member)
    rintro rfl
    have listed := List.mem_append_right taken member
    rcases aimed with given | beyond
    · exact apart _ given (queue.mem_tokens listed)
    · exact Nat.not_le_of_lt (queue.within known listed) beyond
  case alive => exact queue.alive
  case ended => exact queue.ended

omit known in
/-- The thread has gone on without taking a message. -/
theorem Queue.goOn {later : Worker} (messages : later.messages = worker.messages)
    (ended : later.hasEnded = worker.hasEnded) : Queue codes given sent later taken left :=
  { queue with
    alive := fun alive => messages ▸ queue.alive (ended ▸ alive)
    ended := fun finished => queue.ended (ended ▸ finished) }

/-- The thread has answered the first message that was left. -/
theorem Queue.answer {message : Message} {rest : List Message} {later : Worker}
    (closed : codes.Closed) (distinct : (sent.map Message.code).Nodup)
    (alive : worker.hasEnded = false) (next : worker.messages = message :: rest)
    (messages : later.messages = if message.isShutdown then [] else rest)
    (ended : later.hasEnded = message.isShutdown) (exported : Except Failure Unit)
    (outcome : Outcome) :
    Queue (codes.answer message.code exported outcome)
      (given ++ (codes.answer message.code exported outcome).newcomers codes.cells.length) sent
      later (taken ++ [message]) rest := by
  obtain ⟨same, unclosed⟩ := queue.alive alive
  rw [next] at same
  have here : message ∈ taken ++ left := List.mem_append_right _ (same ▸ List.mem_cons_self)
  have evolves := Codes.Evolves.answer closed (queue.within known here) exported outcome
  constructor
  case whole => rw [queue.whole, same, List.append_assoc, List.singleton_append]
  case answered =>
    intro other member
    rcases List.mem_append.mp member with old | new
    · refine (queue.answered other old).evolve evolves
        (queue.within known (List.mem_append_left _ old))
        (.inl (List.mem_append_right _ (queue.mem_tokens here)))
        (List.subset_append_left _ _) fun code listed => ?_
      rw [List.append_assoc, List.mem_append, List.mem_append] at listed
      rcases listed with given | new | token
      · exact .inl (List.mem_append_left _ given)
      · exact .inr (Codes.mem_newcomers.mp new).2.1
      · exact .inl (List.mem_append_right _ token)
    · cases List.mem_singleton.mp new
      exact .answer closed (queue.within known here) known exported outcome
  case waiting =>
    intro other member
    refine evolves.untouched _ ?_ (queue.waiting other (same ▸ List.mem_cons_of_mem _ member))
    rw [queue.whole, same, List.map_append, List.map_cons] at distinct
    have single := (List.nodup_cons.mp (List.nodup_append.mp distinct).2.1).1
    exact fun alike => single (alike ▸ List.mem_map_of_mem member)
  case alive =>
    intro goesOn
    have flush : message.isShutdown = false := ended ▸ goesOn
    rw [flush] at messages
    refine ⟨messages.symm, fun other member => ?_⟩
    rcases List.mem_append.mp member with old | new
    · exact unclosed other old
    · exact List.mem_singleton.mp new ▸ flush
  case ended => exact fun finished => ⟨taken, message, rfl, ended ▸ finished⟩

/-- A message is sent behind those that are left. -/
theorem Queue.post {later : Worker} {message : Message} (closed : codes.Closed)
    (token : message.code = codes.cells.length) (alive : worker.hasEnded = false)
    (posted : worker.send? message = some later) :
    Queue (codes.create .pending).1 given (sent ++ [message]) later taken (left ++ [message]) := by
  have evolves := Codes.Evolves.create closed .pending codes.cells.length
  have still : later.hasEnded = false := by
    rw [Worker.send?, if_neg (Bool.eq_false_iff.mp alive)] at posted
    cases posted
    exact alive
  constructor
  case whole => rw [queue.whole, List.append_assoc]
  case answered =>
    intro other member
    refine (queue.answered other member).evolve evolves
      (queue.within known (List.mem_append_left _ member)) (.inr (Nat.le_refl _))
      (List.Subset.refl _) fun code listed => ?_
    rw [List.map_append, ← List.append_assoc] at listed
    refine (List.mem_append.mp listed).imp_right fun new => ?_
    obtain ⟨other, here, rfl⟩ := List.mem_map.mp new
    exact Nat.le_of_eq (List.mem_singleton.mp here ▸ token).symm
  case waiting =>
    intro other member
    rcases List.mem_append.mp member with old | new
    · exact (queue.waiting other old).push rfl rfl rfl
    · rw [List.mem_singleton.mp new, token]
      exact closed.untouched_create
  case alive =>
    intro _
    obtain ⟨same, unclosed⟩ := queue.alive alive
    exact ⟨by rw [Worker.messages_send posted, same], unclosed⟩
  case ended => exact fun finished => absurd finished (Bool.eq_false_iff.mp still)

end Queue

theorem countP_set {α : Type} {items : List α} {index : Nat} {old : α}
    (found : items[index]? = some old) (counts : α → Bool) (new : α) :
    (items.set index new).countP counts + (if counts old then 1 else 0) =
      items.countP counts + if counts new then 1 else 0 := by
  obtain ⟨inside, rfl⟩ := List.getElem?_eq_some_iff.mp found
  have some : (if counts items[index] then 1 else 0) ≤ items.countP counts := by
    split
    next here => exact List.countP_pos_iff.mpr ⟨_, List.getElem_mem inside, here⟩
    next => exact Nat.zero_le _
  rw [List.countP_set inside]
  omega

namespace Served

variable {id exporter : Nat} {reader : Reader} {worker : Worker} {traffic : Traffic}
  (served : Served id exporter reader worker traffic)

include served

/-- Readers and calls stay as they are while something else goes on. -/
theorem goOn {after : Pipeline} {target : CodeId}
    (evolves : traffic.pipeline.codes.Evolves after.codes target)
    (aimed : target ∈ traffic.given ∨ traffic.pipeline.codes.cells.length ≤ target)
    (readers : after.readers = traffic.pipeline.readers)
    (exporters : after.exporters = traffic.pipeline.exporters) :
    Served id exporter reader worker { traffic with pipeline := after } := by
  obtain ⟨taken, left, queue⟩ := served.queue
  constructor
  case found => exact readers ▸ served.found
  case kind => exact served.kind
  case held => exact served.held
  case calm => exact exporters ▸ served.calm
  case closed => exact evolves.closed
  case once => exact served.once
  case distinct => exact served.distinct
  case known =>
    exact fun code member => Nat.lt_of_lt_of_le (served.known code member) evolves.longer
  case apart => exact served.apart
  case queue =>
    exact ⟨taken, left, queue.evolve served.known evolves aimed served.apart
      (List.Subset.refl _) fun _ => .inl⟩
  case returned =>
    intro call code member
    obtain ⟨inside, state⟩ := served.returned call code member
    exact ⟨Nat.lt_of_lt_of_le inside evolves.longer, state.imp_left (evolves.done code inside)⟩

/-- A call goes on that is no shutdown let through. -/
theorem setStage {index : Nat} {call : ReaderCall} {old stage : ReaderStage}
    (found : traffic.calls[index]? = some (call, old)) (before : isClosing (call, old) = false)
    (after : isClosing (call, stage) = false)
    (returned : ∀ code, stage = .returned code → code < traffic.pipeline.codes.cells.length ∧
      traffic.pipeline.codes.outcome code ≠ .pending) :
    Served id exporter reader worker (traffic.setStage index call stage) :=
  { served with
    once := by
      have counted := countP_set found isClosing (call, stage)
      simp only [before, after, Bool.false_eq_true, if_false, Nat.add_zero] at counted
      rw [shutdowns, Traffic.setStage, counted]
      exact served.once
    returned := fun other code member => by
      rcases List.mem_or_eq_of_mem_set member with old | new
      · exact served.returned other code old
      · cases new
        exact (returned code rfl).imp_right .inl }

/-- A shutdown sets the flag. -/
theorem flag {index : Nat} (found : traffic.calls[index]? = some (.shutdown, .fresh))
    (running : reader.isShutdown = false) :
    Served id exporter { reader with isShutdown := true } worker
      ({ traffic with pipeline :=
          traffic.pipeline.setReader id { reader with isShutdown := true } }.setStage index
            .shutdown .admitted) :=
  { served with
    found := List.getElem?_set_self (List.getElem?_eq_some_iff.mp served.found).1
    once := by
      have counted := countP_set found isClosing (.shutdown, .admitted)
      have none := served.once
      rw [shutdowns, running] at none
      simp only [isClosing, Bool.false_eq_true, if_false, Nat.add_zero, if_true] at counted none
      rw [shutdowns, Traffic.setStage, counted, if_pos rfl, ← Nat.add_assoc]
      exact congrArg (· + 1) none
    returned := fun other code member => by
      rcases List.mem_or_eq_of_mem_set member with old | new
      · exact served.returned other code old
      · cases new }

theorem enter {index : Nat} {call : ReaderCall}
    (found : traffic.calls[index]? = some (call, .fresh)) :
    ∃ later, Served id exporter later worker (traffic.enter id index call reader) := by
  unfold Traffic.enter
  split
  next =>
    have evolves := Codes.Evolves.create served.closed (.failed (some .alreadyShutdown))
      traffic.pipeline.codes.cells.length
    have went : Served id exporter reader worker { traffic with
        pipeline := (traffic.pipeline.newCode (.failed (some .alreadyShutdown))).1 } :=
      served.goOn evolves (.inr (Nat.le_refl _)) rfl rfl
    have idle : isClosing (call, .fresh) = false := by cases call <;> rfl
    refine ⟨reader, went.setStage found idle (by cases call <;> rfl) ?_⟩
    rintro code ⟨⟩
    refine ⟨traffic.pipeline.codes.length_create _ ▸ Nat.lt_succ_self _, fun pending => ?_⟩
    cases (traffic.pipeline.codes.outcome_create _).symm.trans pending
  next running =>
    cases call with
    | flush => exact ⟨reader, served.setStage found rfl rfl nofun⟩
    | shutdown => exact ⟨_, served.flag found (Bool.eq_false_iff.mpr running)⟩

/-- A call that finds the thread running sends its message. -/
theorem send_alive {index : Nat} {call : ReaderCall}
    (found : traffic.calls[index]? = some (call, .admitted)) (alive : worker.hasEnded = false) :
    ∃ later final, Served id exporter later final
      (traffic.send id index call reader exporter worker) := by
  let token := traffic.pipeline.codes.cells.length
  let message := call.message token
  let final := { worker with mailbox := worker.mailbox ++ [message] }
  have posted : worker.send? message = some final :=
    if_neg (Bool.eq_false_iff.mp alive)
  obtain ⟨taken, left, queue⟩ := served.queue
  have named : message.code = token := call.code_message token
  have tokens : (traffic.sent ++ [message]).map Message.code = traffic.tokens ++ [token] := by
    rw [List.map_append, List.map_singleton, named, Traffic.tokens]
  have unsent : token ∉ traffic.given ++ traffic.tokens := fun member =>
    Nat.lt_irrefl _ (served.known token member)
  have longer : (traffic.pipeline.codes.create .pending).1.cells.length = token + 1 :=
    traffic.pipeline.codes.length_create .pending
  have same := Reader.setWorker_eq served.kind final
  refine ⟨reader.setWorker final, final, ?_⟩
  rw [traffic.send_alive_eq id index call reader exporter alive]
  constructor
  case found => exact List.getElem?_set_self (List.getElem?_eq_some_iff.mp served.found).1
  case kind => exact same ▸ rfl
  case held => exact same ▸ served.held
  case calm => exact served.calm
  case closed => exact served.closed.create .pending
  case once =>
    have counted := countP_set found isClosing (call, .returned token)
    have closing : isClosing (call, .admitted) = message.isShutdown := by cases call <;> rfl
    have returned : isClosing (call, .returned token) = false := by cases call <;> rfl
    have once := served.once
    rw [closing, returned, if_neg Bool.false_ne_true] at counted
    rw [shutdowns] at once
    rw [same]
    show (traffic.sent ++ [message]).countP Message.isShutdown +
      (traffic.calls.set index (call, .returned token)).countP isClosing =
        if reader.isShutdown then 1 else 0
    rw [List.countP_append, List.countP_singleton]
    omega
  case distinct =>
    rw [Traffic.tokens, tokens, List.nodup_append]
    refine ⟨served.distinct, by simp, ?_⟩
    rintro code old _ new rfl
    exact unsent (List.mem_append_right _ (List.mem_singleton.mp new ▸ old))
  case known =>
    intro code member
    rw [Traffic.tokens, tokens, ← List.append_assoc] at member
    refine Nat.lt_of_lt_of_eq ?_ longer.symm
    rcases List.mem_append.mp member with old | new
    · exact Nat.lt_succ_of_lt (served.known code old)
    · exact List.mem_singleton.mp new ▸ Nat.lt_succ_self _
  case apart =>
    intro code given member
    rw [Traffic.tokens, tokens] at member
    rcases List.mem_append.mp member with old | new
    · exact served.apart code given old
    · exact unsent (List.mem_append_left _ (List.mem_singleton.mp new ▸ given))
  case queue =>
    exact ⟨taken, left ++ [message], queue.post served.known served.closed named alive posted⟩
  case returned =>
    intro other code member
    rw [Traffic.tokens, tokens]
    rcases List.mem_or_eq_of_mem_set member with old | new
    · obtain ⟨inside, state⟩ := served.returned other code old
      have kept : (traffic.pipeline.codes.create .pending).1.outcome code =
          traffic.pipeline.codes.outcome code := Codes.outcome_push rfl inside
      exact ⟨Nat.lt_of_lt_of_eq (Nat.lt_succ_of_lt inside) longer.symm,
        state.imp (fun done => kept ▸ done) (List.mem_append_left _)⟩
    · cases new
      exact ⟨Nat.lt_of_lt_of_eq (Nat.lt_succ_self _) longer.symm,
        .inr (List.mem_append_right _ (List.mem_singleton.mpr rfl))⟩

/-- A flush that finds the thread ended fails. There is no shutdown left to find it so. -/
theorem send_ended {index : Nat} {call : ReaderCall}
    (found : traffic.calls[index]? = some (call, .admitted)) (ended : worker.hasEnded = true) :
    Served id exporter reader worker (traffic.send id index call reader exporter worker) := by
  obtain ⟨taken, left, queue⟩ := served.queue
  cases call with
  | flush =>
    let token := traffic.pipeline.codes.cells.length
    have inside : token < (traffic.pipeline.codes.create .pending).1.cells.length :=
      traffic.pipeline.codes.length_create _ ▸ Nat.lt_succ_self _
    have failed : Outcome.failed (some Pipeline.noThread) ≠ .pending := nofun
    let after := ((traffic.pipeline.newCode .pending).1.note [.flushWithoutThread]).complete token
      (.failed (some Pipeline.noThread))
    have sends : traffic.send id index .flush reader exporter worker =
        { traffic with pipeline := after }.setStage index .flush (.returned token) := by
      simp [Traffic.send, Pipeline.sendCall, Pipeline.sendFlush, Pipeline.newCode, Codes.create,
        Codes.push, Worker.send?, ended, token, after]
    have begins := Codes.Evolves.create served.closed .pending token
    have evolves := begins.trans (.settle begins.closed inside (.failed (some Pipeline.noThread)))
    have went : Served id exporter reader worker { traffic with pipeline := after } :=
      served.goOn evolves (.inr (Nat.le_refl _)) rfl rfl
    rw [sends]
    refine went.setStage found rfl rfl ?_
    rintro code ⟨⟩
    exact ⟨Nat.lt_of_lt_of_le inside (Codes.length_le_drain _ _),
      Codes.outcome_settle_ne inside failed⟩
  | shutdown =>
    -- The thread ended by a message to shut down, so the flag would have let through two.
    obtain ⟨before, last, same, closing⟩ := queue.ended ended
    have sent : 0 < traffic.sent.countP Message.isShutdown :=
      List.countP_pos_iff.mpr ⟨last, by simp [queue.whole, same], closing⟩
    have open_ : 0 < traffic.calls.countP isClosing :=
      List.countP_pos_iff.mpr ⟨_, List.mem_of_getElem? found, rfl⟩
    have once := served.once
    rw [shutdowns] at once
    split at once <;> omega

/-- The thread has gone on to where its messages, its codes and its exporter are in order. -/
theorem labour {after : Pipeline} {later : Worker} {target : CodeId} {taken left : List Message}
    (evolves : traffic.pipeline.codes.Evolves after.codes target)
    (readers : after.readers = traffic.pipeline.readers.set id (reader.setWorker later))
    (calm : ∃ target, after.exporters[exporter]? = some target ∧ target.Calm)
    (queue : Queue after.codes
      (traffic.given ++ after.codes.newcomers traffic.pipeline.codes.cells.length) traffic.sent
        later taken left) :
    Served id exporter (reader.setWorker later) later { traffic with
      pipeline := after
      given := traffic.given ++
        after.codes.newcomers traffic.pipeline.codes.cells.length } := by
  have same := Reader.setWorker_eq served.kind later
  constructor
  case found =>
    rw [readers]
    exact List.getElem?_set_self (List.getElem?_eq_some_iff.mp served.found).1
  case kind => exact same ▸ rfl
  case held => exact same ▸ served.held
  case calm => exact calm
  case closed => exact evolves.closed
  case once => exact same ▸ served.once
  case distinct => exact served.distinct
  case known =>
    intro code member
    rw [List.append_assoc, List.mem_append, List.mem_append] at member
    rcases member with given | new | token
    · exact Nat.lt_of_lt_of_le (served.known code (List.mem_append_left _ given)) evolves.longer
    · exact (Codes.mem_newcomers.mp new).1
    · exact Nat.lt_of_lt_of_le (served.known code (List.mem_append_right _ token)) evolves.longer
  case apart =>
    intro code member token
    rcases List.mem_append.mp member with given | new
    · exact served.apart code given token
    · exact Nat.not_lt_of_le (Codes.mem_newcomers.mp new).2.1
        (served.known code (List.mem_append_right _ token))
  case queue => exact ⟨taken, left, queue⟩
  case returned =>
    intro call code member
    obtain ⟨inside, state⟩ := served.returned call code member
    exact ⟨Nat.lt_of_lt_of_le inside evolves.longer, state.imp_left (evolves.done code inside)⟩

theorem stepWorker :
    ∃ later final, Served id exporter later final { traffic with
      pipeline := traffic.pipeline.stepWorker id
      given := traffic.given ++ (traffic.pipeline.stepWorker id).codes.newcomers
        traffic.pipeline.codes.cells.length } := by
  obtain ⟨taken, left, queue⟩ := served.queue
  obtain ⟨target, present, quiet⟩ := served.calm
  obtain ⟨changed, there, still⟩ :=
    (traffic.pipeline.kept_stepWorker id).exporters exporter target present
  have calm : ∃ target, (traffic.pipeline.stepWorker id).exporters[exporter]? = some target ∧
      target.Calm := ⟨changed, there, still quiet⟩
  cases Pipeline.stepWorker_stride served.found served.kind with
  | kept later messages ended news readers =>
    have evolves : traffic.pipeline.codes.Evolves (traffic.pipeline.stepWorker id).codes
        traffic.pipeline.codes.cells.length := by
      rcases news with same | ⟨outcome, new⟩
      · exact same ▸ .refl served.closed _
      · exact new ▸ .create served.closed outcome _
    refine ⟨_, later, served.labour evolves readers calm ((queue.goOn messages ended).evolve
      served.known evolves (.inr (Nat.le_refl _)) served.apart (List.subset_append_left _ _)
      fun code member => ?_)⟩
    exact (List.mem_append.mp member).imp_right fun new => (Codes.mem_newcomers.mp new).2.1
  | answered message rest next alive exported outcome later messages ended news readers =>
    have here : message ∈ taken ++ left :=
      List.mem_append_right _ ((queue.alive alive).1 ▸ next ▸ List.mem_cons_self)
    have evolves := Codes.Evolves.answer served.closed (queue.within served.known here) exported
      outcome
    have answers := queue.answer served.known served.closed served.distinct alive next messages
      ended exported outcome
    rw [← news] at evolves answers
    exact ⟨_, later, served.labour evolves readers calm answers⟩
  | quit unheld =>
    rcases unheld with none | ⟨other, same, wild⟩
    · exact absurd none served.held
    · cases present.symm.trans same
      exact absurd quiet wild

theorem work : ∃ later final, Served id exporter later final (traffic.work id) := by
  unfold Traffic.work
  split
  next => exact ⟨reader, worker, served⟩
  next =>
    split
    next => exact ⟨reader, worker, served⟩
    next => exact served.stepWorker

theorem periodic? : traffic.pipeline.periodic? id = some (reader, exporter, worker) := by
  simp only [Pipeline.periodic?, served.found, served.kind]

theorem advance (index : Nat) :
    ∃ later final, Served id exporter later final (traffic.advance id index) := by
  unfold Traffic.advance
  rw [served.periodic?]
  split
  next same found =>
    cases same
    obtain ⟨later, entered⟩ := served.enter found
    exact ⟨later, worker, entered⟩
  next same found =>
    cases same
    cases alive : worker.hasEnded with
    | false => exact served.send_alive found alive
    | true => exact ⟨reader, worker, served.send_ended found alive⟩
  next => exact ⟨reader, worker, served⟩

theorem step (event : TrafficEvent) :
    ∃ later final, Served id exporter later final (traffic.step id event) := by
  have unchanged : ∀ target, traffic.pipeline.codes.Evolves traffic.pipeline.codes target :=
    .refl served.closed
  cases event with
  | advance call => exact served.advance call
  | work => exact served.work
  | pass nanos =>
    exact ⟨reader, worker, served.goOn (unchanged _) (.inr (Nat.le_refl _)) rfl rfl⟩
  | complete code outcome =>
    unfold Traffic.step
    dsimp only
    split
    next given =>
      have inside := served.known code (List.mem_append_left _ given)
      exact ⟨reader, worker,
        served.goOn (.settle served.closed inside outcome) (.inl given) rfl rfl⟩
    next => exact ⟨reader, worker, served⟩
  | change providers =>
    exact ⟨reader, worker, served.goOn (unchanged _) (.inr (Nat.le_refl _)) rfl rfl⟩

theorem run (events : List TrafficEvent) :
    ∃ later final, Served id exporter later final (traffic.run id events) := by
  induction events generalizing traffic reader worker with
  | nil => exact ⟨reader, worker, served⟩
  | cons event rest ih =>
    obtain ⟨later, final, next⟩ := served.step event
    exact ih next

/-- Once the thread has stopped, the messages sent behind the one to shut down are left, and these
are flushes. -/
theorem behindShutdown_of_ended {taken left : List Message}
    (queue : Queue traffic.pipeline.codes traffic.given traffic.sent worker taken left)
    (ended : worker.hasEnded = true) :
    traffic.behindShutdown = left ∧ ∀ message ∈ left, message.isShutdown = false := by
  obtain ⟨before, last, same, closing⟩ := queue.ended ended
  have once := served.once
  have split : traffic.sent.countP Message.isShutdown =
      before.countP Message.isShutdown + 1 + left.countP Message.isShutdown := by
    rw [queue.whole, same, List.countP_append, List.countP_append, List.countP_singleton, closing,
      if_pos rfl]
  have none : before.countP Message.isShutdown = 0 ∧ left.countP Message.isShutdown = 0 := by
    rw [shutdowns] at once
    split at once <;> omega
  have open_ : ∀ message ∈ before, (!message.isShutdown) = true := fun message member => by
    simpa using List.countP_eq_zero.mp none.1 message member
  refine ⟨?_, fun message member => by simpa using List.countP_eq_zero.mp none.2 message member⟩
  rw [behindShutdown, queue.whole, same, List.append_assoc, List.singleton_append,
    List.dropWhile_append_of_pos open_, List.dropWhile_cons_of_neg (by simp [closing]),
    List.tail_cons]

end Served

theorem Served.begin {pipeline : Pipeline} {id exporter : Nat} {reader : Reader} {worker : Worker}
    {target : Exporter} (closed : pipeline.codes.Closed)
    (found : pipeline.periodic? id = some (reader, exporter, worker))
    (idle : worker.messages = []) (alive : worker.hasEnded = false)
    (running : reader.isShutdown = false) (held : reader.handles ≠ 0)
    (present : pipeline.exporters[exporter]? = some target) (calm : target.Calm)
    (calls : List ReaderCall) :
    Served id exporter reader worker (Traffic.begin pipeline calls) := by
  have fresh : ∀ entry ∈ (Traffic.begin pipeline calls).calls, entry.2 = .fresh := by
    intro entry member
    obtain ⟨call, _, rfl⟩ := List.mem_map.mp member
    rfl
  have parts := Pipeline.of_periodic? found
  constructor
  case found => exact parts.1
  case kind => exact parts.2
  case held => exact held
  case calm => exact ⟨target, present, calm⟩
  case closed => exact closed
  case once =>
    have none : (Traffic.begin pipeline calls).calls.countP isClosing = 0 := by
      refine List.countP_eq_zero.mpr fun entry member => ?_
      have stage := fresh entry member
      obtain ⟨call, stage⟩ := entry
      cases stage
      cases call <;> exact Bool.false_ne_true
    rw [shutdowns, none, running]
    rfl
  case distinct => exact List.nodup_nil
  case known => exact nofun
  case apart => exact nofun
  case queue =>
    refine ⟨[], [], rfl, nofun, nofun, fun _ => ⟨idle.symm, nofun⟩, fun finished => ?_⟩
    rw [alive] at finished
    cases finished
  case returned =>
    intro call code member
    cases fresh _ member

/-- Calls to flush and to shut down a periodic reader take turns with its export thread. Once the
thread has stopped and the codes of the exporter are done, the codes that calls have returned are
done but those of flushes sent behind the message to shut down, which stay pending. -/
theorem pending_after_stop_iff (pipeline : Pipeline) (id exporter : Nat) (reader : Reader)
    (worker : Worker) (target : Exporter) (calls : List ReaderCall) (events : List TrafficEvent)
    (closed : pipeline.codes.Closed)
    (found : pipeline.periodic? id = some (reader, exporter, worker))
    (idle : worker.messages = []) (alive : worker.hasEnded = false)
    (running : reader.isShutdown = false) (held : reader.handles ≠ 0)
    (present : pipeline.exporters[exporter]? = some target) (calm : target.Calm) :
    let traffic := (Traffic.begin pipeline calls).run id events
    traffic.hasStopped id = true →
      (∀ code ∈ traffic.given, traffic.pipeline.codes.outcome code ≠ .pending) →
      ∀ call code, (call, .returned code) ∈ traffic.calls →
        (traffic.pipeline.codes.outcome code = .pending ↔
          .flush code ∈ traffic.behindShutdown) := by
  intro traffic stopped all call code member
  obtain ⟨later, final, served⟩ :=
    (Served.begin closed found idle alive running held present calm calls).run events
  have ended : final.hasEnded = true := by
    rw [hasStopped, served.periodic?] at stopped
    exact stopped
  obtain ⟨taken, left, queue⟩ := served.queue
  obtain ⟨behind, flushes⟩ := served.behindShutdown_of_ended queue ended
  rw [behind]
  constructor
  · intro pending
    have token := (served.returned call code member).2.resolve_left (not_not_intro pending)
    obtain ⟨message, sent, rfl⟩ := List.mem_map.mp token
    rcases List.mem_append.mp (queue.whole ▸ sent) with handled | lost
    · exact absurd pending ((queue.answered message handled).outcome_ne all)
    -- The token may also be that of a shutdown, but none is left behind the first one.
    · have flush := flushes message lost
      cases message with
      | flush code => exact lost
      | shutdown code => cases flush
  · exact fun lost => (queue.waiting _ lost).pending

/-- The first of two flushes sends before the message to shut down, the second one behind it. -/
theorem pending_after_stop_iff_both :
    let pipeline := ((((Pipeline.start 0).addExporter { kind := .memory }).1.addPeriodic 0
      (.ofSettings none none)).1.build {} [(0, false)]).1
    let events : List TrafficEvent :=
      [.advance 0, .advance 1, .advance 2, .advance 0, .advance 2, .advance 1, .work, .work]
    let traffic := (Traffic.begin pipeline [.flush, .flush, .shutdown]).run 0 events
    traffic.hasStopped 0 = true ∧ traffic.given = [] ∧ traffic.behindShutdown = [.flush 2] ∧
      traffic.calls = [(.flush, .returned 0), (.flush, .returned 2), (.shutdown, .returned 1)] ∧
      ∀ call code, (call, .returned code) ∈ traffic.calls →
        (traffic.pipeline.codes.outcome code = .pending ↔
          .flush code ∈ traffic.behindShutdown) := by
  intro pipeline events traffic
  let worker : Worker := .create (.ofSettings none none) 0
  let reader : Reader := { kind := .periodic 0 worker, handles := 2, lease := some ⟨0, 0⟩ }
  have closed : pipeline.codes.Closed := Codes.closed_empty
  have found : pipeline.periodic? 0 = some (reader, 0, worker) := rfl
  have stopped : traffic.hasStopped 0 = true := by decide +kernel
  have given : traffic.given = [] := List.isEmpty_iff.mp (by decide +kernel)
  have same : (Traffic.begin pipeline [.flush, .flush, .shutdown]).run 0 events = traffic := rfl
  have exactly := pending_after_stop_iff pipeline 0 0 reader worker { kind := .memory }
    [.flush, .flush, .shutdown] events closed found rfl rfl rfl (by decide) rfl trivial
  dsimp only at exactly
  rw [same] at exactly
  exact ⟨stopped, given, by decide +kernel, by decide +kernel,
    exactly stopped (given ▸ List.forall_mem_nil _)⟩

/-- A flush finds the flag unset, a shutdown sets it and sends its message, and the flush sends
behind that. The thread stops, and the code of the flush stays pending. -/
theorem flush_left_pending :
    let pipeline := ((((Pipeline.start 0).addExporter { kind := .memory }).1.addPeriodic 0
      (.ofSettings none none)).1.build {} [(0, false)]).1
    let traffic := (Traffic.begin pipeline [.flush, .shutdown]).run 0
      [.advance 0, .advance 1, .advance 1, .advance 0, .work]
    traffic.hasStopped 0 = true ∧ traffic.given = [] ∧
      traffic.calls = [(.flush, .returned 1), (.shutdown, .returned 0)] ∧
      traffic.pipeline.codes.outcome 1 = .pending := by
  decide +kernel

end Traffic

end Metering
