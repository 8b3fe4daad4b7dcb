import Metering.Proofs.Pipeline.Mailbox
import Metering.Proofs.Pipeline.Moves
import Metering.Proofs.Pipeline.Replies

/-!
How an export thread sees to one message. It collects for it, waits for the export if there is
something to export, calls the exporter's flush or shutdown, and answers the message with both
results; nothing else completes the code of the message. What the thread finds out on the way is
kept in the order in which it comes about.
-/

namespace Metering

open Completion

/-- The failure of an export whose code stood like that when the thread stopped waiting for it. -/
def Outcome.fault? (limit : Span) : Outcome → Option Failure
  | .pending => some (.timeout limit)
  | .succeeded => none
  | .failed reason => some (reason.getD .unexplained)

theorem Outcome.result_getD (limit : Span) (outcome : Outcome) :
    (outcome.result?).getD (.error (.timeout limit)) =
      match outcome.fault? limit with
      | none => .ok ()
      | some failure => .error failure := by
  cases outcome with
  | failed reason => cases reason <;> rfl
  | _ => rfl

/-- How the code stands that an exporter has answered with, if it answers at once. -/
def Response.told? : Response → Option Outcome
  | .code told => some told
  | _ => none

/-- What one reader has been asked for: the reader with the code that it has answered. -/
structure Errand where
  reader : Nat
  token : CodeId
  deriving DecidableEq

/-- What a thread finds out about an errand. -/
inductive Finding where
  /-- The collection has failed, or leaves a report to hand to the exporter, or nothing. -/
  | gathered (errand : Errand) (result : Except Failure (Option Report))
  /-- How the code of the export stands after the thread has waited for so long. -/
  | exported (errand : Errand) (outcome : Outcome) (waited : Nat)
  /-- The code that the exporter has answered a flush or shutdown call with, and how it stood. -/
  | closed (errand : Errand) (told : Outcome) (closing : CodeId)

def Finding.errand : Finding → Errand
  | .gathered errand _ => errand
  | .exported errand _ _ => errand
  | .closed errand _ _ => errand

namespace Worker

/-- The message that a thread is about when it goes on. -/
def current? (worker : Worker) (handles : Nat) : Option Message :=
  match worker.begins? handles with
  | some (job, _) => job.message?
  | none => worker.phase.job?.bind Job.message?

/-- The messages that a thread has not come to when it goes on. -/
def ahead (worker : Worker) (handles : Nat) : List Message :=
  match worker.begins? handles with
  | some (_, base) => base.mailbox
  | none => worker.mailbox

theorem messages_eq (worker : Worker) (handles : Nat) :
    worker.messages = (worker.current? handles).toList ++ worker.ahead handles := by
  cases begins : worker.begins? handles with
  | none => simp only [current?, ahead, begins, messages]
  | some begun =>
    obtain ⟨job, base⟩ := begun
    obtain ⟨phase, _, _, mailbox⟩ := Worker.begun begins
    simp only [current?, ahead, begins, messages, phase, Phase.job?, Option.bind_none,
      Option.toList_none, List.nil_append, mailbox]

end Worker

namespace Pipeline

/-- What a thread finds out about collecting and exporting for a message when it goes on. -/
def findings (pipeline : Pipeline) (errand : Errand) (reader : Reader) (worker : Worker) :
    List Finding :=
  match worker.begins? reader.handles, worker.phase with
  | some _, _ => [.gathered errand (pipeline.gather? reader.lease)]
  | none, .exporting _ began _ => [.exported errand .succeeded (pipeline.time - began)]
  | none, .awaiting _ began code _ =>
    [.exported errand (pipeline.codes.outcome code) (pipeline.time - began)]
  | none, _ => []

/-- Whether a thread goes on to call its exporter's flush or shutdown: nothing is left to export. -/
def isAsking (pipeline : Pipeline) (reader : Reader) (worker : Worker) : Bool :=
  match worker.begins? reader.handles, worker.phase with
  | some _, _ =>
    match pipeline.gather? reader.lease with
    | .ok (some _) => false
    | _ => true
  | none, .exporting _ _ _ => true
  | none, .awaiting _ _ _ _ => true
  | none, _ => false

/-- How the exporter's code for a message stands that a thread answers when it goes on. -/
def told? (pipeline : Pipeline) (reader : Reader) (exporter : Nat) (worker : Worker)
    (message : Message) : Option Outcome :=
  match worker.phase, pipeline.exporters[exporter]? with
  | .closing _ _ _, _ => some .succeeded
  | _, some target =>
    if pipeline.isAsking reader worker then (target.ask message).2.told? else none
  | _, none => none

/-- What a thread finds out when it goes on. The exporter's code comes behind that for the result of
the export. -/
def learns (pipeline : Pipeline) (id : Nat) : List Finding :=
  match pipeline.periodic? id with
  | none => []
  | some (reader, exporter, worker) =>
    match worker.current? reader.handles with
    | none => []
    | some message =>
      pipeline.findings ⟨id, message.code⟩ reader worker ++
        ((pipeline.told? reader exporter worker message).map fun told =>
          .closed ⟨id, message.code⟩ told (pipeline.codes.cells.length + 1)).toList

section Learns

variable {pipeline : Pipeline} {id : Nat} {reader : Reader} {exporter : Nat} {worker : Worker}
  (periodic : pipeline.periodic? id = some (reader, exporter, worker))

include periodic

/-- What a thread finds out is about the message that it is seeing to. -/
theorem errand_of_mem_learns {finding : Finding} (member : finding ∈ pipeline.learns id) :
    ∃ message, worker.current? reader.handles = some message ∧
      finding.errand = ⟨id, message.code⟩ := by
  simp only [learns, periodic] at member
  split at member
  next => cases member
  next message current =>
    refine ⟨message, current, ?_⟩
    rcases List.mem_append.mp member with early | late
    · unfold findings at early
      split at early
      next => exact List.mem_singleton.mp early ▸ rfl
      next => exact List.mem_singleton.mp early ▸ rfl
      next => exact List.mem_singleton.mp early ▸ rfl
      next => cases early
    · obtain ⟨told, _, rfl⟩ := Option.map_eq_some_iff.mp (Option.mem_toList.mp late)
      rfl

theorem filter_learns {message : Message} (current : worker.current? reader.handles = some message) :
    ((pipeline.learns id).filter fun finding => finding.errand = ⟨id, message.code⟩) =
      pipeline.learns id := by
  refine List.filter_eq_self.mpr fun finding member => ?_
  obtain ⟨_, is, same⟩ := errand_of_mem_learns periodic member
  cases current.symm.trans is
  exact decide_eq_true same

theorem filter_learns_of_ne {errand : Errand}
    (other : ∀ message, worker.current? reader.handles = some message →
      errand ≠ ⟨id, message.code⟩) :
    ((pipeline.learns id).filter fun finding => finding.errand = errand) = [] := by
  refine List.filter_eq_nil_iff.mpr fun finding member => ?_
  obtain ⟨message, current, is⟩ := errand_of_mem_learns periodic member
  rw [is, decide_eq_true_eq]
  exact Ne.symm (other message current)

end Learns

/-- The exporter's code for a message comes behind the one for the result of the export. -/
theorem closing_of_mem_learns {pipeline : Pipeline} {id : Nat} {errand : Errand} {told : Outcome}
    {closing : CodeId} (member : .closed errand told closing ∈ pipeline.learns id) :
    closing = pipeline.codes.cells.length + 1 := by
  unfold learns at member
  split at member
  next => cases member
  next reader exporter worker found =>
    split at member
    next => cases member
    next message current =>
      rcases List.mem_append.mp member with early | late
      · unfold findings at early
        split at early
        next => cases List.mem_singleton.mp early
        next => cases List.mem_singleton.mp early
        next => cases List.mem_singleton.mp early
        next => cases early
      · obtain ⟨_, _, same⟩ := Option.map_eq_some_iff.mp (Option.mem_toList.mp late)
        cases same
        rfl

section Abides

variable {codes final : Codes} (closed : codes.Closed) {base later : Worker} {job : Job}
  {exported : Except Failure Unit}
  (inside : ∀ message, job.message? = some message → message.code < codes.cells.length)

include closed inside

/-- The work at a job completes no code that is there but that of its message. -/
theorem Settles.abides {told : Outcome}
    (settles : Settles codes base job exported told final later) :
    ∃ aim, codes.Abides final aim ∧
      (codes.cells.length ≤ aim ∨ job.message?.map Message.code = some aim) := by
  cases settles with
  | rested _ _ same _ => exact ⟨_, same ▸ .refl closed _, .inl (Nat.le_refl _)⟩
  | flushed code schedule flush answers _ =>
    subst flush
    exact ⟨code, answers ▸ .answer closed (inside _ rfl) exported told, .inr rfl⟩
  | stopped code shutdown answers _ =>
    subst shutdown
    exact ⟨code, answers ▸ .answer closed (inside _ rfl) exported told, .inr rfl⟩

theorem Concludes.abides {time : Nat} {target changed : Exporter}
    (concludes : Concludes codes time base job exported target changed final later) :
    ∃ aim, codes.Abides final aim ∧
      (codes.cells.length ≤ aim ∨ job.message?.map Message.code = some aim) := by
  have unchanged : final = codes → ∃ aim, codes.Abides final aim ∧
      (codes.cells.length ≤ aim ∨ job.message?.map Message.code = some aim) :=
    fun same => ⟨_, same ▸ .refl closed _, .inl (Nat.le_refl _)⟩
  cases concludes with
  | rested _ _ _ same _ => exact unchanged same
  | asked message asks _ closes =>
    cases closes with
    | settled told _ settles => exact settles.abides closed inside
    | waits _ _ same _ => exact unchanged same
    | crashed _ same _ => exact unchanged same

omit inside

theorem Hands.abides {time : Nat} {response : Response}
    (hands : Hands codes time base job response final later) (aim : CodeId) :
    codes.Abides final aim := by
  cases hands with
  | awaits outcome _ given _ => exact given ▸ .create closed outcome aim
  | waits _ _ same _ => exact same ▸ .refl closed aim
  | crashed _ same _ => exact same ▸ .refl closed aim

end Abides

section Move

variable {before after : Pipeline} {reader : Reader} {worker later : Worker}
  {target changed : Exporter}

/-- A stretch of work completes no code that is there but that of the message it is about. -/
theorem Move.abides (move : before.Move reader worker target changed after later)
    (closed : before.codes.Closed)
    (inside : ∀ message ∈ worker.messages, message.code < before.codes.cells.length) :
    ∃ aim, before.codes.Abides after.codes aim ∧ (before.codes.cells.length ≤ aim ∨
      (worker.current? reader.handles).map Message.code = some aim) := by
  have unchanged : after.codes = before.codes → ∃ aim, before.codes.Abides after.codes aim ∧
      (before.codes.cells.length ≤ aim ∨
        (worker.current? reader.handles).map Message.code = some aim) :=
    fun same => ⟨_, same ▸ .refl closed _, .inl (Nat.le_refl _)⟩
  have current : ∀ message, worker.current? reader.handles = some message →
      message.code < before.codes.cells.length := fun message is =>
    inside message (by
      rw [worker.messages_eq reader.handles, is]
      exact List.mem_cons_self)
  cases move with
  | ended _ _ same _ _ => exact unchanged same
  | left _ _ _ _ same _ _ => exact unchanged same
  | handed job base begins report _ _ _ hands =>
    exact ⟨_, hands.abides closed before.codes.cells.length, .inl (Nat.le_refl _)⟩
  | skipped job base begins _ _ _ concludes =>
    have same : worker.current? reader.handles = job.message? := by
      simp only [Worker.current?, begins]
    exact same ▸ concludes.abides closed (same ▸ current)
  | exported job _ phase _ concludes =>
    have same : worker.current? reader.handles = job.message? := by
      rcases phase with ⟨_, _, phase, _⟩ | ⟨_, _, _, phase, _⟩ <;>
        simp [Worker.current?, Worker.begins?_eq_none, phase, Phase.job?]
    exact same ▸ concludes.abides closed (same ▸ current)
  | closed job _ _ phase _ _ settles =>
    have same : worker.current? reader.handles = job.message? := by
      simp [Worker.current?, Worker.begins?_eq_none, phase, Phase.job?]
    exact same ▸ settles.abides closed (same ▸ current)

theorem Settles.mailbox {codes final : Codes} {base : Worker} {job : Job}
    {exported : Except Failure Unit} {told : Outcome}
    (settles : Settles codes base job exported told final later) :
    later.timeout = base.timeout ∧ (later.mailbox = base.mailbox ∨ later.messages = []) := by
  cases settles with
  | rested _ _ _ worker => exact worker ▸ ⟨rfl, .inl rfl⟩
  | flushed _ _ _ _ worker => exact worker ▸ ⟨rfl, .inl rfl⟩
  | stopped _ _ _ worker => exact worker ▸ ⟨rfl, .inr rfl⟩

theorem Concludes.mailbox {codes final : Codes} {time : Nat} {base : Worker} {job : Job}
    {exported : Except Failure Unit}
    (concludes : Concludes codes time base job exported target changed final later) :
    later.timeout = base.timeout ∧ (later.mailbox = base.mailbox ∨ later.messages = []) := by
  cases concludes with
  | rested _ _ _ _ worker => exact worker ▸ ⟨rfl, .inl rfl⟩
  | asked _ _ _ closes =>
    cases closes with
    | settled _ _ settles => exact settles.mailbox
    | waits _ _ _ worker => exact worker ▸ ⟨rfl, .inl rfl⟩
    | crashed _ _ worker => exact worker ▸ ⟨rfl, .inr rfl⟩

/-- The messages that a thread has not come to stay in its mailbox, unless it ends. -/
theorem Move.mailbox (move : before.Move reader worker target changed after later) :
    later.timeout = worker.timeout ∧
      (later.mailbox = worker.ahead reader.handles ∨ later.messages = []) := by
  have working : worker.phase ≠ .waiting → worker.ahead reader.handles = worker.mailbox :=
    fun phase => by simp only [Worker.ahead, Worker.begins?_eq_none phase]
  cases move with
  | ended phase _ _ _ same =>
    subst same
    exact ⟨rfl, .inl (working (phase ▸ nofun)).symm⟩
  | left _ _ _ _ _ _ stop => exact stop ▸ ⟨rfl, .inr rfl⟩
  | handed job base begins report _ _ _ hands =>
    obtain ⟨_, _, timeout, _⟩ := Worker.begun begins
    have same : worker.ahead reader.handles = base.mailbox := by simp only [Worker.ahead, begins]
    rw [same, ← timeout]
    cases hands with
    | awaits _ _ _ worker => exact worker ▸ ⟨rfl, .inl rfl⟩
    | waits _ _ _ worker => exact worker ▸ ⟨rfl, .inl rfl⟩
    | crashed _ _ worker => exact worker ▸ ⟨rfl, .inr rfl⟩
  | skipped job base begins _ _ _ concludes =>
    obtain ⟨_, _, timeout, _⟩ := Worker.begun begins
    have same : worker.ahead reader.handles = base.mailbox := by simp only [Worker.ahead, begins]
    rw [same, ← timeout]
    exact concludes.mailbox
  | exported job _ phase _ concludes =>
    have busy : worker.phase ≠ .waiting := by
      rcases phase with ⟨_, _, phase, _⟩ | ⟨_, _, _, phase, _⟩ <;> exact phase ▸ nofun
    exact working busy ▸ concludes.mailbox
  | closed job _ _ phase _ _ settles => exact working (phase ▸ nofun) ▸ settles.mailbox

end Move

section StepWorker

variable {pipeline : Pipeline} {id exporter : Nat} {reader : Reader} {worker : Worker}
  (found : pipeline.readers[id]? = some reader) (kind : reader.kind = .periodic exporter worker)

include found kind

/-- The work of a thread gives no reader a code to hold. -/
theorem holder_stepWorker {other : Nat} {holder : Reader} {code : CodeId}
    (here : (pipeline.stepWorker id).readers[other]? = some holder) (holds : code ∈ holder.codes) :
    ∃ old, pipeline.readers[other]? = some old ∧ code ∈ old.codes := by
  obtain ⟨later, readers, fewer⟩ := readers_stepWorker found kind
  rw [readers] at here
  by_cases same : other = id
  · subst same
    rw [List.getElem?_set_self (List.getElem?_eq_some_iff.mp found).1] at here
    cases here
    rw [Reader.codes_setWorker kind] at holds
    refine ⟨reader, found, ?_⟩
    simpa only [Reader.codes, kind] using List.map_subset _ fewer holds
  · rw [List.getElem?_set_ne (Ne.symm same)] at here
    exact ⟨holder, here, holds⟩

/-- A thread completes no code that is there but that of the message it is about. -/
theorem aim_stepWorker (closed : pipeline.Closed) :
    ∃ aim, pipeline.codes.Abides (pipeline.stepWorker id).codes aim ∧
      (pipeline.codes.cells.length ≤ aim ∨ aim ∈ reader.codes) ∧
      (exporter < pipeline.exporters.length → pipeline.codes.cells.length ≤ aim ∨
        (worker.current? reader.handles).map Message.code = some aim) := by
  have holds : reader.codes = worker.messages.map Message.code := by
    simp only [Reader.codes, kind]
  have inside : ∀ message ∈ worker.messages, message.code < pipeline.codes.cells.length := by
    intro message member
    refine closed.held _ (List.mem_flatMap.mpr ⟨reader, List.mem_of_getElem? found, ?_⟩)
    exact holds ▸ List.mem_map_of_mem member
  by_cases present : exporter < pipeline.exporters.length
  · obtain ⟨changed, later, _, move⟩ :=
      stepWorker_move found kind (List.getElem?_eq_getElem present)
    obtain ⟨aim, abides, aimed⟩ := move.abides closed.codes inside
    refine ⟨aim, abides, aimed.imp_right fun current => ?_, fun _ => aimed⟩
    obtain ⟨message, is, rfl⟩ := Option.map_eq_some_iff.mp current
    rw [holds, worker.messages_eq reader.handles, is]
    exact List.mem_map_of_mem List.mem_cons_self
  · have fresh : ∀ {after : Codes}, (∀ aim, pipeline.codes.Abides after aim) →
        ∃ aim, pipeline.codes.Abides after aim ∧
          (pipeline.codes.cells.length ≤ aim ∨ aim ∈ reader.codes) ∧
          (exporter < pipeline.exporters.length → pipeline.codes.cells.length ≤ aim ∨
            (worker.current? reader.handles).map Message.code = some aim) :=
      fun abides => ⟨pipeline.codes.cells.length, abides _, .inl (Nat.le_refl _),
        fun there => absurd there present⟩
    cases stepWorker_stride found kind with
    | kept _ _ _ news _ =>
      rcases news with same | ⟨outcome, new⟩
      · exact fresh fun aim => same ▸ .refl closed.codes aim
      · exact fresh fun aim => new ▸ .create closed.codes outcome aim
    | answered message rest next _ exported outcome _ _ _ news _ =>
      have here : message ∈ worker.messages := next ▸ List.mem_cons_self
      exact ⟨message.code, news ▸ .answer closed.codes (inside message here) exported outcome,
        .inr (holds ▸ List.mem_map_of_mem here), fun there => absurd there present⟩
    | quit _ news _ => exact fresh fun aim => news ▸ .refl closed.codes aim

end StepWorker

end Pipeline

namespace Errand

/-- What a thread has found out about an errand when it answers the message, and the result of the
export that this comes to. An export is given up only after the time that it has. -/
inductive Preface (errand : Errand) (limit : Span) : List Finding → Except Failure Unit → Prop where
  | failed (failure : Failure) :
      Preface errand limit [.gathered errand (.error failure)] (.error failure)
  | empty : Preface errand limit [.gathered errand (.ok none)] (.ok ())
  | handed (report : Report) (outcome : Outcome) (waited : Nat)
      (late : outcome = .pending → limit.nanos ≤ waited) :
      Preface errand limit [.gathered errand (.ok (some report)), .exported errand outcome waited]
        ((outcome.result?).getD (.error (.timeout limit)))

/-- How far a thread has come with an errand, with what it has found out so far. Codes in `given`
may be completed by others, those in `held` by threads. -/
inductive Stage (codes : Codes) (given held : List CodeId) (errand : Errand) (message : Message)
    (limit : Span) (worker : Worker) : List Finding → Prop where
  | queued (mailbox : message ∈ worker.mailbox) (heeds : codes.Heeds [] none errand.token) :
      Stage codes given held errand message limit worker []
  | exporting (job : Job) (asks : job.message? = some message)
      (phase : (∃ began ends, worker.phase = .exporting job began ends) ∨
        ∃ began code, worker.phase = .awaiting job began code (began + limit.nanos))
      (heeds : codes.Heeds [] none errand.token) (report : Report) :
      Stage codes given held errand message limit worker [.gathered errand (.ok (some report))]
  | closing (job : Job) (asks : job.message? = some message) (exported : Except Failure Unit)
      (ends : Nat) (phase : worker.phase = .closing job exported ends)
      (heeds : codes.Heeds [] none errand.token) (found : List Finding)
      (preface : Preface errand limit found exported) :
      Stage codes given held errand message limit worker found
  | answered (gone : errand.token ∉ worker.messages.map Message.code) (found : List Finding)
      (exported : Except Failure Unit) (preface : Preface errand limit found exported)
      (told : Outcome) (closing : CodeId) (offered : codes.Offered closing told)
      (unheld : closing ∉ held)
      (replied : codes.Replied (· ∉ given ++ held) errand.token closing exported) :
      Stage codes given held errand message limit worker (found ++ [.closed errand told closing])
  /-- The thread has ended without an answer. -/
  | lost (gone : errand.token ∉ worker.messages.map Message.code)
      (heeds : codes.Heeds [] none errand.token) (found : List Finding)
      (unanswered : ∀ told closing, .closed errand told closing ∉ found) :
      Stage codes given held errand message limit worker found

namespace Preface

variable {errand : Errand} {limit : Span} {found : List Finding} {exported : Except Failure Unit}
  (preface : Preface errand limit found exported)

include preface

/-- The failure of an export is that of the collection, or of the code that was waited for. -/
theorem error_iff (failure : Failure) : exported = .error failure ↔
    .gathered errand (.error failure) ∈ found ∨ ∃ outcome waited,
      .exported errand outcome waited ∈ found ∧ outcome.fault? limit = some failure := by
  cases preface with
  | failed other => simp [eq_comm]
  | empty => simp
  | handed report outcome waited late =>
    rw [Outcome.result_getD]
    cases fault : outcome.fault? limit <;> simp [fault]

theorem ok_iff : exported = .ok () ↔ ∃ (report? : Option Report) (waited : Nat),
    found = .gathered errand (.ok report?) ::
      (report?.map fun _ => Finding.exported errand .succeeded waited).toList := by
  cases preface with
  | failed failure => simp
  | empty => exact ⟨fun _ => ⟨none, 0, rfl⟩, fun _ => rfl⟩
  | handed report outcome waited late =>
    have same : (outcome.result?).getD (.error (.timeout limit)) = .ok () ↔
        outcome = .succeeded := by
      cases outcome with
      | failed reason => cases reason <;> simp [Outcome.result?]
      | _ => simp [Outcome.result?]
    rw [same]
    constructor
    · rintro rfl
      exact ⟨some report, waited, rfl⟩
    · rintro ⟨report?, other, alike⟩
      cases report? <;> simp_all

theorem late {waited : Nat} (member : .exported errand .pending waited ∈ found) :
    limit.nanos ≤ waited := by
  cases preface with
  | failed failure => simp at member
  | empty => simp at member
  | handed report outcome other late => grind

theorem unanswered (told : Outcome) (closing : CodeId) : .closed errand told closing ∉ found := by
  cases preface <;> simp

end Preface

namespace Stage

section Advance

variable {codes after : Codes} {given held laterGiven laterHeld : List CodeId} {errand : Errand}
  {message : Message} {limit : Span} {worker later : Worker} {found : List Finding} {aim : CodeId}
  (stage : Stage codes given held errand message limit worker found)

include stage

/-- An errand is where it was when something else has gone on. -/
theorem advance (advances : codes.Advances given held aim after laterGiven laterHeld)
    (other : aim ≠ errand.token) (present : errand.token < codes.cells.length) :
    Stage after laterGiven laterHeld errand message limit worker found := by
  have abides := advances.abides
  have heed : codes.Heeds [] none errand.token → after.Heeds [] none errand.token :=
    abides.heeds none errand.token other
  cases stage with
  | queued mailbox heeds => exact .queued mailbox (heed heeds)
  | exporting job asks phase heeds report => exact .exporting job asks phase (heed heeds) report
  | closing job asks exported ends phase heeds _ preface =>
    exact .closing job asks exported ends phase (heed heeds) _ preface
  | answered gone found exported preface told closing offered unheld replied =>
    refine .answered gone found exported preface told closing ?_
      (fun still => (advances.fewer closing still).elim unheld (Nat.not_le_of_lt offered.inside)) ?_
    · refine offered.abide abides fun same => ?_
      subst same
      rcases advances.aimed with beyond | heldThere | ⟨_, done⟩
      · exact absurd offered.inside (Nat.not_lt_of_le beyond)
      · exact absurd heldThere unheld
      · exact done
    · exact replied.abide present abides other (fun _ => advances.unaimed) fun _ =>
        advances.still
  | lost gone heeds _ unanswered => exact .lost gone (heed heeds) _ unanswered

/-- The code of an errand changes only if it is completed itself, or the exporter's code that it
follows is. -/
theorem changed (advances : codes.Advances given held aim after laterGiven laterHeld)
    (other : aim ≠ errand.token) (pending : codes.outcome errand.token = .pending)
    (done : after.outcome errand.token ≠ .pending) :
    ∃ told, .closed errand told aim ∈ found := by
  have heeding : ¬codes.Heeds [] none errand.token := fun heeds =>
    done (advances.abides.heeds none errand.token other heeds).pending
  cases stage with
  | queued _ heeds => exact absurd heeds heeding
  | exporting _ _ _ heeds => exact absurd heeds heeding
  | closing _ _ _ _ _ heeds => exact absurd heeds heeding
  | lost _ heeds => exact absurd heeds heeding
  | answered gone found exported preface told closing offered unheld replied =>
    refine ⟨told, ?_⟩
    cases replied with
    | failed failure same => cases pending.symm.trans same
    | followed first both mirrors apart =>
      suffices same : aim = closing by simp [same]
      refine Decidable.byContradiction fun apart_closing => ?_
      have open_ := mirrors.outcome_eq.symm.trans pending
      have still :=
        (advances.abides.heeds none closing apart_closing (offered.heeds open_)).pending
      have unaimed := advances.unaimed mirrors.tracks.gathered.present apart
      exact done ((mirrors.abide advances.abides unaimed other).outcome_eq.trans still)

/-- A worker gets further messages. -/
theorem extend {more : List Message} (apart : ∀ message ∈ more, message.code ≠ errand.token) :
    Stage codes given held errand message limit
      { worker with mailbox := worker.mailbox ++ more } found := by
  have absent : errand.token ∉ worker.messages.map Message.code →
      errand.token ∉
        ({ worker with mailbox := worker.mailbox ++ more } : Worker).messages.map Message.code := by
    intro gone member
    rw [Worker.messages, ← List.append_assoc, List.map_append] at member
    rcases List.mem_append.mp member with old | new
    · exact gone old
    · obtain ⟨message, listed, same⟩ := List.mem_map.mp new
      exact apart message listed same
  cases stage with
  | queued mailbox heeds => exact .queued (List.mem_append_left _ mailbox) heeds
  | exporting job asks phase heeds report =>
    refine .exporting job asks ?_ heeds report
    exact phase
  | closing job asks exported ends phase heeds _ preface =>
    refine .closing job asks exported ends ?_ heeds _ preface
    exact phase
  | answered gone found exported preface told closing offered unheld replied =>
    exact .answered (absent gone) found exported preface told closing offered unheld replied
  | lost gone heeds _ unanswered => exact .lost (absent gone) heeds _ unanswered

end Advance

section Leave

variable {codes : Codes} {given held : List CodeId} {errand : Errand} {message : Message}
  {limit : Span} {worker later : Worker} {found : List Finding} {handles : Nat}
  (stage : Stage codes given held errand message limit worker found)
  (elsewhere : worker.current? handles ≠ some message)

include stage elsewhere

/-- A thread that is about another message does not come to this one, or has done so before. -/
theorem cases_elsewhere : (message ∈ worker.ahead handles ∧ found = [] ∧
      codes.Heeds [] none errand.token) ∨ errand.token ∉ worker.messages.map Message.code := by
  have working : ∀ job, worker.phase.job? = some job → job.message? ≠ some message := by
    intro job phase asks
    have idle : worker.phase ≠ .waiting := fun waiting => by
      rw [waiting] at phase
      cases phase
    exact elsewhere (by simp [Worker.current?, Worker.begins?_eq_none idle, phase, asks])
  cases stage with
  | queued mailbox heeds =>
    refine .inl ⟨?_, rfl, heeds⟩
    cases begins : worker.begins? handles with
    | none => simpa only [Worker.ahead, begins] using mailbox
    | some begun =>
      obtain ⟨job, base⟩ := begun
      obtain ⟨_, _, _, same⟩ := Worker.begun begins
      rw [same] at mailbox
      simp only [Worker.ahead, begins]
      refine (List.mem_append.mp mailbox).resolve_left fun first => elsewhere ?_
      simpa only [Worker.current?, begins, Option.mem_toList] using first
  | exporting job asks phase _ _ =>
    refine absurd asks (working job ?_)
    rcases phase with ⟨_, _, phase⟩ | ⟨_, _, phase⟩ <;> rw [phase] <;> rfl
  | closing job asks _ _ phase _ _ _ => exact absurd asks (working job (by rw [phase]; rfl))
  | answered gone => exact .inr gone
  | lost gone => exact .inr gone

/-- The code of another message that a thread is about is that of another errand. -/
theorem code_ne (token : message.code = errand.token)
    (single : (worker.messages.map Message.code).count errand.token ≤ 1) {other : Message}
    (current : worker.current? handles = some other) : other.code ≠ errand.token := by
  intro same
  have queue := worker.messages_eq handles
  rw [current, Option.toList_some, List.singleton_append] at queue
  rcases stage.cases_elsewhere elsewhere with ⟨listed, _, _⟩ | absent
  · have here : errand.token ∈ (worker.ahead handles).map Message.code :=
      token ▸ List.mem_map_of_mem listed
    rw [queue, List.map_cons, same, List.count_cons_self] at single
    exact absurd (List.count_pos_iff.mpr here) (by omega)
  · refine absent (same ▸ List.mem_map_of_mem ?_)
    rw [queue]
    exact List.mem_cons_self

theorem leave (token : message.code = errand.token)
    (mailbox : later.mailbox = worker.ahead handles ∨ later.messages = [])
    (fewer : later.messages ⊆ worker.messages) :
    Stage codes given held errand message limit later found := by
  have gone : errand.token ∉ worker.messages.map Message.code →
      errand.token ∉ later.messages.map Message.code := fun absent member =>
    absent (List.map_subset _ fewer member)
  rcases stage.cases_elsewhere elsewhere with ⟨listed, rfl, heeds⟩ | absent
  · rcases mailbox with same | ended
    · exact .queued (same ▸ listed) heeds
    · refine .lost ?_ heeds [] nofun
      rw [ended]
      exact List.not_mem_nil
  · cases stage with
    | queued mailbox heeds =>
      exact absurd (List.mem_map_of_mem (List.mem_append_right _ mailbox)) (token ▸ absent)
    | exporting job asks phase _ _ =>
      refine absurd ?_ absent
      rw [← token]
      refine List.mem_map_of_mem (List.mem_append_left _ ?_)
      rcases phase with ⟨_, _, phase⟩ | ⟨_, _, phase⟩ <;> simp [phase, Phase.job?, asks]
    | closing job asks exported ends phase heeds found preface =>
      refine absurd ?_ absent
      rw [← token]
      exact List.mem_map_of_mem (List.mem_append_left _ (by simp [phase, Phase.job?, asks]))
    | answered _ found exported preface told closing offered unheld replied =>
      exact .answered (gone absent) found exported preface told closing offered unheld replied
    | lost _ heeds found unanswered => exact .lost (gone absent) heeds found unanswered

end Leave

section Attend

variable {codes final : Codes} {given held : List CodeId} {errand : Errand} {message : Message}
  {limit : Span} {base later : Worker} {job : Job} {exported : Except Failure Unit}
  {found : List Finding} (closed : codes.Closed)
  (known : ∀ code ∈ given ++ held, code < codes.cells.length)
  (asks : job.message? = some message) (token : message.code = errand.token)
  (heeds : codes.Heeds [] none errand.token)
  (gone : errand.token ∉ base.mailbox.map Message.code)
  (preface : Preface errand limit found exported)

include closed known asks token heeds gone preface

theorem settle {told : Outcome}
    (settles : Pipeline.Settles codes base job exported told final later) :
    Stage final (given ++ final.newcomers codes.cells.length) held errand message limit later
      (found ++ [.closed errand told (codes.cells.length + 1)]) := by
  have beyond : ∀ number, codes.cells.length + number ∉ given ++ held := fun number member =>
    Nat.not_lt_of_le (Nat.le_add_right _ number) (known _ member)
  have answered : final = codes.answer errand.token exported told →
      errand.token ∉ later.messages.map Message.code →
      Stage final (given ++ final.newcomers codes.cells.length) held errand message limit later
        (found ++ [.closed errand told (codes.cells.length + 1)]) := by
    rintro rfl gone
    have present := heeds.present
    obtain ⟨tracks, _⟩ := closed.tracks_answer exported told present
    refine .answered gone found exported preface told _
      (closed.offered_answer exported told _ present)
      (fun member => beyond 1 (List.mem_append_right _ member))
      (closed.replied_answer exported told heeds fun member => ?_)
    rcases List.mem_append.mp member with given | there
    · rcases List.mem_append.mp given with old | new
      · exact beyond 2 (List.mem_append_left _ old)
      · obtain ⟨_, _, pending, none⟩ := Codes.mem_newcomers.mp new
        exact tracks.awaiting_ne pending none
    · exact beyond 2 (List.mem_append_right _ there)
  cases settles with
  | rested timer =>
    subst timer
    cases asks
  | flushed code schedule flush answers worker =>
    subst flush
    cases asks
    cases token
    exact answered answers (worker ▸ gone)
  | stopped code shutdown answers worker =>
    subst shutdown
    cases asks
    cases token
    exact answered answers (worker ▸ List.not_mem_nil)

theorem conclude {time : Nat} {target changed : Exporter}
    (concludes : Pipeline.Concludes codes time base job exported target changed final later) :
    Stage final (given ++ final.newcomers codes.cells.length) held errand message limit later
      (found ++ (((target.ask message).2.told?).map fun told =>
        Finding.closed errand told (codes.cells.length + 1)).toList) := by
  cases concludes with
  | rested timer =>
    subst timer
    cases asks
  | asked other same exporter closes =>
    cases asks.symm.trans same
    cases closes with
    | settled told answer settles =>
      simp only [answer, Response.told?, Option.map_some, Option.toList_some]
      exact settle closed known asks token heeds gone preface settles
    | waits duration answer same worker =>
      simp only [answer, Response.told?, Option.map_none, Option.toList_none, List.append_nil]
      exact .closing job asks exported _ (by rw [worker]) (same ▸ heeds) found preface
    | crashed answer same worker =>
      simp only [answer, Response.told?, Option.map_none, Option.toList_none, List.append_nil]
      exact .lost (worker ▸ List.not_mem_nil) (same ▸ heeds) found preface.unanswered

end Attend

section Move

variable {before after : Pipeline} {given held : List CodeId} {errand : Errand} {message : Message}
  {limit : Span} {reader : Reader} {exporter : Nat} {worker later : Worker}
  {target changed : Exporter} {found : List Finding}
  (move : before.Move reader worker target changed after later)
  (periodic : before.periodic? errand.reader = some (reader, exporter, worker))
  (present : before.exporters[exporter]? = some target)
  (current : worker.current? reader.handles = some message)
  (token : message.code = errand.token) (closed : before.codes.Closed)
  (known : ∀ code ∈ given ++ held, code < before.codes.cells.length)
  (timed : worker.timeout = limit)

include periodic current token

theorem learns_eq :
    before.learns errand.reader = before.findings errand reader worker ++
      ((before.told? reader exporter worker message).map fun told =>
        Finding.closed errand told (before.codes.cells.length + 1)).toList := by
  simp only [Pipeline.learns, periodic, current, token]

variable (heeds : before.codes.Heeds [] none errand.token)
  (gone : errand.token ∉ (worker.ahead reader.handles).map Message.code)

include move present closed known timed heeds gone

/-- A thread begins with an errand. -/
theorem attend_queued (mailbox : message ∈ worker.mailbox) :
    Stage after.codes (given ++ after.codes.newcomers before.codes.cells.length) held errand
      message limit later (before.learns errand.reader) := by
  rw [learns_eq periodic current token]
  have begun : ∃ job base, worker.begins? reader.handles = some (job, base) := by
    cases begins : worker.begins? reader.handles with
    | some begun => exact ⟨begun.1, begun.2, rfl⟩
    | none =>
      have here : message.code ∈ worker.mailbox.map Message.code := List.mem_map_of_mem mailbox
      simp only [Worker.ahead, begins] at gone
      exact absurd (token ▸ here) gone
  obtain ⟨job, base, begins⟩ := begun
  obtain ⟨waiting, _, timeout, _⟩ := Worker.begun begins
  have asks : job.message? = some message := by
    simpa only [Worker.current?, begins] using current
  have behind : errand.token ∉ base.mailbox.map Message.code := by
    simpa only [Worker.ahead, begins] using gone
  rcases (move.begun begins).2 with ⟨report, gathers, _, hands⟩ | ⟨exported, gathers, concludes⟩
  · have learned : before.findings errand reader worker =
          [.gathered errand (.ok (some report))] ∧
        before.told? reader exporter worker message = none := by
      simp [Pipeline.findings, Pipeline.told?, waiting, present, Pipeline.isAsking, begins, gathers]
    rw [learned.1, learned.2]
    have heeding := (hands.abides closed before.codes.cells.length).heeds none errand.token
      (Nat.ne_of_gt heeds.present) heeds
    cases hands with
    | awaits outcome _ _ worker =>
      refine .exporting job asks (.inr ⟨before.time, before.codes.cells.length, ?_⟩) heeding _
      rw [worker, ← timed, ← timeout]
    | waits duration _ _ worker =>
      exact .exporting job asks (.inl ⟨_, _, by rw [worker]⟩) heeding _
    | crashed _ _ worker => exact .lost (worker ▸ List.not_mem_nil) heeding _ (by simp)
  · have told : before.told? reader exporter worker message = (target.ask message).2.told? := by
      cases exported <;>
        simp [Pipeline.told?, waiting, present, Pipeline.isAsking, begins, gathers, Except.map]
    have preface : Preface errand limit (before.findings errand reader worker) exported := by
      simp only [Pipeline.findings, begins, gathers]
      cases exported with
      | ok _ => exact .empty
      | error failure => exact .failed failure
    rw [told]
    exact conclude closed known asks token heeds behind preface concludes

/-- A thread goes on after the export for an errand. -/
theorem attend_exporting {job : Job} (asks : job.message? = some message)
    (phase : (∃ began ends, worker.phase = .exporting job began ends) ∨
      ∃ began code, worker.phase = .awaiting job began code (began + limit.nanos))
    (report : Report) (due : ∃ time, before.ready? reader = some time ∧ time ≤ before.time) :
    Stage after.codes (given ++ after.codes.newcomers before.codes.cells.length) held errand
      message limit later
        ([.gathered errand (.ok (some report))] ++ before.learns errand.reader) := by
  rw [learns_eq periodic current token, ← List.append_assoc]
  have busy : worker.phase ≠ .waiting := by
    rcases phase with ⟨_, _, phase⟩ | ⟨_, _, phase⟩ <;> exact phase ▸ nofun
  have begins : worker.begins? reader.handles = none := Worker.begins?_eq_none busy
  have behind : errand.token ∉ worker.mailbox.map Message.code := by
    simpa only [Worker.ahead, begins] using gone
  have told : before.told? reader exporter worker message = (target.ask message).2.told? := by
    rcases phase with ⟨_, _, phase⟩ | ⟨_, _, phase⟩ <;>
      simp [Pipeline.told?, phase, present, Pipeline.isAsking, begins]
  rw [told]
  cases move with
  | ended ended => rcases phase with ⟨_, _, phase⟩ | ⟨_, _, phase⟩ <;> cases ended.symm.trans phase
  | left waiting => exact absurd waiting busy
  | handed _ _ begun => cases begins.symm.trans begun
  | skipped _ _ begun => cases begins.symm.trans begun
  | closed _ _ _ other =>
    rcases phase with ⟨_, _, phase⟩ | ⟨_, _, phase⟩ <;> cases other.symm.trans phase
  | exported other exported working _ concludes =>
    have preface : job = other ∧ Preface errand limit
        ([.gathered errand (.ok (some report))] ++ before.findings errand reader worker)
        exported := by
      rcases phase with ⟨_, _, phase⟩ | ⟨began, code, phase⟩
      · rcases working with ⟨_, _, is, rfl⟩ | ⟨_, _, _, is, _⟩ <;> cases is.symm.trans phase
        refine ⟨rfl, ?_⟩
        simp only [Pipeline.findings, begins, phase]
        exact .handed report .succeeded _ nofun
      · rcases working with ⟨_, _, is, _⟩ | ⟨_, _, _, is, rfl⟩ <;> cases is.symm.trans phase
        refine ⟨rfl, ?_⟩
        simp only [Pipeline.findings, begins, phase, timed]
        refine .handed report _ _ fun pending => ?_
        -- The thread goes on while the code is pending, so the time for it is over.
        obtain ⟨time, ready, passed⟩ := due
        have same : reader.worker? = some worker := by
          simp only [Reader.worker?, (Pipeline.of_periodic? periodic).2]
        simp only [Pipeline.ready?, same, phase, pending, Outcome.isPending, if_true] at ready
        cases ready
        omega
    obtain ⟨rfl, preface⟩ := preface
    exact conclude closed known asks token heeds behind preface concludes

omit present timed in
/-- A thread goes on after the exporter's flush or shutdown call for an errand. -/
theorem attend_closing {job : Job} (asks : job.message? = some message)
    {exported : Except Failure Unit} {ends : Nat}
    (phase : worker.phase = .closing job exported ends)
    (preface : Preface errand limit found exported) :
    Stage after.codes (given ++ after.codes.newcomers before.codes.cells.length) held errand
      message limit later (found ++ before.learns errand.reader) := by
  have begins : worker.begins? reader.handles = none := Worker.begins?_eq_none (phase ▸ nofun)
  have behind : errand.token ∉ worker.mailbox.map Message.code := by
    simpa only [Worker.ahead, begins] using gone
  have learned : before.findings errand reader worker = [] ∧
      before.told? reader exporter worker message = some .succeeded := by
    simp [Pipeline.findings, Pipeline.told?, begins, phase]
  rw [learns_eq periodic current token, learned.1, learned.2, List.nil_append]
  cases move with
  | ended ended => cases ended.symm.trans phase
  | left waiting => cases waiting.symm.trans phase
  | handed _ _ begun => cases begins.symm.trans begun
  | skipped _ _ begun => cases begins.symm.trans begun
  | exported _ _ working =>
    rcases working with ⟨_, _, is, _⟩ | ⟨_, _, _, is, _⟩ <;> cases is.symm.trans phase
  | closed other result _ is _ _ settles =>
    cases is.symm.trans phase
    exact settle closed known asks token heeds behind preface settles

omit heeds gone

/-- A thread goes on with an errand. -/
theorem attend (stage : Stage before.codes given held errand message limit worker found)
    (single : (worker.messages.map Message.code).count errand.token ≤ 1)
    (due : ∃ time, before.ready? reader = some time ∧ time ≤ before.time) :
    Stage after.codes (given ++ after.codes.newcomers before.codes.cells.length) held errand
      message limit later (found ++ before.learns errand.reader) := by
  have queue := worker.messages_eq reader.handles
  rw [current, Option.toList_some, List.singleton_append] at queue
  have here : errand.token ∈ worker.messages.map Message.code := by
    rw [queue, ← token]
    exact List.mem_map_of_mem List.mem_cons_self
  have gone : errand.token ∉ (worker.ahead reader.handles).map Message.code := by
    rw [queue, List.map_cons, token, List.count_cons_self] at single
    exact List.count_eq_zero.mp (Nat.le_zero.mp (Nat.le_of_succ_le_succ single))
  cases stage with
  | queued mailbox heeds =>
    exact attend_queued move periodic present current token closed known timed heeds gone mailbox
  | exporting job asks phase heeds report =>
    exact attend_exporting move periodic present current token closed known timed heeds gone asks
      phase report due
  | closing job asks exported ends phase heeds _ preface =>
    exact attend_closing move periodic current token closed known heeds gone asks phase preface
  | answered absent => exact absurd here absent
  | lost absent => exact absurd here absent

end Move

end Stage

end Errand

end Metering
