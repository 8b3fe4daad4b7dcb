import Metering.Proofs.Pipeline.Incidents
import Metering.Proofs.Pipeline.Requests

/-!
Calls on a reader while its thread is at work: the exporter is shut down at most once, by leave of
the flag, and the reader does not call it afterwards. A call that finds the flag set fails and sends
nothing.
-/

namespace Metering

open Completion

namespace Lifespan

/-- Whether codes that are done stay as they are. -/
structure Lasts (before after : Codes) : Prop where
  longer : before.cells.length ≤ after.cells.length
  done : ∀ code < before.cells.length, before.outcome code ≠ .pending →
    after.outcome code = before.outcome code

namespace Lasts

theorem refl (codes : Codes) : Lasts codes codes := ⟨Nat.le_refl _, fun _ _ _ => rfl⟩

theorem trans {first second third : Codes} (begins : Lasts first second)
    (ends : Lasts second third) : Lasts first third :=
  ⟨Nat.le_trans begins.longer ends.longer, fun code inside done => by
    have same := begins.done code inside done
    exact (ends.done code (Nat.lt_of_lt_of_le inside begins.longer) (same.symm ▸ done)).trans
      same⟩

theorem create (codes : Codes) (outcome : Outcome) : Lasts codes (codes.create outcome).1 :=
  ⟨codes.length_create outcome ▸ Nat.le_succ _, fun _ inside _ => Codes.outcome_push rfl inside⟩

theorem drain (codes : Codes) (tasks : List Task) : Lasts codes (codes.drain tasks) :=
  ⟨Codes.length_le_drain _ _, fun _ inside done => Codes.outcome_drain_of_done inside done⟩

theorem stepWorker (pipeline : Pipeline) (id : Nat) :
    Lasts pipeline.codes (pipeline.stepWorker id).codes := by
  rcases (pipeline.codes_stepWorker id).2 with
    same | ⟨outcome, news⟩ | ⟨code, _, exported, outcome, news⟩
  · exact same ▸ .refl _
  · exact news ▸ .create _ outcome
  · rw [news]
    have longer := pipeline.codes.length_le_answer code exported outcome
    exact ⟨by omega, fun _ inside done => Codes.outcome_answer_of_done exported outcome inside done⟩

theorem shutdownExporter (pipeline : Pipeline) (exporter : Nat) (code : CodeId) :
    Lasts pipeline.codes (pipeline.shutdownExporter exporter code).codes := by
  unfold Pipeline.shutdownExporter
  split
  next => exact .refl _
  next target _ =>
    generalize target.shutdown = answer
    obtain ⟨told, response⟩ := answer
    cases response with
    | code outcome => exact (create pipeline.codes outcome).trans (.drain _ _)
    | slow duration => exact .drain _ _
    | crash => exact .refl _

end Lasts

theorem exporters_shutdownExporter (pipeline : Pipeline) {exporter : Nat} {target : Exporter}
    (present : pipeline.exporters[exporter]? = some target) (code : CodeId) :
    (pipeline.shutdownExporter exporter code).exporters =
      pipeline.exporters.set exporter target.shutdown.1 := by
  simp only [Pipeline.shutdownExporter, present]
  generalize target.shutdown = answer
  obtain ⟨told, response⟩ := answer
  cases response <;> rfl

theorem admitted_ne_returned (code : CodeId) : ReaderStage.admitted ≠ .returned code := nofun

/-- How the shutdowns about to send their message change when a call goes on. -/
theorem admitted_set {traffic : Traffic} {index : Nat} {call : ReaderCall} {old : ReaderStage}
    (stage : ReaderStage) {admitted : Nat} (here : traffic.calls[index]? = some (call, old))
    (changes : traffic.calls.countP Traffic.isClosing +
        (if Traffic.isClosing (call, stage) then 1 else 0) =
      admitted + if Traffic.isClosing (call, old) then 1 else 0) :
    (traffic.calls.set index (call, stage)).countP Traffic.isClosing = admitted := by
  have counted := Traffic.countP_set here Traffic.isClosing (call, stage)
  omega

/-- A reader with its thread and exporter while calls on it are under way, the exporter having been
`first` at the beginning. -/
structure Sound (id exporter : Nat) (source : Option Lease) (first : Exporter) (reader : Reader)
    (worker : Worker) (target : Exporter) (span : Lifespan) : Prop where
  found : span.traffic.pipeline.readers[id]? = some reader
  kind : reader.kind = .periodic exporter worker
  leased : reader.lease = source
  present : span.traffic.pipeline.exporters[exporter]? = some target
  counted : ∀ request, target.count request =
    first.count request + span.incidents.countP (Incident.isRequest request)
  thread : Thread source (span.traffic.calls.countP Traffic.isClosing)
    (if reader.isShutdown then 1 else 0) worker span.incidents
  flag : reader.isShutdown = true ↔ ∃ winner, .looked winner .shutdown false ∈ span.incidents
  owns : ∀ index : Nat, span.traffic.calls[index]? = some (.shutdown, .admitted) →
    .looked index .shutdown false ∈ span.incidents
  looks : ∀ (index : Nat) call stage, span.traffic.calls[index]? = some (call, stage) →
    stage ≠ .fresh → ∃ flag, .looked index call flag ∈ span.incidents
  refused : ∀ index call, .looked index call true ∈ span.incidents →
    ∃ code, span.traffic.calls[index]? = some (call, .returned code) ∧
      code < span.traffic.pipeline.codes.cells.length ∧
      span.traffic.pipeline.codes.outcome code = .failed (some .alreadyShutdown) ∧
      code ∉ span.traffic.tokens
  known : ∀ code ∈ span.traffic.tokens, code < span.traffic.pipeline.codes.cells.length
  sent : worker.messages ⊆ span.traffic.sent

/-- The thread of a reader goes on. -/
def labour (span : Lifespan) (id exporter : Nat) (reader : Reader) (worker : Worker) : Lifespan :=
  let after := span.traffic.pipeline.stepWorker id
  { traffic :=
      { span.traffic with
        pipeline := after
        given := span.traffic.given ++
          after.codes.newcomers span.traffic.pipeline.codes.cells.length }
    incidents := span.incidents ++ (collects reader worker ++
      (span.traffic.pipeline.requestsSince after exporter).map (.called .thread)) }

namespace Sound

variable {id exporter : Nat} {source : Option Lease} {first : Exporter} {reader : Reader}
  {worker : Worker} {target : Exporter} {span : Lifespan}
  (sound : Sound id exporter source first reader worker target span)

include sound

theorem periodic? : span.traffic.pipeline.periodic? id = some (reader, exporter, worker) := by
  simp only [Pipeline.periodic?, sound.found, sound.kind]

theorem requestsSince_self {after : Pipeline}
    (exporters : after.exporters = span.traffic.pipeline.exporters) :
    span.traffic.pipeline.requestsSince after exporter = [] := by
  simp only [Pipeline.requestsSince, exporters, sound.present, target.requestsSince_self]

theorem requestsSince_set {after : Pipeline} {changed : Exporter}
    (exporters : after.exporters = span.traffic.pipeline.exporters.set exporter changed) :
    after.exporters[exporter]? = some changed ∧
      span.traffic.pipeline.requestsSince after exporter = target.requestsSince changed := by
  have there : after.exporters[exporter]? = some changed := by
    rw [exporters]
    exact List.getElem?_set_self (List.getElem?_eq_some_iff.mp sound.present).1
  refine ⟨there, ?_⟩
  simp only [Pipeline.requestsSince, there, sound.present]

/-- A call that has been refused stays so while done codes stay as they are. -/
theorem refused_lasts {codes : Codes} (lasts : Lasts span.traffic.pipeline.codes codes)
    {index : Nat} {call : ReaderCall} (looked : .looked index call true ∈ span.incidents) :
    ∃ code, span.traffic.calls[index]? = some (call, .returned code) ∧
      code < span.traffic.pipeline.codes.cells.length ∧ code < codes.cells.length ∧
      codes.outcome code = .failed (some .alreadyShutdown) ∧ code ∉ span.traffic.tokens := by
  obtain ⟨code, returned, inside, outcome, unsent⟩ := sound.refused index call looked
  exact ⟨code, returned, inside, Nat.lt_of_lt_of_le inside lasts.longer,
    (lasts.done code inside (outcome ▸ nofun)).trans outcome, unsent⟩

/-- Something goes on apart from calls and the thread. -/
theorem goOn {after : Pipeline} {later : Reader} (found : after.readers[id]? = some later)
    (kind : later.kind = reader.kind) (lease : later.lease = reader.lease)
    (flag : later.isShutdown = reader.isShutdown)
    (exporters : after.exporters = span.traffic.pipeline.exporters)
    (lasts : Lasts span.traffic.pipeline.codes after.codes) :
    Sound id exporter source first later worker target
      { span with traffic := { span.traffic with pipeline := after } } :=
  { sound with
    found
    kind := kind.trans sound.kind
    leased := lease.trans sound.leased
    present := exporters ▸ sound.present
    thread := flag ▸ sound.thread
    flag := flag ▸ sound.flag
    refused := fun _ _ looked => by
      obtain ⟨code, returned, _, rest⟩ := sound.refused_lasts lasts looked
      exact ⟨code, returned, rest⟩
    known := fun code token => Nat.lt_of_lt_of_le (sound.known code token) lasts.longer }

/-- A call goes on that has not returned yet. -/
theorem turn {index : Nat} {call : ReaderCall} {old : ReaderStage} (stage : ReaderStage)
    (after : Pipeline) (later : Reader) (final : Worker) (changed : Exporter)
    (news : List Incident) (posted : List Message)
    (here : span.traffic.calls[index]? = some (call, old))
    (unreturned : ∀ code, old ≠ .returned code)
    (lasts : Lasts span.traffic.pipeline.codes after.codes)
    (found : after.readers[id]? = some later) (kind : later.kind = .periodic exporter final)
    (leased : later.lease = source) (present : after.exporters[exporter]? = some changed)
    (counted : ∀ request, changed.count request =
      target.count request + news.countP (Incident.isRequest request))
    (thread : Thread source ((span.traffic.calls.set index (call, stage)).countP Traffic.isClosing)
      (if later.isShutdown then 1 else 0) final (span.incidents ++ news))
    (flag : later.isShutdown = true ↔
      ∃ winner, .looked winner .shutdown false ∈ span.incidents ++ news)
    (owns : call = .shutdown → stage = .admitted →
      .looked index .shutdown false ∈ span.incidents ++ news)
    (looks : ∃ flag, .looked index call flag ∈ span.incidents ++ news)
    (refused : ∀ other who, .looked other who true ∈ news → other = index ∧ who = call ∧
      ∃ code, stage = .returned code ∧ code < after.codes.cells.length ∧
        after.codes.outcome code = .failed (some .alreadyShutdown) ∧
        code ∉ (span.traffic.sent ++ posted).map Message.code)
    (tokens : ∀ message ∈ posted, span.traffic.pipeline.codes.cells.length ≤ message.code ∧
      message.code < after.codes.cells.length)
    (sent : final.messages ⊆ span.traffic.sent ++ posted) :
    Sound id exporter source first later final changed
      { traffic :=
          { span.traffic with
            pipeline := after
            calls := span.traffic.calls.set index (call, stage)
            sent := span.traffic.sent ++ posted }
        incidents := span.incidents ++ news } := by
  have inside := (List.getElem?_eq_some_iff.mp here).1
  have self : (span.traffic.calls.set index (call, stage))[index]? = some (call, stage) :=
    List.getElem?_set_self inside
  constructor
  case found => exact found
  case kind => exact kind
  case leased => exact leased
  case present => exact present
  case counted =>
    intro request
    rw [List.countP_append, counted, sound.counted, Nat.add_assoc]
  case thread => exact thread
  case flag => exact flag
  case owns =>
    intro other there
    by_cases same : index = other
    · subst same
      cases self.symm.trans there
      exact owns rfl rfl
    · rw [List.getElem?_set_ne same] at there
      exact List.mem_append_left _ (sound.owns other there)
  case looks =>
    intro other who reached there begun
    by_cases same : index = other
    · subst same
      cases self.symm.trans there
      exact looks
    · rw [List.getElem?_set_ne same] at there
      obtain ⟨flag, looked⟩ := sound.looks other who reached there begun
      exact ⟨flag, List.mem_append_left _ looked⟩
  case refused =>
    intro other who looked
    rcases List.mem_append.mp looked with before | new
    · obtain ⟨code, returned, early, inside, outcome, unsent⟩ := sound.refused_lasts lasts before
      have apart : index ≠ other := by
        rintro rfl
        cases here.symm.trans returned
        exact unreturned code rfl
      refine ⟨code, (List.getElem?_set_ne apart).trans returned, inside, outcome, ?_⟩
      change code ∉ (span.traffic.sent ++ posted).map Message.code
      rw [List.map_append, List.mem_append]
      rintro (old | new)
      · exact unsent old
      · obtain ⟨message, member, rfl⟩ := List.mem_map.mp new
        exact Nat.not_le_of_lt early (tokens message member).1
    · obtain ⟨rfl, rfl, code, rfl, rest⟩ := refused other who new
      exact ⟨code, self, rest⟩
  case known =>
    intro code token
    change code ∈ (span.traffic.sent ++ posted).map Message.code at token
    rw [List.map_append, List.mem_append] at token
    rcases token with old | new
    · exact Nat.lt_of_lt_of_le (sound.known code old) lasts.longer
    · obtain ⟨message, member, rfl⟩ := List.mem_map.mp new
      exact (tokens message member).2
  case sent => exact sent

/-- A call finds the flag set. -/
theorem refuse {index : Nat} {call : ReaderCall}
    (here : span.traffic.calls[index]? = some (call, .fresh)) (shut : reader.isShutdown = true) :
    Sound id exporter source first reader worker target
      { traffic := span.traffic.enter id index call reader
        incidents := span.incidents ++ [.looked index call true] } := by
  let token := span.traffic.pipeline.codes.cells.length
  have fresh : token < (span.traffic.pipeline.codes.create
      (.failed (some .alreadyShutdown))).1.cells.length :=
    span.traffic.pipeline.codes.length_create _ ▸ Nat.lt_succ_self _
  have goes := sound.turn (.returned token)
    (span.traffic.pipeline.newCode (.failed (some .alreadyShutdown))).1 reader worker target
    [.looked index call true] [] here nofun (.create _ _) sound.found sound.kind
    sound.leased sound.present (fun _ => rfl) ?thread ?flag nofun
    ⟨true, List.mem_append_right _ (List.mem_singleton_self _)⟩ ?refused nofun
    (List.append_nil _ ▸ sound.sent)
  case thread =>
    rw [admitted_set (.returned token) here (by cases call <;> rfl)]
    exact sound.thread.look index call ⟨fun _ => sound.flag.mp shut, fun _ => rfl⟩
  case flag =>
    exact ⟨fun _ => (sound.flag.mp shut).imp fun _ => List.mem_append_left _, fun _ => shut⟩
  case refused =>
    intro other who new
    cases List.mem_singleton.mp new
    refine ⟨rfl, rfl, token, rfl, fresh, span.traffic.pipeline.codes.outcome_create _, ?_⟩
    rw [List.append_nil]
    exact fun sent => Nat.lt_irrefl _ (sound.known _ sent)
  rw [List.append_nil] at goes
  unfold Traffic.enter
  rw [if_pos shut]
  exact goes

/-- A flush finds the flag unset. -/
theorem letThrough {index : Nat} (here : span.traffic.calls[index]? = some (.flush, .fresh))
    (unset : reader.isShutdown = false) :
    Sound id exporter source first reader worker target
      { traffic := span.traffic.enter id index .flush reader
        incidents := span.incidents ++ [.looked index .flush false] } := by
  have same : (∃ winner, .looked winner .shutdown false ∈
      span.incidents ++ [.looked index .flush false]) ↔
        ∃ winner, .looked winner .shutdown false ∈ span.incidents := by
    simp
  have goes := sound.turn .admitted span.traffic.pipeline reader worker target
    [.looked index .flush false] [] here nofun (.refl _) sound.found sound.kind
    sound.leased sound.present (fun _ => rfl) ?thread (sound.flag.trans same.symm) nofun
    ⟨false, List.mem_append_right _ (List.mem_singleton_self _)⟩ ?refused nofun
    (List.append_nil _ ▸ sound.sent)
  case thread =>
    rw [admitted_set .admitted here rfl]
    exact sound.thread.look index .flush (unset ▸ sound.flag)
  case refused =>
    intro other who new
    cases List.mem_singleton.mp new
  rw [List.append_nil] at goes
  unfold Traffic.enter
  rw [unset]
  exact goes

/-- A shutdown finds the flag unset and sets it. -/
theorem win {index : Nat} (here : span.traffic.calls[index]? = some (.shutdown, .fresh))
    (unset : reader.isShutdown = false) :
    Sound id exporter source first { reader with isShutdown := true } worker target
      { traffic := span.traffic.enter id index .shutdown reader
        incidents := span.incidents ++ [.looked index .shutdown false] } := by
  have won : .looked index .shutdown false ∈
      span.incidents ++ [.looked index .shutdown false] :=
    List.mem_append_right _ (List.mem_singleton_self _)
  have goes := sound.turn .admitted
    (span.traffic.pipeline.setReader id { reader with isShutdown := true })
    { reader with isShutdown := true } worker target [.looked index .shutdown false] [] here nofun
    (.refl _)
    (List.getElem?_set_self (List.getElem?_eq_some_iff.mp sound.found).1) sound.kind sound.leased
    sound.present (fun _ => rfl) ?thread ⟨fun _ => ⟨index, won⟩, fun _ => rfl⟩
    (fun _ _ => won) ⟨false, won⟩ ?refused nofun (List.append_nil _ ▸ sound.sent)
  case thread =>
    have looked := sound.thread.look index .shutdown (unset ▸ sound.flag)
    rw [unset] at looked
    rw [admitted_set .admitted here rfl]
    exact looked.admit ⟨index, won⟩
  case refused =>
    intro other who new
    cases List.mem_singleton.mp new
  rw [List.append_nil] at goes
  unfold Traffic.enter
  rw [unset]
  exact goes

theorem enter {index : Nat} {call : ReaderCall}
    (here : span.traffic.calls[index]? = some (call, .fresh)) :
    ∃ later, Sound id exporter source first later worker target
      { traffic := span.traffic.enter id index call reader
        incidents := span.incidents ++ [.looked index call reader.isShutdown] } := by
  cases shut : reader.isShutdown with
  | true => exact ⟨reader, sound.refuse here shut⟩
  | false =>
    cases call with
    | flush => exact ⟨reader, sound.letThrough here shut⟩
    | shutdown => exact ⟨_, sound.win here shut⟩

/-- A call that finds the thread running sends its message. -/
theorem sendAlive {index : Nat} {call : ReaderCall}
    (here : span.traffic.calls[index]? = some (call, .admitted)) (alive : worker.hasEnded = false) :
    ∃ later final, Sound id exporter source first later final target
      { span with traffic := span.traffic.send id index call reader exporter worker } := by
  let token := span.traffic.pipeline.codes.cells.length
  let message := call.message token
  let final := { worker with mailbox := worker.mailbox ++ [message] }
  have same := Reader.setWorker_eq sound.kind final
  have longer := span.traffic.pipeline.codes.length_create .pending
  have closing : Traffic.isClosing (call, .admitted) = message.isShutdown := by cases call <;> rfl
  have unclosed : Traffic.isClosing (call, .returned token) = false := by cases call <;> rfl
  have flag : (reader.setWorker final).isShutdown = reader.isShutdown := by rw [same]
  have goes := sound.turn (.returned token)
    ((span.traffic.pipeline.newCode .pending).1.setReader id (reader.setWorker final))
    (reader.setWorker final) final target [] [message] here admitted_ne_returned
    (.create _ _) (List.getElem?_set_self (List.getElem?_eq_some_iff.mp sound.found).1)
    (by rw [same]) (by rw [same]; exact sound.leased) sound.present
    (fun _ => rfl) ?thread
    (by rw [flag, List.append_nil]; exact sound.flag) nofun
    (by rw [List.append_nil]; exact sound.looks index call _ here nofun) nofun ?tokens ?sent
  case thread =>
    have admitted := Traffic.countP_set here Traffic.isClosing (call, .returned token)
    rw [closing, unclosed, if_neg Bool.false_ne_true, Nat.add_zero] at admitted
    rw [flag, List.append_nil]
    exact Thread.post (admitted ▸ sound.thread)
  case tokens =>
    intro other member
    rw [List.mem_singleton.mp member, ReaderCall.code_message]
    exact ⟨Nat.le_refl _, longer ▸ Nat.lt_succ_self _⟩
  case sent =>
    have messages : final.messages = worker.messages ++ [message] := (List.append_assoc ..).symm
    rw [messages]
    exact List.append_subset.mpr ⟨List.Subset.trans sound.sent (List.subset_append_left _ _),
      List.subset_append_right _ _⟩
  rw [List.append_nil] at goes
  refine ⟨reader.setWorker final, final, ?_⟩
  rw [span.traffic.send_alive_eq id index call reader exporter alive]
  exact goes

/-- A flush that finds no thread fails. -/
theorem sendLost {index : Nat} (here : span.traffic.calls[index]? = some (.flush, .admitted))
    (ended : worker.hasEnded = true) :
    Sound id exporter source first reader worker target
      { span with traffic := span.traffic.send id index .flush reader exporter worker } := by
  let token := span.traffic.pipeline.codes.cells.length
  let after := ((span.traffic.pipeline.newCode .pending).1.note [.flushWithoutThread]).complete
    token (.failed (some Pipeline.noThread))
  have sends : span.traffic.send id index .flush reader exporter worker =
      { span.traffic with pipeline := after }.setStage index .flush (.returned token) := by
    simp [Traffic.send, Pipeline.sendCall, Pipeline.sendFlush, Pipeline.newCode, Codes.create,
      Codes.push, Worker.send?, ended, token, after]
  have goes := sound.turn (.returned token) after reader worker target [] [] here
    admitted_ne_returned ((Lasts.create _ _).trans (.drain _ _)) sound.found sound.kind
    sound.leased sound.present (fun _ => rfl) ?thread
    (by rw [List.append_nil]; exact sound.flag) ?owns ?looks ?refused (List.forall_mem_nil _)
    (List.append_nil _ ▸ sound.sent)
  case thread =>
    rw [admitted_set (.returned token) here rfl, List.append_nil]
    exact sound.thread
  case owns =>
    intro shutdown
    cases shutdown
  case looks =>
    rw [List.append_nil]
    refine sound.looks index .flush _ here fun fresh => ?_
    cases fresh
  case refused => exact fun _ _ new => absurd new List.not_mem_nil
  rw [List.append_nil, List.append_nil] at goes
  rw [sends]
  exact goes

/-- A shutdown that finds no thread shuts the exporter down. -/
theorem sendDirect {index : Nat}
    (here : span.traffic.calls[index]? = some (.shutdown, .admitted))
    (ended : worker.hasEnded = true) :
    (span.traffic.send id index .shutdown reader exporter worker).pipeline.exporters =
        span.traffic.pipeline.exporters.set exporter target.shutdown.1 ∧
      Sound id exporter source first reader worker target.shutdown.1
        { traffic := span.traffic.send id index .shutdown reader exporter worker
          incidents := span.incidents ++ [.called (.caller index) .shutdown] } := by
  let token := span.traffic.pipeline.codes.cells.length
  let noted := (span.traffic.pipeline.newCode .pending).1.note [.shutdownWithoutThread]
  let after := noted.shutdownExporter exporter token
  have sends : span.traffic.send id index .shutdown reader exporter worker =
      { span.traffic with pipeline := after }.setStage index .shutdown (.returned token) := by
    simp [Traffic.send, Pipeline.sendCall, Pipeline.sendShutdown, Pipeline.newCode, Codes.create,
      Codes.push, Worker.send?, ended, token, after, noted]
  have readers : after.readers = span.traffic.pipeline.readers :=
    noted.readers_shutdownExporter exporter token
  have exporters : after.exporters =
      span.traffic.pipeline.exporters.set exporter target.shutdown.1 :=
    exporters_shutdownExporter noted sound.present token
  have own := sound.owns index here
  have none : ∀ winner, .looked winner .shutdown false ∈
      span.incidents ++ [.called (.caller index) .shutdown] ↔
        .looked winner .shutdown false ∈ span.incidents := fun winner => by simp
  have goes := sound.turn (.returned token) after reader worker target.shutdown.1
    [.called (.caller index) .shutdown] [] here admitted_ne_returned
    ((Lasts.create _ _).trans (.shutdownExporter noted exporter token)) (readers ▸ sound.found)
    sound.kind sound.leased (sound.requestsSince_set exporters).1
    (fun request => ?counted) ?thread
    (by simp only [none]; exact sound.flag) (fun _ same => absurd same.symm ?apart)
    ⟨false, List.mem_append_left _ own⟩ ?refused (List.forall_mem_nil _)
    (List.append_nil _ ▸ sound.sent)
  case apart => exact admitted_ne_returned token
  case refused =>
    intro _ _ new
    cases List.mem_singleton.mp new
  case counted =>
    have counted := target.count_ask (.shutdown token) request
    cases request <;> exact counted
  case thread =>
    refine Thread.direct ?_ (by split <;> omega) ended own
    have admitted := Traffic.countP_set here Traffic.isClosing (.shutdown, .returned token)
    exact (show _ + 1 = _ from admitted) ▸ sound.thread
  rw [List.append_nil] at goes
  rw [sends]
  exact ⟨exporters, goes⟩

/-- A call sends its message, or does without the thread. -/
theorem send {index : Nat} {call : ReaderCall}
    (here : span.traffic.calls[index]? = some (call, .admitted)) :
    ∃ later final changed, Sound id exporter source first later final changed
      { traffic := span.traffic.send id index call reader exporter worker
        incidents := span.incidents ++ (span.traffic.pipeline.requestsSince
          (span.traffic.send id index call reader exporter worker).pipeline exporter).map
            (.called (.caller index)) } := by
  cases ended : worker.hasEnded with
  | false =>
    have exporters : (span.traffic.send id index call reader exporter
        worker).pipeline.exporters = span.traffic.pipeline.exporters := by
      rw [span.traffic.send_alive_eq id index call reader exporter ended]
      rfl
    rw [sound.requestsSince_self exporters, List.map_nil, List.append_nil]
    obtain ⟨later, final, sent⟩ := sound.sendAlive here ended
    exact ⟨later, final, target, sent⟩
  | true =>
    cases call with
    | flush =>
      have exporters : (span.traffic.send id index .flush reader exporter
          worker).pipeline.exporters = span.traffic.pipeline.exporters := by
        simp only [Traffic.send, Pipeline.sendCall, Pipeline.sendFlush, Worker.send?, ended,
          if_true]
        rfl
      rw [sound.requestsSince_self exporters, List.map_nil, List.append_nil]
      exact ⟨reader, worker, target, sound.sendLost here ended⟩
    | shutdown =>
      obtain ⟨exporters, told⟩ := sound.sendDirect here ended
      rw [(sound.requestsSince_set exporters).2,
        show target.shutdown.1 = (target.ask (.shutdown 0)).1 from rfl, target.requestsSince_ask]
      exact ⟨reader, worker, target.shutdown.1, told⟩

theorem advance (index : Nat) :
    ∃ later final changed, Sound id exporter source first later final changed
      (span.step id exporter (.go (.advance index))) := by
  have unchanged : span.traffic.pipeline.requestsSince span.traffic.pipeline exporter = [] :=
    sound.requestsSince_self rfl
  cases here : span.traffic.calls[index]? with
  | none =>
    have idle : span.step id exporter (.go (.advance index)) = span := by
      simp [step, react, Traffic.step, Traffic.advance, notices, sound.periodic?, here, unchanged]
    exact ⟨reader, worker, target, idle.symm ▸ sound⟩
  | some entry =>
    obtain ⟨call, stage⟩ := entry
    cases stage with
    | fresh =>
      have exporters : (span.traffic.enter id index call reader).pipeline.exporters =
          span.traffic.pipeline.exporters := by
        unfold Traffic.enter
        split
        next => rfl
        next => cases call <;> rfl
      have steps : span.step id exporter (.go (.advance index)) =
          { traffic := span.traffic.enter id index call reader
            incidents := span.incidents ++ [.looked index call reader.isShutdown] } := by
        simp only [step, react, Traffic.step, Traffic.advance, notices, sound.periodic?, here,
          sound.requestsSince_self exporters, List.map_nil, List.append_nil]
      obtain ⟨later, entered⟩ := sound.enter here
      exact ⟨later, worker, target, steps.symm ▸ entered⟩
    | admitted =>
      have steps : span.step id exporter (.go (.advance index)) =
          { traffic := span.traffic.send id index call reader exporter worker
            incidents := span.incidents ++ (span.traffic.pipeline.requestsSince
              (span.traffic.send id index call reader exporter worker).pipeline exporter).map
                (.called (.caller index)) } := by
        simp only [step, react, Traffic.step, Traffic.advance, notices, sound.periodic?, here,
          List.nil_append, LifespanEvent.party]
      exact steps ▸ sound.send here
    | returned code =>
      have idle : span.step id exporter (.go (.advance index)) = span := by
        simp [step, react, Traffic.step, Traffic.advance, notices, sound.periodic?, here,
          unchanged]
      exact ⟨reader, worker, target, idle.symm ▸ sound⟩

/-- The thread goes on. -/
theorem labour : ∃ later final changed, Sound id exporter source first later final changed
    (span.labour id exporter reader worker) := by
  obtain ⟨changed, final, spares, move⟩ :=
    Pipeline.stepWorker_move sound.found sound.kind sound.present
  obtain ⟨present, requests⟩ := sound.requestsSince_set spares.exporters
  have same := Reader.setWorker_eq sound.kind final
  have flag : (reader.setWorker final).isShutdown = reader.isShutdown := by rw [same]
  have lasts := Lasts.stepWorker span.traffic.pipeline id
  have old : ∀ index call set, Incident.looked index call set ∈
      (span.labour id exporter reader worker).incidents →
        .looked index call set ∈ span.incidents := by
    intro index call set member
    simpa [Lifespan.labour, collects] using member
  refine ⟨reader.setWorker final, final, changed, ?_⟩
  constructor
  case found => exact spares.found sound.found
  case kind => rw [same]
  case leased =>
    rw [same]
    exact sound.leased
  case present => exact present
  case counted =>
    intro request
    have none : (collects reader worker).countP (Incident.isRequest request) = 0 :=
      List.countP_eq_zero.mpr fun incident member => by
        obtain ⟨⟨job, base⟩, _, rfl⟩ := Option.map_eq_some_iff.mp (Option.mem_toList.mp member)
        exact Bool.false_ne_true
    have more := count_le_move move request
    have before := sound.counted request
    have risen := target.countP_requestsSince changed .thread request
    simp only [Lifespan.labour, requests, List.countP_append]
    omega
  case thread =>
    have thread := sound.thread.move sound.leased move
    rw [← requests] at thread
    exact flag.symm ▸ thread
  case flag =>
    rw [flag]
    exact sound.flag.trans
      ⟨Exists.imp fun _ => List.mem_append_left _, Exists.imp fun winner => old winner _ _⟩
  case owns => exact fun index there => List.mem_append_left _ (sound.owns index there)
  case looks =>
    intro index call stage there begun
    obtain ⟨flag, looked⟩ := sound.looks index call stage there begun
    exact ⟨flag, List.mem_append_left _ looked⟩
  case refused =>
    intro index call looked
    obtain ⟨code, returned, _, rest⟩ := sound.refused_lasts lasts (old index call _ looked)
    exact ⟨code, returned, rest⟩
  case known => exact fun code token => Nat.lt_of_lt_of_le (sound.known code token) lasts.longer
  case sent => exact List.Subset.trans move.messages.subset sound.sent

theorem work :
    ∃ later final changed, Sound id exporter source first later final changed
      (span.step id exporter (.go .work)) := by
  have unchanged : span.traffic.pipeline.requestsSince span.traffic.pipeline exporter = [] :=
    sound.requestsSince_self rfl
  cases ready : span.traffic.pipeline.ready? reader with
  | none =>
    have idle : span.step id exporter (.go .work) = span := by
      simp [step, react, Traffic.step, Traffic.work, notices, sound.periodic?, sound.found, ready,
        unchanged]
    exact ⟨reader, worker, target, idle.symm ▸ sound⟩
  | some time =>
    by_cases early : span.traffic.pipeline.time < time
    · have idle : span.step id exporter (.go .work) = span := by
        simp [step, react, Traffic.step, Traffic.work, notices, sound.periodic?, sound.found,
          ready, unchanged, early, Nat.not_le_of_lt early]
      exact ⟨reader, worker, target, idle.symm ▸ sound⟩
    · have steps : span.step id exporter (.go .work) = span.labour id exporter reader worker := by
        simp [step, react, Traffic.step, Traffic.work, notices, sound.periodic?, sound.found,
          ready, early, Nat.le_of_not_lt early, Lifespan.labour, LifespanEvent.party]
      rw [steps]
      exact sound.labour

/-- Events other than those of calls and the thread leave the exporter alone. -/
theorem step_apart {event : LifespanEvent} (after : Pipeline) {later : Reader}
    (quiet : notices span.traffic id event = [])
    (reacts : react span.traffic id event = { span.traffic with pipeline := after })
    (found : after.readers[id]? = some later) (kind : later.kind = reader.kind)
    (lease : later.lease = reader.lease) (flag : later.isShutdown = reader.isShutdown)
    (exporters : after.exporters = span.traffic.pipeline.exporters)
    (lasts : Lasts span.traffic.pipeline.codes after.codes) :
    ∃ later final changed, Sound id exporter source first later final changed
      (span.step id exporter event) := by
  have steps : span.step id exporter event =
      { span with traffic := { span.traffic with pipeline := after } } := by
    simp only [Lifespan.step, quiet, reacts, sound.requestsSince_self exporters, List.map_nil,
      List.append_nil]
  exact ⟨later, worker, target, steps.symm ▸
    sound.goOn found kind lease flag exporters lasts⟩

theorem step (event : LifespanEvent) :
    ∃ later final changed, Sound id exporter source first later final changed
      (span.step id exporter event) := by
  cases event with
  | go event =>
    cases event with
    | advance index => exact sound.advance index
    | work => exact sound.work
    | pass nanos => exact sound.step_apart _ rfl rfl sound.found rfl rfl rfl rfl (.refl _)
    | complete code outcome =>
      by_cases given : code ∈ span.traffic.given
      · exact sound.step_apart (span.traffic.pipeline.complete code outcome) rfl
          (if_pos given) sound.found rfl rfl rfl rfl (.drain _ _)
      · exact sound.step_apart span.traffic.pipeline rfl (if_neg given) sound.found rfl
          rfl rfl rfl (.refl _)
    | change providers => exact sound.step_apart _ rfl rfl sound.found rfl rfl rfl rfl (.refl _)
  | drop =>
    have released : span.traffic.pipeline.releaseReader id =
        span.traffic.pipeline.setReader id { reader with handles := reader.handles - 1 } := by
      simp only [Pipeline.releaseReader, sound.found]
    have there : (span.traffic.pipeline.releaseReader id).readers[id]? =
        some { reader with handles := reader.handles - 1 } := by
      rw [released]
      exact List.getElem?_set_self (List.getElem?_eq_some_iff.mp sound.found).1
    refine sound.step_apart _ rfl rfl there rfl rfl rfl (by rw [released]; rfl) ?_
    rw [released]
    exact .refl _

theorem run (events : List LifespanEvent) :
    ∃ later final changed, Sound id exporter source first later final changed
      (span.run id exporter events) := by
  induction events generalizing span reader worker target with
  | nil => exact ⟨reader, worker, target, sound⟩
  | cons event rest ih =>
    obtain ⟨later, final, changed, next⟩ := sound.step event
    exact ih next

end Sound

/-- Calls on a reader that begin now. -/
def begin (pipeline : Pipeline) (calls : List ReaderCall) : Lifespan :=
  { traffic := .begin pipeline calls }

theorem Sound.begin {pipeline : Pipeline} {id exporter : Nat} {reader : Reader} {worker : Worker}
    {target : Exporter} (found : pipeline.periodic? id = some (reader, exporter, worker))
    (idle : worker.messages = []) (running : reader.isShutdown = false)
    (present : pipeline.exporters[exporter]? = some target) (calls : List ReaderCall) :
    Sound id exporter reader.lease target reader worker target (.begin pipeline calls) := by
  obtain ⟨there, kind⟩ := Pipeline.of_periodic? found
  have none : (Lifespan.begin pipeline calls).traffic.calls.countP Traffic.isClosing = 0 := by
    refine List.countP_eq_zero.mpr fun entry member => ?_
    obtain ⟨call, _, rfl⟩ := List.mem_map.mp member
    cases call <;> exact Bool.false_ne_true
  have fresh : ∀ (index : Nat) call stage,
      (Lifespan.begin pipeline calls).traffic.calls[index]? = some (call, stage) →
        stage = .fresh := by
    intro index call stage here
    obtain ⟨_, _, same⟩ := List.mem_map.mp (List.mem_of_getElem? here)
    cases same
    rfl
  constructor
  case found => exact there
  case kind => exact kind
  case leased => rfl
  case present => exact present
  case counted => exact fun _ => rfl
  case thread =>
    rw [none, running]
    exact .begin idle
  case flag =>
    rw [running]
    exact ⟨nofun, fun ⟨_, looked⟩ => nomatch looked⟩
  case owns => exact fun index there => by cases fresh index _ _ there
  case looks =>
    exact fun index call stage there begun => absurd (fresh index call stage there) begun
  case refused => exact nofun
  case known => exact nofun
  case sent =>
    rw [idle]
    exact List.nil_subset _

/-- What the calls on a reader and its thread have done to the exporter, which was `first` at the
beginning. -/
structure ShutDownOnce (id exporter : Nat) (source : Option Lease) (first : Exporter)
    (span : Lifespan) : Prop where
  /-- The incidents show every call that the exporter has counted. -/
  counted : ∃ target, span.traffic.pipeline.exporters[exporter]? = some target ∧
    ∀ request, target.count request =
      first.count request + span.incidents.countP (Incident.isRequest request)
  once : span.incidents.countP (Incident.isRequest .shutdown) ≤ 1
  /-- A shutdown that has won the flag stands before it, and no call behind it. The thread makes it
  after a final collection. -/
  closings : ∀ before after party, span.incidents = before ++ .called party .shutdown :: after →
    Closing source party before after
  final : span.incidents.countP Incident.isFinal ≤ 1
  /-- A call finds the flag set if a shutdown has found it unset before. -/
  flags : ∀ before after index call flag,
    span.incidents = before ++ .looked index call flag :: after →
      (flag = true ↔ ∃ winner, .looked winner .shutdown false ∈ before)
  looks : ∀ (index : Nat) call stage, span.traffic.calls[index]? = some (call, stage) →
    stage ≠ .fresh → ∃ flag, .looked index call flag ∈ span.incidents
  /-- A call that finds the flag set fails, and its code is that of no message. -/
  refused : ∀ index call, .looked index call true ∈ span.incidents →
    ∃ code, span.traffic.calls[index]? = some (call, .returned code) ∧
      span.traffic.pipeline.codes.outcome code = .failed (some .alreadyShutdown) ∧
      code ∉ span.traffic.tokens
  sent : ∀ reader target worker,
    span.traffic.pipeline.periodic? id = some (reader, target, worker) →
      worker.messages ⊆ span.traffic.sent
  /-- The thread collects just when it is said to. -/
  gathers : ∀ reader target worker,
    span.traffic.pipeline.periodic? id = some (reader, target, worker) →
      (span.traffic.pipeline.stepWorker id).providers =
        if collects reader worker = [] then span.traffic.pipeline.providers
        else (span.traffic.pipeline.gathered reader.lease).providers

theorem Sound.shutDownOnce {id exporter : Nat} {source : Option Lease} {first : Exporter}
    {reader : Reader} {worker : Worker} {target : Exporter} {span : Lifespan}
    (sound : Sound id exporter source first reader worker target span) :
    ShutDownOnce id exporter source first span := by
  have single : (if reader.isShutdown then 1 else 0) ≤ 1 := by split <;> omega
  have same : ∀ other number final,
      span.traffic.pipeline.periodic? id = some (other, number, final) →
        other = reader ∧ final = worker := fun other number final found => by
    cases sound.periodic?.symm.trans found
    exact ⟨rfl, rfl⟩
  constructor
  case counted => exact ⟨target, sound.present, sound.counted⟩
  case once =>
    have once := sound.thread.once
    rw [closes] at once
    omega
  case closings => exact sound.thread.orderly.closings
  case final =>
    have final := sound.thread.final
    rw [finals] at final
    omega
  case flags => exact sound.thread.orderly.flags
  case looks => exact sound.looks
  case refused =>
    intro index call looked
    obtain ⟨code, returned, _, outcome, unsent⟩ := sound.refused index call looked
    exact ⟨code, returned, outcome, unsent⟩
  case sent =>
    intro other number final found
    obtain ⟨rfl, rfl⟩ := same other number final found
    exact sound.sent
  case gathers =>
    intro other number final found
    obtain ⟨rfl, rfl⟩ := same other number final found
    obtain ⟨changed, later, _, move⟩ :=
      Pipeline.stepWorker_move sound.found sound.kind sound.present
    exact providers_move move

/-- Whatever calls on a reader take turns with its thread, which may end inside the exporter or when
all handles are dropped: the exporter is shut down at most once, by leave of the flag, and gets no
further call from the reader. A call that finds the flag set fails and sends nothing. -/
theorem exporter_shut_down_once (pipeline : Pipeline) (id exporter : Nat) (reader : Reader)
    (worker : Worker) (target : Exporter) (calls : List ReaderCall) (events : List LifespanEvent)
    (found : pipeline.periodic? id = some (reader, exporter, worker))
    (idle : worker.messages = []) (running : reader.isShutdown = false)
    (present : pipeline.exporters[exporter]? = some target) :
    ShutDownOnce id exporter reader.lease target
      ((begin pipeline calls).run id exporter events) := by
  obtain ⟨_, _, _, sound⟩ := (Sound.begin found idle running present calls).run events
  exact sound.shutDownOnce

/-- A flush has the exporter called, which ends the thread. The shutdown after that shuts the
exporter down itself; a flush that comes later is refused. -/
theorem exporter_shut_down_once_crashed :
    let built := ((((Pipeline.start 0).addExporter
      { kind := .scripted [.crash] (.code .succeeded) (.code .succeeded) }).1.addPeriodic 0
        (.ofSettings none none)).1.build {} [(0, false)]).1
    let metered := built.meter 0 ⟨"test", none, none, []⟩ true
    let counter := metered.1.instrument 0 metered.2 ⟨.counter, .unsigned, "requests", none, none⟩ []
    let pipeline := counter.1.record 0 metered.2 counter.2 (.integer 5) []
    let events : List LifespanEvent :=
      [.go (.advance 0), .go (.advance 0), .go .work, .drop, .go (.advance 1), .go (.advance 1),
        .go (.advance 2)]
    let span := (begin pipeline [.flush, .shutdown, .flush]).run 0 0 events
    ShutDownOnce 0 0 (some ⟨0, 0⟩)
        { kind := .scripted [.crash] (.code .succeeded) (.code .succeeded) } span ∧
      span.incidents = [.looked 0 .flush false, .collected (.flush 0) (some ⟨0, 0⟩),
        .called .thread .accept, .looked 1 .shutdown false, .called (.caller 1) .shutdown,
        .looked 2 .flush true] := by
  intro built metered counter pipeline events span
  let worker : Worker := .create (.ofSettings none none) 0
  let reader : Reader := { kind := .periodic 0 worker, handles := 2, lease := some ⟨0, 0⟩ }
  have found : pipeline.periodic? 0 = some (reader, 0, worker) := rfl
  have once := exporter_shut_down_once pipeline 0 0 reader worker
    { kind := .scripted [.crash] (.code .succeeded) (.code .succeeded) } [.flush, .shutdown, .flush]
    events found rfl rfl rfl
  exact ⟨once, by decide +kernel⟩

/-- The thread handles a shutdown that came behind a flush. -/
example :
    let pipeline := ((((Pipeline.start 0).addExporter { kind := .memory }).1.addPeriodic 0
      (.ofSettings none none)).1.build {} [(0, false)]).1
    ((begin pipeline [.flush, .shutdown]).run 0 0 [.go (.advance 0), .go (.advance 1),
        .go (.advance 0), .go (.advance 1), .go .work, .go .work]).incidents =
      [.looked 0 .flush false, .looked 1 .shutdown false, .collected (.flush 0) (some ⟨0, 0⟩),
        .called .thread .flush, .collected (.shutdown 1) (some ⟨0, 0⟩),
        .called .thread .shutdown] := by
  decide +kernel

end Lifespan

end Metering
