import Metering.Proofs.Pipeline.Broadcast

/-!
What flushes and shutdowns make of a pipeline. A call puts messages with new codes behind those in
the mailboxes of threads, sets flags, and may shut an exporter down; it neither touches what has
been measured nor hands a report over, and it completes no code that was there.
-/

namespace Metering

open Completion

theorem Worker.send_eq {worker later : Worker} {message : Message}
    (sent : worker.send? message = some later) :
    later = { worker with mailbox := worker.mailbox ++ [message] } := by
  unfold send? at sent
  split at sent
  next => cases sent
  next => exact (Option.some.inj sent).symm

namespace Pipeline

/-- How a pipeline goes on while exporters, readers and providers are only told things: what has
been measured stays, and mailboxes get messages with new codes. -/
structure Leaves (before after : Pipeline) : Prop where
  cells : after.cells = before.cells
  providers : ∀ (id : Nat) provider, before.providers[id]? = some provider →
    ∃ isShutdown, after.providers[id]? = some { provider with isShutdown }
  exporters : ∀ (id : Nat) target, before.exporters[id]? = some target →
    ∃ shutdowns isShutdown, after.exporters[id]? = some { target with shutdowns, isShutdown }
  longer : before.codes.cells.length ≤ after.codes.cells.length
  readers : ∀ id reader exporter worker, before.periodic? id = some (reader, exporter, worker) →
    ∃ later more, after.periodic? id =
      some (later, exporter, { worker with mailbox := worker.mailbox ++ more }) ∧
        later.lease = reader.lease ∧
        ∀ message ∈ more, before.codes.cells.length ≤ message.code

/-- How codes go on while none of those that are there is completed, nor given to a reader. -/
structure Grows (before after : Pipeline) : Prop where
  closed : after.Closed
  abides : ∀ aim, before.codes.Abides after.codes aim
  former : ∀ (id : Nat) later code, after.readers[id]? = some later → code ∈ later.codes →
    code < before.codes.cells.length →
      ∃ reader, before.readers[id]? = some reader ∧ code ∈ reader.codes

/-- What calls make of a pipeline. -/
structure Called (before after : Pipeline) : Prop extends before.Leaves after where
  grows : before.Closed → before.Grows after

theorem Leaves.of_eq {before after : Pipeline} (cells : after.cells = before.cells)
    (providers : after.providers = before.providers)
    (exporters : after.exporters = before.exporters) (readers : after.readers = before.readers)
    (longer : before.codes.cells.length ≤ after.codes.cells.length) : before.Leaves after where
  cells := cells
  providers := fun _ provider found => ⟨provider.isShutdown, providers ▸ found⟩
  exporters := fun _ target found => ⟨target.shutdowns, target.isShutdown, exporters ▸ found⟩
  longer := longer
  readers := fun id reader exporter worker found => by
    have same : after.periodic? id = before.periodic? id := periodic?_congr (by rw [readers])
    exact ⟨reader, [], by rw [List.append_nil, same, found], rfl, List.forall_mem_nil _⟩

theorem Leaves.trans {first second third : Pipeline} (begins : first.Leaves second)
    (ends : second.Leaves third) : first.Leaves third where
  cells := ends.cells.trans begins.cells
  providers := fun id provider found => by
    obtain ⟨_, there⟩ := begins.providers id provider found
    obtain ⟨flag, later⟩ := ends.providers id _ there
    exact ⟨flag, later⟩
  exporters := fun id target found => by
    obtain ⟨_, _, there⟩ := begins.exporters id target found
    obtain ⟨count, flag, later⟩ := ends.exporters id _ there
    exact ⟨count, flag, later⟩
  longer := Nat.le_trans begins.longer ends.longer
  readers := fun id reader exporter worker found => by
    obtain ⟨middle, early, there, lease, old⟩ := begins.readers id reader exporter worker found
    obtain ⟨later, more, after, same, new⟩ := ends.readers id middle exporter _ there
    refine ⟨later, early ++ more, by rw [after, List.append_assoc], same.trans lease, ?_⟩
    intro message member
    rcases List.mem_append.mp member with before | behind
    · exact old message before
    · exact Nat.le_trans begins.longer (new message behind)

theorem Grows.trans {first second third : Pipeline} (begins : first.Grows second)
    (ends : second.Grows third) : first.Grows third where
  closed := ends.closed
  abides := fun aim => (begins.abides aim).trans (ends.abides aim)
  former := fun id later code found held inside => by
    have longer := (begins.abides code).longer
    obtain ⟨middle, there, kept⟩ :=
      ends.former id later code found held (Nat.lt_of_lt_of_le inside longer)
    exact begins.former id middle code there kept inside

/-- Codes are added, and at most new ones are completed. -/
theorem Grows.of_codes {before after : Pipeline} {aim : CodeId} (closed : before.Closed)
    (readers : after.readers = before.readers) (abides : before.codes.Abides after.codes aim)
    (fresh : before.codes.cells.length ≤ aim) : before.Grows after where
  closed := by
    refine ⟨abides.closed, fun code member => ?_⟩
    have held : after.held = before.held := by rw [held, readers, held]
    exact Nat.lt_of_lt_of_le (closed.held code (held ▸ member)) abides.longer
  abides := abides.of_fresh fresh
  former := fun _ later _ found held _ => ⟨later, readers ▸ found, held⟩

/-- A reader holds what it held, but for new codes. -/
theorem Grows.of_reader {before after : Pipeline} {id : Nat} {reader later : Reader}
    (found : before.readers[id]? = some reader) (closed : after.Closed)
    (abides : ∀ aim, before.codes.Abides after.codes aim)
    (readers : after.readers = before.readers.set id later)
    (codes : ∀ code ∈ later.codes, code ∈ reader.codes ∨ before.codes.cells.length ≤ code) :
    before.Grows after where
  closed := closed
  abides := abides
  former := fun other holder code here held inside => by
    rw [readers] at here
    by_cases same : other = id
    · subst same
      rw [List.getElem?_set_self (List.getElem?_eq_some_iff.mp found).1] at here
      cases here
      exact ⟨reader, found, (codes code held).resolve_right (Nat.not_le_of_lt inside)⟩
    · rw [List.getElem?_set_ne (Ne.symm same)] at here
      exact ⟨holder, here, held⟩

theorem Grows.held {before after : Pipeline} (grows : before.Grows after) {code : CodeId}
    (member : code ∈ after.held) : code ∈ before.held ∨ before.codes.cells.length ≤ code := by
  obtain ⟨later, listed, held⟩ := List.mem_flatMap.mp member
  obtain ⟨id, inside, rfl⟩ := List.mem_iff_getElem.mp listed
  refine (Nat.lt_or_ge code before.codes.cells.length).imp_left fun old => ?_
  obtain ⟨reader, found, kept⟩ :=
    grows.former id _ code (List.getElem?_eq_getElem inside) held old
  exact List.mem_flatMap.mpr ⟨reader, List.mem_of_getElem? found, kept⟩

theorem Called.trans {first second third : Pipeline} (begins : first.Called second)
    (ends : second.Called third) : first.Called third :=
  ⟨begins.toLeaves.trans ends.toLeaves, fun closed =>
    (begins.grows closed).trans (ends.grows (begins.grows closed).closed)⟩

/-- Only codes change, and none of those that were there is completed. -/
theorem Called.of_codes {before after : Pipeline} (cells : after.cells = before.cells)
    (providers : after.providers = before.providers)
    (exporters : after.exporters = before.exporters) (readers : after.readers = before.readers)
    (longer : before.codes.cells.length ≤ after.codes.cells.length)
    (abides : before.Closed → ∃ aim, before.codes.cells.length ≤ aim ∧
      before.codes.Abides after.codes aim) : before.Called after :=
  ⟨.of_eq cells providers exporters readers longer, fun closed => by
    obtain ⟨_, fresh, abides⟩ := abides closed
    exact .of_codes closed readers abides fresh⟩

theorem Called.of_eq {before after : Pipeline} (cells : after.cells = before.cells)
    (providers : after.providers = before.providers)
    (exporters : after.exporters = before.exporters) (readers : after.readers = before.readers)
    (codes : after.codes = before.codes) : before.Called after :=
  .of_codes cells providers exporters readers (Nat.le_of_eq (by rw [codes])) fun closed =>
    ⟨_, Nat.le_refl _, codes ▸ .refl closed.codes _⟩

theorem Called.refl (pipeline : Pipeline) : pipeline.Called pipeline := .of_eq rfl rfl rfl rfl rfl

theorem called_newCode (pipeline : Pipeline) (outcome : Outcome) :
    pipeline.Called (pipeline.newCode outcome).1 :=
  .of_codes rfl rfl rfl rfl (pipeline.codes.length_create outcome ▸ Nat.le_succ _) fun closed =>
    ⟨_, Nat.le_refl _, .create closed.codes outcome _⟩

theorem inside_newCode (pipeline : Pipeline) (outcome : Outcome) :
    (pipeline.newCode outcome).2 < (pipeline.newCode outcome).1.codes.cells.length :=
  pipeline.codes.length_create outcome ▸ Nat.lt_succ_self _

section Reader

variable {pipeline : Pipeline} {id : Nat} {reader : Reader}
  (found : pipeline.readers[id]? = some reader)

include found

theorem leaves_setReader {later : Reader} {codes : Codes}
    (longer : pipeline.codes.cells.length ≤ codes.cells.length)
    (kept : ∀ exporter worker, reader.kind = .periodic exporter worker →
      later.lease = reader.lease ∧ ∃ more,
        later.kind = .periodic exporter { worker with mailbox := worker.mailbox ++ more } ∧
          ∀ message ∈ more, pipeline.codes.cells.length ≤ message.code) :
    pipeline.Leaves { pipeline with codes, readers := pipeline.readers.set id later } := by
  refine ⟨rfl, fun _ provider there => ⟨provider.isShutdown, there⟩,
    fun _ target there => ⟨target.shutdowns, target.isShutdown, there⟩, longer, ?_⟩
  intro other holder exporter worker there
  obtain ⟨present, kind⟩ := of_periodic? there
  by_cases same : other = id
  · subst same
    cases found.symm.trans present
    obtain ⟨lease, more, changed, fresh⟩ := kept exporter worker kind
    have inside := (List.getElem?_eq_some_iff.mp found).1
    exact ⟨later, more, periodic?_of (List.getElem?_set_self inside) changed, lease, fresh⟩
  · have apart : (pipeline.readers.set id later)[other]? = pipeline.readers[other]? :=
      List.getElem?_set_ne (Ne.symm same)
    refine ⟨holder, [], ?_, rfl, List.forall_mem_nil _⟩
    rw [List.append_nil]
    exact (periodic?_congr apart).trans there

/-- A reader is flagged or counted on. -/
theorem called_setReader {later : Reader} (codes : later.codes = reader.codes)
    (kept : ∀ exporter worker, reader.kind = .periodic exporter worker →
      later.lease = reader.lease ∧ later.kind = reader.kind) :
    pipeline.Called (pipeline.setReader id later) := by
  refine ⟨leaves_setReader found (Nat.le_refl _) fun exporter worker kind => ?_, fun closed => ?_⟩
  · obtain ⟨lease, same⟩ := kept exporter worker kind
    exact ⟨lease, [], by rw [List.append_nil, same, kind], List.forall_mem_nil _⟩
  · have held : (pipeline.setReader id later).held ⊆ pipeline.held :=
      held_set found rfl (codes ▸ List.Subset.refl _)
    exact .of_reader found ⟨closed.codes, fun code member => closed.held code (held member)⟩
      (.refl closed.codes) rfl fun code member => .inl (codes ▸ member)

variable {exporter : Nat} {worker : Worker} (kind : reader.kind = .periodic exporter worker)

include kind

/-- A thread is sent a message with a new code. -/
theorem called_posted {later : Worker} {message : Message}
    (code : message.code = pipeline.codes.cells.length)
    (sent : worker.send? message = some later) :
    pipeline.Called (pipeline.posted id (reader.setWorker later)) := by
  have changed : (reader.setWorker later).kind =
      .periodic exporter { worker with mailbox := worker.mailbox ++ [message] } := by
    rw [Reader.setWorker_eq kind, Worker.send_eq sent]
  have codes : (reader.setWorker later).codes =
      reader.codes ++ [pipeline.codes.cells.length] := by
    rw [Reader.codes_setWorker kind, Worker.messages_send sent, List.map_append, ← code]
    simp only [Reader.codes, kind, List.map_singleton]
  refine ⟨leaves_setReader found ?longer fun _ _ same => ?kept, fun closed => ?grows⟩
  case longer => exact pipeline.codes.length_create .pending ▸ Nat.le_succ _
  case kept =>
    cases kind.symm.trans same
    have lease : (reader.setWorker later).lease = reader.lease := by rw [Reader.setWorker_eq kind]
    refine ⟨lease, _, changed, ?_⟩
    exact fun message member => List.mem_singleton.mp member ▸ Nat.le_of_eq code.symm
  case grows =>
    refine .of_reader found (closed.posted found codes) (.create closed.codes .pending) rfl ?_
    intro code member
    rw [codes] at member
    exact (List.mem_append.mp member).imp_right fun new =>
      Nat.le_of_eq (List.mem_singleton.mp new).symm

theorem called_sendFlush : pipeline.Called (pipeline.sendFlush id reader worker).1 := by
  unfold sendFlush
  dsimp only
  split
  next later sent => exact called_posted found kind rfl sent
  next =>
    have longer := pipeline.codes.length_create .pending
    refine .of_codes rfl rfl rfl rfl ?_ fun closed => ⟨_, Nat.le_refl _, ?_⟩
    · exact Nat.le_trans (longer ▸ Nat.le_succ _) (Codes.length_le_drain _ _)
    · exact (Codes.Abides.create closed.codes .pending _).trans
        (.settle (closed.codes.create .pending) (longer ▸ Nat.lt_succ_self _) _)

end Reader

theorem called_flushReader (pipeline : Pipeline) (id : Nat) :
    pipeline.Called (pipeline.flushReader id).1 := by
  unfold flushReader
  split
  next => exact pipeline.called_newCode _
  next reader found =>
    split
    next => exact pipeline.called_newCode _
    next preference code flushes shutdowns kind =>
      refine (called_setReader found ?_ fun _ _ same => ?_).trans (called_newCode _ _)
      · simp only [Reader.codes, kind]
      · cases kind.symm.trans same
    next exporter worker kind =>
      split
      next => exact called_sendFlush found kind
      next => exact pipeline.called_newCode _

theorem inside_flushReader (pipeline : Pipeline) (id : Nat) :
    (pipeline.flushReader id).2 < (pipeline.flushReader id).1.codes.cells.length := by
  unfold flushReader
  split
  next => exact pipeline.inside_newCode _
  next reader found =>
    split
    next => exact pipeline.inside_newCode _
    next => exact inside_newCode _ _
    next exporter worker kind =>
      split
      next =>
        unfold sendFlush
        dsimp only
        split
        next => exact pipeline.inside_newCode _
        next =>
          exact Nat.lt_of_lt_of_le (pipeline.inside_newCode .pending) (Codes.length_le_drain _ _)
      next => exact pipeline.inside_newCode _

theorem leaves_shutdownExporter (pipeline : Pipeline) (exporter : Nat) (code : CodeId) :
    pipeline.Leaves (pipeline.shutdownExporter exporter code) := by
  unfold shutdownExporter
  split
  next => exact .of_eq rfl rfl rfl rfl (Nat.le_refl _)
  next target found =>
    have stored : pipeline.Leaves (pipeline.setExporter exporter target.shutdown.1) := by
      refine ⟨rfl, fun _ provider there => ⟨provider.isShutdown, there⟩, ?_, Nat.le_refl _,
        fun _ reader _ worker there =>
          ⟨reader, [], by rw [List.append_nil]; exact there, rfl, List.forall_mem_nil _⟩⟩
      intro other present there
      by_cases same : other = exporter
      · subst same
        cases found.symm.trans there
        exact ⟨_, _, List.getElem?_set_self (List.getElem?_eq_some_iff.mp found).1⟩
      · exact ⟨present.shutdowns, present.isShutdown,
          (List.getElem?_set_ne (Ne.symm same)).trans there⟩
    refine stored.trans ?_
    dsimp only
    split
    next outcome _ =>
      exact .of_eq rfl rfl rfl rfl (Nat.le_trans
        (pipeline.codes.length_create outcome ▸ Nat.le_succ _) (Codes.length_le_drain _ _))
    next => exact .of_eq rfl rfl rfl rfl (Codes.length_le_drain _ _)
    next => exact .of_eq rfl rfl rfl rfl (Nat.le_refl _)

/-- Shutting an exporter down on the caller's own thread completes the code of the call only. -/
theorem abides_shutdownExporter (pipeline : Pipeline) (exporter : Nat) {code : CodeId}
    (closed : pipeline.codes.Closed) (inside : code < pipeline.codes.cells.length) :
    pipeline.codes.Abides (pipeline.shutdownExporter exporter code).codes code := by
  unfold shutdownExporter
  split
  next => exact .refl closed code
  next target found =>
    dsimp only
    split
    next outcome _ =>
      have longer := pipeline.codes.length_create outcome
      refine (Codes.Abides.create closed outcome code).trans
        (.forwardTo (closed.create outcome) ?_ ?_)
      · exact longer ▸ Nat.lt_succ_self _
      · exact longer ▸ Nat.lt_succ_of_lt inside
    next => exact .settle closed inside .succeeded
    next => exact .refl closed code

theorem called_sendShutdown {pipeline : Pipeline} {id exporter : Nat} {reader : Reader}
    {worker : Worker} (found : pipeline.readers[id]? = some reader)
    (kind : reader.kind = .periodic exporter worker) :
    pipeline.Called (pipeline.sendShutdown id reader exporter worker).1 := by
  unfold sendShutdown
  dsimp only
  split
  next later sent => exact called_posted found kind rfl sent
  next =>
    have noted : pipeline.Leaves ((pipeline.newCode .pending).1.note [.shutdownWithoutThread]) :=
      (pipeline.called_newCode .pending).toLeaves.trans (.of_eq rfl rfl rfl rfl (Nat.le_refl _))
    refine ⟨noted.trans (leaves_shutdownExporter _ _ _), fun closed => ?_⟩
    have abides := abides_shutdownExporter ((pipeline.newCode .pending).1.note
      [.shutdownWithoutThread]) exporter (closed.codes.create .pending)
      (pipeline.inside_newCode .pending)
    exact .of_codes closed (readers_shutdownExporter _ exporter _)
      ((Codes.Abides.create closed.codes .pending _).trans abides) (Nat.le_refl _)

theorem called_shutdownReader (pipeline : Pipeline) (id : Nat) :
    pipeline.Called (pipeline.shutdownReader id).1 := by
  unfold shutdownReader
  split
  next => exact pipeline.called_newCode _
  next reader found =>
    split
    next preference code flushes shutdowns kind =>
      have counted : pipeline.Called (pipeline.setReader id { reader with
          kind := .counting preference code flushes (shutdowns + 1) }) := by
        refine called_setReader found ?_ fun _ _ same => ?_
        · simp only [Reader.codes, kind]
        · cases kind.symm.trans same
      split
      next => exact counted
      next => exact counted.trans (called_newCode _ _)
    next preference kind =>
      split
      next => exact pipeline.called_newCode _
      next =>
        have released : pipeline.Called (pipeline.setReader id
            { reader with isShutdown := true, lease := none }) :=
          called_setReader found rfl fun _ _ same => by cases kind.symm.trans same
        exact released.trans (called_newCode _ _)
    next exporter worker kind =>
      split
      next => exact pipeline.called_newCode _
      next =>
        have flagged : pipeline.Called (pipeline.setReader id { reader with isShutdown := true }) :=
          called_setReader found rfl fun _ _ _ => ⟨rfl, rfl⟩
        have there : (pipeline.setReader id { reader with isShutdown := true }).readers[id]? =
            some { reader with isShutdown := true } :=
          List.getElem?_set_self (List.getElem?_eq_some_iff.mp found).1
        exact flagged.trans (called_sendShutdown there kind)

theorem called_request (call : ReaderCall) (pipeline : Pipeline) (binding : Binding) :
    pipeline.Called (call.request pipeline binding).1 := by
  cases call with
  | flush => exact pipeline.called_flushReader binding.reader
  | shutdown =>
    simp only [ReaderCall.request, shutdownBinding]
    split
    next => exact pipeline.called_newCode _
    next => exact pipeline.called_shutdownReader binding.reader

theorem inside_request (call : ReaderCall) {pipeline : Pipeline} (closed : pipeline.Closed)
    (binding : Binding) :
    (call.request pipeline binding).2 < (call.request pipeline binding).1.codes.cells.length := by
  cases call with
  | flush => exact pipeline.inside_flushReader binding.reader
  | shutdown => exact (asked_shutdownBinding closed binding).inside

/-- Readers are asked one after the other. -/
theorem called_requestAll (call : ReaderCall) (pipeline : Pipeline) (bindings : List Binding) :
    pipeline.Called (requestAll call.request pipeline bindings).1 := by
  induction bindings generalizing pipeline with
  | nil => exact .refl pipeline
  | cons binding rest ih => exact (called_request call pipeline binding).trans (ih _)

theorem inside_requestAll (call : ReaderCall) {pipeline : Pipeline} (closed : pipeline.Closed)
    (bindings : List Binding) : ∀ code ∈ (requestAll call.request pipeline bindings).2,
      code < (requestAll call.request pipeline bindings).1.codes.cells.length := by
  induction bindings generalizing pipeline with
  | nil => exact List.forall_mem_nil _
  | cons binding rest ih =>
    have told := called_request call pipeline binding
    refine List.forall_mem_cons.mpr ⟨?_, ih (told.grows closed).closed⟩
    exact Nat.lt_of_lt_of_le (inside_request call closed binding)
      (called_requestAll call _ rest).longer

theorem called_setProvider {pipeline : Pipeline} {id : Nat} {target : Provider}
    (found : pipeline.providers[id]? = some target) :
    pipeline.Called (pipeline.setProvider id { target with isShutdown := true }) := by
  refine ⟨⟨rfl, ?_, fun _ target there => ⟨target.shutdowns, target.isShutdown, there⟩,
    Nat.le_refl _, fun _ reader _ worker there =>
      ⟨reader, [], by rw [List.append_nil]; exact there, rfl, List.forall_mem_nil _⟩⟩,
    fun closed => .of_codes closed rfl (.refl closed.codes _) (Nat.le_refl _)⟩
  intro other present there
  by_cases same : other = id
  · subst same
    cases found.symm.trans there
    exact ⟨true, List.getElem?_set_self (List.getElem?_eq_some_iff.mp found).1⟩
  · exact ⟨present.isShutdown, (List.getElem?_set_ne (Ne.symm same)).trans there⟩

theorem called_broadcast (call : ReaderCall) (pipeline : Pipeline) (bindings : List Binding) :
    pipeline.Called (pipeline.broadcast bindings call.request).1 := by
  have told := called_requestAll call pipeline bindings
  have gathered : (requestAll call.request pipeline bindings).1.Leaves
      (pipeline.broadcast bindings call.request).1 :=
    .of_eq rfl rfl rfl rfl (Nat.le_of_lt (Codes.length_lt_allOf _ _))
  refine ⟨told.toLeaves.trans gathered, fun closed => ?_⟩
  have grows := told.grows closed
  exact grows.trans (.of_codes grows.closed rfl
    (.allOf grows.closed.codes (inside_requestAll call closed bindings) _) (Nat.le_refl _))

theorem called_tell (pipeline : Pipeline) (provider : Nat) (call : ReaderCall) :
    pipeline.Called (pipeline.tell provider call).1 := by
  cases call with
  | flush =>
    simp only [tell, flush]
    split
    next => exact pipeline.called_newCode _
    next target _ => exact pipeline.called_broadcast .flush target.bindings
  | shutdown =>
    have noted : pipeline.Called (pipeline.note [.shutdownRequested]) :=
      .of_eq rfl rfl rfl rfl rfl
    simp only [tell, shutdown, shutdownOnce]
    split
    next => exact noted.trans (called_newCode _ _)
    next target found =>
      split
      next =>
        have repeated : pipeline.Called
            ((pipeline.note [.shutdownRequested]).note [.shutdownRepeated]) :=
          .of_eq rfl rfl rfl rfl rfl
        exact repeated.trans (called_newCode _ _)
      next =>
        exact noted.trans ((called_setProvider found).trans
          (called_broadcast .shutdown _ target.bindings))

theorem Equipped.leaves {before after : Pipeline} {id : Nat} {limit : Span}
    (equipped : before.Equipped id limit) (leaves : before.Leaves after) :
    after.Equipped id limit := by
  obtain ⟨reader, exporter, worker, found, present, timed⟩ := equipped
  obtain ⟨later, more, there, _, _⟩ := leaves.readers id reader exporter worker found
  obtain ⟨_, _, target⟩ := leaves.exporters exporter _ (List.getElem?_eq_getElem present)
  exact ⟨later, exporter, _, there, (List.getElem?_eq_some_iff.mp target).1, timed⟩

/-- The work of a thread leaves the other readers as they are. -/
theorem periodic?_stepWorker (pipeline : Pipeline) {id other : Nat} (apart : other ≠ id) :
    (pipeline.stepWorker id).periodic? other = pipeline.periodic? other := by
  cases periodic : pipeline.periodic? id with
  | none =>
    have same : pipeline.stepWorker id = pipeline := by
      simp only [stepWorker]
      split
      next => rfl
      next reader here =>
        split
        next exporter worker kind => cases periodic.symm.trans (periodic?_of here kind)
        next => rfl
    rw [same]
  | some entry =>
    obtain ⟨here, kind⟩ := of_periodic? periodic
    obtain ⟨later, readers, _⟩ := readers_stepWorker here kind
    refine periodic?_congr ?_
    rw [readers, List.getElem?_set_ne (Ne.symm apart)]

theorem Equipped.stepWorker {pipeline : Pipeline} {other : Nat} {limit : Span}
    (equipped : pipeline.Equipped other limit) (id : Nat) :
    (pipeline.stepWorker id).Equipped other limit := by
  obtain ⟨reader, exporter, worker, found, present, timed⟩ := equipped
  have target := List.getElem?_eq_getElem present
  obtain ⟨_, there, _⟩ := (pipeline.kept_stepWorker id).exporters exporter _ target
  have still := (List.getElem?_eq_some_iff.mp there).1
  by_cases same : other = id
  · subst same
    obtain ⟨here, kind⟩ := of_periodic? found
    obtain ⟨changed, later, spares, move⟩ := stepWorker_move here kind target
    exact ⟨_, _, later, spares.periodic? here kind, still, move.mailbox.1.trans timed⟩
  · exact ⟨reader, exporter, worker, (pipeline.periodic?_stepWorker same).trans found, still,
      timed⟩

/-- Whether a reader is to take the next message: it is held and has not been shut down, and its
thread is running, without a message to shut down and for an exporter that answers its calls. -/
structure Willing (pipeline : Pipeline) (id : Nat) (reader : Reader) (exporter : Nat)
    (worker : Worker) : Prop where
  found : pipeline.periodic? id = some (reader, exporter, worker)
  calm : ∃ target, pipeline.exporters[exporter]? = some target ∧ target.Calm
  handled : reader.handles ≠ 0
  open_ : reader.isShutdown = false
  alive : worker.hasEnded = false
  flushes : ∀ message ∈ worker.messages, message.isShutdown = false

instance (pipeline : Pipeline) (id : Nat) :
    Decidable (∃ reader exporter worker, pipeline.Willing id reader exporter worker) :=
  decidable_of_iff ((pipeline.periodic? id).any fun (reader, exporter, worker) =>
    (pipeline.exporters[exporter]?).any (fun target => target.Calm) && reader.handles ≠ 0 &&
      !reader.isShutdown && !worker.hasEnded && worker.messages.all fun message =>
        !message.isShutdown) <| by
      simp only [Option.any_eq_true, Bool.and_eq_true, decide_eq_true_eq, Bool.not_eq_true',
        List.all_eq_true]
      constructor
      · rintro ⟨⟨reader, exporter, worker⟩, found, ⟨⟨⟨calm, handled⟩, open_⟩, alive⟩, flushes⟩
        exact ⟨reader, exporter, worker, found, calm, handled, open_, alive, flushes⟩
      · rintro ⟨reader, exporter, worker, found, calm, handled, open_, alive, flushes⟩
        exact ⟨(reader, exporter, worker), found, ⟨⟨⟨calm, handled⟩, open_⟩, alive⟩, flushes⟩

theorem Willing.serves {pipeline : Pipeline} {id exporter : Nat} {reader : Reader}
    {worker : Worker} (willing : pipeline.Willing id reader exporter worker) :
    pipeline.serves id = true :=
  serves_iff.mpr ⟨reader, exporter, worker, willing.found, willing.open_, willing.alive⟩

theorem Willing.of_eq {before after : Pipeline} {id exporter : Nat} {reader : Reader}
    {worker : Worker} (willing : before.Willing id reader exporter worker)
    (periodic : after.periodic? id = before.periodic? id)
    (exporters : after.exporters = before.exporters) :
    after.Willing id reader exporter worker where
  found := periodic.trans willing.found
  calm := exporters ▸ willing.calm
  handled := willing.handled
  open_ := willing.open_
  alive := willing.alive
  flushes := willing.flushes

/-- A reader stays willing while threads go on. -/
theorem Willing.stepWorker {pipeline : Pipeline} {other exporter : Nat} {reader : Reader}
    {worker : Worker} (willing : pipeline.Willing other reader exporter worker) (id : Nat) :
    ∃ later thread, (pipeline.stepWorker id).Willing other later exporter thread := by
  obtain ⟨target, there, calm⟩ := willing.calm
  obtain ⟨changed, present, still⟩ := (pipeline.kept_stepWorker id).exporters exporter target there
  have quiet : ∃ target, (pipeline.stepWorker id).exporters[exporter]? = some target ∧
      target.Calm := ⟨changed, present, still calm⟩
  by_cases same : other = id
  · subst same
    obtain ⟨here, kind⟩ := of_periodic? willing.found
    have placed : ∀ later, (pipeline.stepWorker other).readers =
        pipeline.readers.set other (reader.setWorker later) →
          later.hasEnded = false → (∀ message ∈ later.messages, message.isShutdown = false) →
            (pipeline.stepWorker other).Willing other (reader.setWorker later) exporter later := by
      intro later readers alive flushes
      rw [Reader.setWorker_eq kind] at readers ⊢
      refine ⟨periodic?_of ?_ rfl, quiet, willing.handled, willing.open_, alive, flushes⟩
      rw [readers]
      exact List.getElem?_set_self (List.getElem?_eq_some_iff.mp here).1
    cases stepWorker_stride here kind with
    | kept later messages ended _ readers =>
      exact ⟨_, later, placed later readers (ended.trans willing.alive)
        (messages ▸ willing.flushes)⟩
    | answered message rest next _ _ _ later messages ended _ readers =>
      have flush := willing.flushes message (next ▸ List.mem_cons_self)
      rw [flush] at messages ended
      refine ⟨_, later, placed later readers ended fun behind member => ?_⟩
      rw [messages] at member
      exact willing.flushes behind (next ▸ List.mem_cons_of_mem _ member)
    | quit unheld =>
      rcases unheld with none | ⟨other, found, wild⟩
      · exact absurd none willing.handled
      · cases there.symm.trans found
        exact absurd calm wild
  · exact ⟨reader, worker, (pipeline.periodic?_stepWorker same).trans willing.found, quiet,
      willing.handled, willing.open_, willing.alive, willing.flushes⟩

end Pipeline

/-- The reader of an errand has at most got further messages. -/
theorem Errand.Stands.called {call : ReaderCall} {limit : Span} {pipeline after : Pipeline}
    {given laterGiven : List CodeId} {errand : Errand} {found : List Finding} {reader : Reader}
    {exporter : Nat} {worker : Worker} {aim : CodeId}
    (stands : Stands call limit pipeline given errand found reader exporter worker)
    (leaves : pipeline.Leaves after) (grows : pipeline.Grows after)
    (advances : pipeline.codes.Advances given pipeline.held aim after.codes laterGiven after.held)
    (apart : aim ≠ errand.token) (inside : errand.token < pipeline.codes.cells.length) :
    ∃ later thread, Stands call limit after laterGiven errand found later exporter thread := by
  obtain ⟨later, more, there, _, fresh⟩ :=
    leaves.readers errand.reader reader exporter worker stands.periodic
  obtain ⟨_, _, target⟩ := leaves.exporters exporter _ (List.getElem?_eq_getElem stands.present)
  have other : ∀ message ∈ more, message.code ≠ errand.token := fun message member =>
    Nat.ne_of_gt (Nat.lt_of_lt_of_le inside (fresh message member))
  refine ⟨later, { worker with mailbox := worker.mailbox ++ more }, ?_⟩
  constructor
  case periodic => exact there
  case present => exact (List.getElem?_eq_some_iff.mp target).1
  case timed => exact stands.timed
  case single =>
    have none : (more.map Message.code).count errand.token = 0 := by
      refine List.count_eq_zero.mpr fun member => ?_
      obtain ⟨message, listed, same⟩ := List.mem_map.mp member
      exact other message listed same
    rw [Worker.messages, ← List.append_assoc, List.map_append, List.count_append, none]
    exact stands.single
  case alone =>
    intro place holder here concerned
    obtain ⟨old, before, held⟩ := grows.former place holder _ here concerned inside
    exact stands.alone place old before held
  case stage => exact (stands.stage.advance advances apart inside).extend other

end Metering
