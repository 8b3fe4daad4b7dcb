import Metering.Proofs.Pipeline.Held

/-!
What a request to shut a reader down comes to: a code that there is, new or held by the reader, in
a pipeline that goes on as it was. Such a code can become the child of an aggregate. The reader
shows that it has been told: a counting reader by its count, any other one by its flag.
-/

namespace Metering

open Completion

namespace Pipeline

/-- What a request to one reader has come to: its code, which may be one of those before. -/
structure Asked (before after : Pipeline) (code : CodeId) : Prop where
  goes : before.Continues after fun _ => False
  inside : code < after.codes.cells.length

theorem Continues.unsparing {before after : Pipeline} {spared : CodeId → Prop}
    (goes : before.Continues after spared) : before.Continues after fun _ => False :=
  goes.weaken fun _ => False.elim

section Asked

variable {pipeline : Pipeline} (closed : pipeline.Closed)

include closed

theorem asked_newCode (outcome : Outcome) :
    pipeline.Asked (pipeline.newCode outcome).1 (pipeline.newCode outcome).2 :=
  ⟨(Continues.newCode closed outcome).unsparing,
    pipeline.codes.length_create outcome ▸ Nat.lt_succ_self _⟩

theorem asked_shutdownExporter (exporter : Nat) {code : CodeId}
    (inside : code < pipeline.codes.cells.length) :
    pipeline.Asked (pipeline.shutdownExporter exporter code) code := by
  unfold shutdownExporter
  split
  next => exact ⟨(Continues.of_eq closed rfl rfl (.of_eq rfl rfl)).unsparing, inside⟩
  next target found =>
    have kept := kept_setExporter found fun calm => calm.shutdown.1
    generalize target.shutdown = answer at kept
    obtain ⟨told, response⟩ := answer
    have stored : pipeline.Continues (pipeline.setExporter exporter told) fun _ => True :=
      .of_eq closed rfl rfl kept
    have present : code < (pipeline.setExporter exporter told).codes.cells.length := inside
    cases response with
    | code outcome =>
      have added := Continues.newCode stored.closed outcome
      have fresh : pipeline.codes.cells.length <
          (pipeline.codes.create outcome).1.cells.length :=
        pipeline.codes.length_create outcome ▸ Nat.lt_succ_self _
      have linked := Continues.forwardTo added.closed fresh (Nat.lt_trans inside fresh)
      have goes := (stored.trans added).unsparing.trans linked.unsparing
      exact ⟨goes, Nat.lt_of_lt_of_le inside goes.longer⟩
    | slow duration =>
      have moved := Continues.setTime stored.closed (pipeline.time + duration.nanos)
      have done := Continues.complete moved.closed present .succeeded
      have goes := (stored.trans moved).unsparing.trans done.unsparing
      exact ⟨goes, Nat.lt_of_lt_of_le inside goes.longer⟩
    | crash => exact ⟨stored.unsparing, inside⟩

theorem asked_sendShutdown {id : Nat} {reader : Reader} {exporter : Nat} {worker : Worker}
    (found : pipeline.readers[id]? = some reader) (kind : reader.kind = .periodic exporter worker) :
    pipeline.Asked (pipeline.sendShutdown id reader exporter worker).1
      (pipeline.sendShutdown id reader exporter worker).2 := by
  have fresh := asked_newCode closed .pending
  unfold sendShutdown
  dsimp only
  split
  next later sent =>
    refine ⟨⟨⟨fresh.goes.closed.codes, ?_⟩, fresh.goes.kept.trans (.of_eq rfl rfl),
      fresh.goes.longer, fresh.goes.done, fun _ _ => False.elim⟩, fresh.inside⟩
    intro code member
    obtain ⟨other, listed, inside⟩ := List.mem_flatMap.mp member
    rcases List.mem_or_eq_of_mem_set listed with old | rfl
    · exact fresh.goes.closed.held code (List.mem_flatMap.mpr ⟨other, old, inside⟩)
    · rw [Reader.codes_setWorker kind, Worker.messages_send sent, List.map_append] at inside
      rcases List.mem_append.mp inside with before | new
      · refine fresh.goes.closed.held code (List.mem_flatMap.mpr
          ⟨reader, List.mem_of_getElem? found, ?_⟩)
        simpa only [Reader.codes, kind] using before
      · cases List.mem_singleton.mp new
        exact fresh.inside
  next =>
    have noted := (Continues.note fresh.goes.closed [.shutdownWithoutThread]).unsparing
    have told := asked_shutdownExporter noted.closed exporter fresh.inside
    exact ⟨(fresh.goes.trans noted).trans told.goes, told.inside⟩

theorem continues_setReader {id : Nat} {reader : Reader}
    (found : pipeline.readers[id]? = some reader) (later : Reader)
    (codes : later.codes ⊆ reader.codes) :
    pipeline.Continues (pipeline.setReader id later) fun _ => False := by
  have fewer : (pipeline.setReader id later).held ⊆ pipeline.held := held_set found rfl codes
  exact ⟨⟨closed.codes, fun code member => closed.held code (fewer member)⟩, .of_eq rfl rfl,
    Nat.le_refl _, fun _ _ _ => rfl, fun _ _ => False.elim⟩

theorem asked_shutdownReader (id : Nat) :
    pipeline.Asked (pipeline.shutdownReader id).1 (pipeline.shutdownReader id).2 := by
  unfold shutdownReader
  split
  next => exact asked_newCode closed _
  next reader found =>
    split
    next preference code flushes shutdowns kind =>
      have counted := continues_setReader closed found
        { reader with kind := .counting preference code flushes (shutdowns + 1) }
        (by simp [Reader.codes, kind])
      cases code with
      | none =>
        have fresh := asked_newCode counted.closed .succeeded
        exact ⟨counted.trans fresh.goes, fresh.inside⟩
      | some code =>
        refine ⟨counted, closed.held code
          (List.mem_flatMap.mpr ⟨reader, List.mem_of_getElem? found, ?_⟩)⟩
        simp [Reader.codes, kind]
    next preference kind =>
      split
      next => exact asked_newCode closed _
      next =>
        have released := continues_setReader closed found
          { reader with isShutdown := true, lease := none } (List.Subset.refl _)
        have fresh := asked_newCode released.closed .succeeded
        exact ⟨released.trans fresh.goes, fresh.inside⟩
    next exporter worker kind =>
      split
      next => exact asked_newCode closed _
      next =>
        have flagged := continues_setReader closed found { reader with isShutdown := true }
          (List.Subset.refl _)
        have there : (pipeline.setReader id { reader with isShutdown := true }).readers[id]? =
            some { reader with isShutdown := true } :=
          List.getElem?_set_self (List.getElem?_eq_some_iff.mp found).1
        have told := asked_sendShutdown flagged.closed there kind
        exact ⟨flagged.trans told.goes, told.inside⟩

theorem asked_shutdownBinding (binding : Binding) :
    pipeline.Asked (pipeline.shutdownBinding binding).1 (pipeline.shutdownBinding binding).2 := by
  unfold shutdownBinding
  split
  next => exact asked_newCode closed _
  next => exact asked_shutdownReader closed binding.reader

end Asked

theorem readers_shutdownExporter (pipeline : Pipeline) (exporter : Nat) (code : CodeId) :
    (pipeline.shutdownExporter exporter code).readers = pipeline.readers := by
  unfold shutdownExporter
  split
  next => rfl
  next target _ =>
    generalize target.shutdown = answer
    obtain ⟨told, response⟩ := answer
    cases response <;> rfl

theorem providers_shutdownExporter (pipeline : Pipeline) (exporter : Nat) (code : CodeId) :
    (pipeline.shutdownExporter exporter code).providers = pipeline.providers := by
  unfold shutdownExporter
  split
  next => rfl
  next target _ =>
    generalize target.shutdown = answer
    obtain ⟨told, response⟩ := answer
    cases response <;> rfl

theorem providers_shutdownReader (pipeline : Pipeline) (id : Nat) :
    (pipeline.shutdownReader id).1.providers = pipeline.providers := by
  unfold shutdownReader
  split
  next => rfl
  next reader _ =>
    split
    next preference code flushes shutdowns _ => cases code <;> rfl
    next => split <;> rfl
    next exporter worker _ =>
      split
      next => rfl
      next =>
        unfold sendShutdown
        dsimp only
        split
        next => rfl
        next => exact providers_shutdownExporter _ exporter _

theorem providers_shutdownBinding (pipeline : Pipeline) (binding : Binding) :
    (pipeline.shutdownBinding binding).1.providers = pipeline.providers := by
  unfold shutdownBinding
  split
  next => rfl
  next => exact providers_shutdownReader pipeline binding.reader

end Pipeline

/-- What a reader shows of the shutdowns that have reached it. -/
inductive ShutdownMark where
  | count (shutdowns : Nat)
  | flag (isShutdown : Bool)
  deriving DecidableEq, Repr

namespace ShutdownMark

/-- What a reader shows after so many more shutdowns. -/
def after (mark : ShutdownMark) (times : Nat) : ShutdownMark :=
  match mark with
  | .count shutdowns => .count (shutdowns + times)
  | .flag isShutdown => .flag (isShutdown || decide (0 < times))

@[simp] theorem after_zero (mark : ShutdownMark) : mark.after 0 = mark := by
  cases mark <;> simp [after]

theorem after_after (mark : ShutdownMark) (first second : Nat) :
    (mark.after first).after second = mark.after (first + second) := by
  cases mark with
  | count shutdowns => simp only [after, Nat.add_assoc]
  | flag isShutdown =>
    simp only [after, Bool.or_assoc, ← Bool.decide_or, Nat.add_pos_iff_pos_or_pos]

end ShutdownMark

/-- A counting reader shows how often it has been told, any other one whether it has been. -/
def Reader.mark (reader : Reader) : ShutdownMark :=
  match reader.kind with
  | .counting _ _ _ shutdowns => .count shutdowns
  | _ => .flag reader.isShutdown

theorem Reader.mark_setWorker {reader : Reader} {exporter : Nat} {worker : Worker}
    (kind : reader.kind = .periodic exporter worker) (later : Worker) :
    (reader.setWorker later).mark = reader.mark := by
  cases reader
  cases kind
  rfl

namespace Pipeline

/-- Whether each reader has been reached by so many shutdowns meanwhile. -/
def Reached (before after : Pipeline) (times : Nat → Nat) : Prop :=
  ∀ id : Nat, (after.readers[id]?).map Reader.mark =
    (before.readers[id]?).map fun reader => reader.mark.after (times id)

theorem Reached.of_readers {before after : Pipeline} (readers : after.readers = before.readers) :
    before.Reached after fun _ => 0 := by
  intro id
  simp only [readers, ShutdownMark.after_zero]

theorem Reached.trans {first second third : Pipeline} {early late : Nat → Nat}
    (begins : first.Reached second early) (ends : second.Reached third late) :
    first.Reached third fun id => early id + late id := by
  intro id
  calc (third.readers[id]?).map Reader.mark
    _ = ((second.readers[id]?).map Reader.mark).map (·.after (late id)) := by
      rw [ends id, Option.map_map]
      rfl
    _ = ((first.readers[id]?).map (·.mark.after (early id))).map (·.after (late id)) := by
      rw [begins id]
    _ = (first.readers[id]?).map (·.mark.after (early id + late id)) := by
      simp only [Option.map_map, Function.comp_def, ShutdownMark.after_after]

theorem Reached.congr {before after : Pipeline} {times others : Nat → Nat}
    (reached : before.Reached after times) (same : ∀ id, times id = others id) :
    before.Reached after others :=
  funext same ▸ reached

section Reached

variable {pipeline : Pipeline} {id : Nat} {reader : Reader}
  (found : pipeline.readers[id]? = some reader)

include found

theorem reached_set {after : Pipeline} {later : Reader} {times : Nat}
    (readers : after.readers = pipeline.readers.set id later)
    (mark : later.mark = reader.mark.after times) :
    pipeline.Reached after fun other => if other = id then times else 0 := by
  intro other
  rw [readers]
  dsimp only
  by_cases same : other = id
  · subst same
    rw [List.getElem?_set_self (List.getElem?_eq_some_iff.mp found).1, found, if_pos rfl]
    exact congrArg some mark
  · rw [List.getElem?_set_ne (Ne.symm same), if_neg same]
    simp only [ShutdownMark.after_zero]

/-- A reader that goes on shows what it has shown. -/
theorem reached_set_same {after : Pipeline} {later : Reader}
    (readers : after.readers = pipeline.readers.set id later) (mark : later.mark = reader.mark) :
    pipeline.Reached after fun _ => 0 :=
  (reached_set found readers (mark.trans reader.mark.after_zero.symm)).congr fun _ => ite_self 0

/-- A flag that is set has been reached, whether it was set before or not. -/
theorem reached_flagged {after : Pipeline} {later : Reader} {flag : Bool}
    (readers : after.readers = pipeline.readers.set id later) (mark : reader.mark = .flag flag)
    (flagged : later.mark = .flag true) :
    pipeline.Reached after fun other => if other = id then 1 else 0 := by
  refine reached_set found readers ?_
  rw [flagged, mark]
  exact congrArg ShutdownMark.flag (Bool.or_true flag).symm

end Reached

theorem reached_stepWorker (pipeline : Pipeline) (id : Nat) :
    pipeline.Reached (pipeline.stepWorker id) fun _ => 0 := by
  cases found : pipeline.readers[id]? with
  | none => exact .of_readers (by simp only [stepWorker, found])
  | some reader =>
    cases kind : reader.kind with
    | manual preference => exact .of_readers (by simp only [stepWorker, found, kind])
    | counting preference code flushes shutdowns =>
      exact .of_readers (by simp only [stepWorker, found, kind])
    | periodic exporter worker =>
      obtain ⟨later, readers, _⟩ := readers_stepWorker found kind
      exact reached_set_same found readers (Reader.mark_setWorker kind later)

theorem reached_waitFor (limit : Nat) (done : Pipeline → Bool) (fuel : Nat)
    (pipeline : Pipeline) : pipeline.Reached (waitFor limit done fuel pipeline) fun _ => 0 := by
  induction fuel generalizing pipeline with
  | zero => exact .of_readers rfl
  | succ fuel ih =>
    unfold waitFor
    split
    next => exact .of_readers rfl
    next =>
      split
      next time id _ =>
        split
        next =>
          have moved : pipeline.Reached { pipeline with time := max pipeline.time time }
              fun _ => 0 := .of_readers rfl
          exact (moved.trans (reached_stepWorker _ id)).trans (ih _)
        next => exact .of_readers rfl
      next => exact .of_readers rfl

theorem reached_join (pipeline : Pipeline) (code : CodeId) (span : Span) :
    pipeline.Reached (pipeline.join code span) fun _ => 0 := by
  unfold join
  split
  next => exact .of_readers rfl
  next => exact reached_waitFor _ _ _ _

theorem reached_sendShutdown {pipeline : Pipeline} {id exporter : Nat} {reader : Reader}
    {worker : Worker} (found : pipeline.readers[id]? = some reader)
    (kind : reader.kind = .periodic exporter worker) :
    pipeline.Reached (pipeline.sendShutdown id reader exporter worker).1 fun _ => 0 := by
  unfold sendShutdown
  dsimp only
  split
  next later _ => exact reached_set_same found rfl (Reader.mark_setWorker kind later)
  next => exact .of_readers (readers_shutdownExporter _ exporter _)

/-- A shutdown reaches its reader, whether that goes along with it or refuses. -/
theorem reached_shutdownReader (pipeline : Pipeline) (id : Nat) :
    pipeline.Reached (pipeline.shutdownReader id).1 fun other => if other = id then 1 else 0 := by
  unfold shutdownReader
  split
  next absent =>
    intro other
    by_cases same : other = id
    · subst same
      simp only [newCode, absent, Option.map_none]
    · simp only [newCode, if_neg same, ShutdownMark.after_zero]
  next reader found =>
    have same := (set_same found).symm
    split
    next preference code flushes shutdowns kind =>
      have mark : reader.mark = .count shutdowns := by simp only [Reader.mark, kind]
      cases code <;> exact reached_set found rfl (by rw [mark]; rfl)
    next preference kind =>
      have mark : reader.mark = .flag reader.isShutdown := by simp only [Reader.mark, kind]
      split
      next shut => exact reached_flagged found same mark (mark.trans (congrArg _ shut))
      next => exact reached_flagged found rfl mark (by simp only [Reader.mark, kind])
    next exporter worker kind =>
      have mark : reader.mark = .flag reader.isShutdown := by simp only [Reader.mark, kind]
      split
      next shut => exact reached_flagged found same mark (mark.trans (congrArg _ shut))
      next =>
        have flagged : pipeline.Reached (pipeline.setReader id { reader with isShutdown := true })
            fun other => if other = id then 1 else 0 :=
          reached_flagged found rfl mark (by simp only [Reader.mark, kind])
        have there : (pipeline.setReader id { reader with isShutdown := true }).readers[id]? =
            some { reader with isShutdown := true } :=
          List.getElem?_set_self (List.getElem?_eq_some_iff.mp found).1
        exact flagged.trans (reached_sendShutdown there kind)

/-- A shielded reader is spared. -/
theorem reached_shutdownBinding (pipeline : Pipeline) (binding : Binding) :
    pipeline.Reached (pipeline.shutdownBinding binding).1 fun id =>
      [(binding.reader, binding.shielded)].count (id, false) := by
  unfold shutdownBinding
  split
  next shielded =>
    refine (Reached.of_readers rfl).congr fun id => ?_
    rw [shielded, List.count_singleton]
    simp
  next open_ =>
    refine (reached_shutdownReader pipeline binding.reader).congr fun id => ?_
    rw [Bool.not_eq_true] at open_
    rw [open_, List.count_singleton]
    by_cases same : id = binding.reader
    · rw [if_pos same, same, beq_self_eq_true, if_pos rfl]
    · rw [if_neg same, if_neg (by simpa using Ne.symm same)]

end Pipeline

end Metering
