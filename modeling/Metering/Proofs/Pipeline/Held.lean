import Metering.Proofs.Pipeline.Frame

/-!
The codes that readers hold: those of messages to export threads, and those that counting readers
answer with. Only these are completed by the work of a thread, so that an aggregate which no reader
holds is completed by its own codes only, whatever the threads do.
-/

namespace Metering

open Completion

namespace Completion.Codes

variable {codes : Codes}

theorem length_create (codes : Codes) (outcome : Outcome) :
    (codes.create outcome).1.cells.length = codes.cells.length + 1 :=
  length_push rfl

theorem outcome_create (codes : Codes) (outcome : Outcome) :
    (codes.create outcome).1.outcome codes.cells.length = outcome := by
  simp [Codes.outcome, cell?, create, push]

theorem Closed.create (closed : codes.Closed) (outcome : Outcome) :
    (codes.create outcome).1.Closed :=
  closed.push rfl rfl rfl

theorem Closed.settle (closed : codes.Closed) {code : CodeId} (inside : code < codes.cells.length)
    (outcome : Outcome) : (codes.settle code outcome).Closed := by
  refine closed.drain ?_
  intro task member other concerned
  cases List.mem_singleton.mp member
  cases List.mem_singleton.mp concerned
  exact inside

theorem Closed.forwardTo (closed : codes.Closed) {source target : CodeId}
    (inside : source < codes.cells.length) (present : target < codes.cells.length) :
    (codes.forwardTo source target).Closed := by
  refine closed.drain ?_
  intro task member code concerned
  cases List.mem_singleton.mp member
  simp only [Task.codes, Callback.codes, List.mem_cons, List.not_mem_nil, or_false] at concerned
  rcases concerned with rfl | rfl | rfl
  · exact inside
  · exact inside
  · exact present

theorem Closed.run (closed : codes.Closed) (command : Command) : (codes.run command).Closed := by
  refine closed.drain ?_
  intro task member code concerned
  cases List.mem_singleton.mp member
  cases concerned

theorem length_lt_allOf (codes : Codes) (children : List CodeId) :
    codes.cells.length < (codes.allOf children).1.cells.length := by
  have longer := length_push (codes.gather_cells children)
  exact Nat.lt_of_lt_of_le (longer ▸ Nat.lt_succ_self _) (length_le_drain _ _)

theorem outcome_allOf_of_done {code : CodeId} (inside : code < codes.cells.length)
    (done : codes.outcome code ≠ .pending) (children : List CodeId) :
    (codes.allOf children).1.outcome code = codes.outcome code := by
  have cells := codes.gather_cells children
  have pushed := outcome_push cells inside
  have present : code < (codes.gather children).1.cells.length :=
    length_push cells ▸ Nat.lt_succ_of_lt inside
  exact (outcome_drain_of_done present (pushed.symm ▸ done)).trans pushed

section Answer

variable (codes) (target : CodeId) (exported : Except Failure Unit) (outcome : Outcome)

/-- The codes with the two that an answer follows: the export's result and the exporter's code. -/
def offers : Codes := ((codes.create (.ofResult exported)).1.create outcome).1

theorem length_offers :
    (codes.offers exported outcome).cells.length = codes.cells.length + 2 := by
  rw [offers, length_create, length_create]

theorem answer_eq :
    codes.answer target exported outcome =
      ((codes.offers exported outcome).allOf
        [codes.cells.length, codes.cells.length + 1]).1.forwardTo
          (codes.cells.length + 2) target := by
  have second := codes.length_create (.ofResult exported)
  have both := codes.length_offers exported outcome
  rw [← both, ← second]
  rfl

theorem length_le_answer :
    codes.cells.length + 2 < (codes.answer target exported outcome).cells.length := by
  rw [answer_eq, ← codes.length_offers exported outcome]
  exact Nat.lt_of_lt_of_le (length_lt_allOf _ _) (length_le_drain _ _)

variable {codes target}

theorem Closed.offers (closed : codes.Closed) : (codes.offers exported outcome).Closed :=
  (closed.create _).create _

theorem before_offers {child : CodeId}
    (listed : child ∈ [codes.cells.length, codes.cells.length + 1]) :
    child < codes.cells.length + 2 := by
  rcases List.mem_cons.mp listed with rfl | later
  · exact Nat.lt_add_of_pos_right Nat.two_pos
  · cases List.mem_singleton.mp later
    exact Nat.lt_succ_self _

theorem outcome_answer_of_done {code : CodeId} (inside : code < codes.cells.length)
    (done : codes.outcome code ≠ .pending) :
    (codes.answer target exported outcome).outcome code = codes.outcome code := by
  have longer := codes.length_offers exported outcome
  have present : code < (codes.offers exported outcome).cells.length :=
    longer ▸ Nat.lt_succ_of_lt (Nat.lt_succ_of_lt inside)
  have offered : (codes.offers exported outcome).outcome code = codes.outcome code :=
    (outcome_push rfl (codes.length_create _ ▸ Nat.lt_succ_of_lt inside)).trans
      (outcome_push rfl inside)
  have followed := outcome_allOf_of_done present (offered.symm ▸ done)
    [codes.cells.length, codes.cells.length + 1]
  rw [answer_eq, ← offered, ← followed]
  refine outcome_drain_of_done (Nat.lt_trans present (length_lt_allOf _ _)) ?_
  rw [followed, offered]
  exact done

/-- An answer follows a new code of the exporter and the result of the export. -/
theorem Closed.follows (closed : codes.Closed) :
    ((codes.offers exported outcome).allOf
      [codes.cells.length, codes.cells.length + 1]).1.Tracks
        [codes.cells.length, codes.cells.length + 1] (codes.cells.length + 2) := by
  have longer := codes.length_offers exported outcome
  rw [← longer]
  refine (closed.offers exported outcome).allOf fun child listed => ?_
  exact longer ▸ before_offers listed

theorem Closed.answer (closed : codes.Closed) (present : target < codes.cells.length) :
    (codes.answer target exported outcome).Closed := by
  have follows := closed.follows exported outcome
  rw [answer_eq]
  have longer := length_lt_allOf (codes.offers exported outcome)
    [codes.cells.length, codes.cells.length + 1]
  rw [length_offers] at longer
  exact follows.closed.forwardTo follows.gathered.present (Nat.lt_of_lt_of_le present (by omega))

theorem Tracks.answer {children : List CodeId} {aggregate : CodeId}
    (tracks : codes.Tracks children aggregate) (present : target < codes.cells.length)
    (other : target ≠ aggregate) :
    (codes.answer target exported outcome).Tracks children aggregate := by
  have longer := length_lt_allOf (codes.offers exported outcome)
    [codes.cells.length, codes.cells.length + 1]
  have offered := codes.length_offers exported outcome
  rw [answer_eq]
  have begun : (codes.offers exported outcome).Tracks children aggregate :=
    (tracks.create _).create _
  refine (begun.allOf fun child listed => ?_).forwardTo ?_ ?_ other
  · exact offered ▸ before_offers listed
  · exact offered ▸ longer
  · exact Nat.lt_of_lt_of_le present (by omega)

end Answer

end Completion.Codes

/-- A message that is sent waits behind those sent before. -/
theorem Worker.messages_send {worker later : Worker} {message : Message}
    (sent : worker.send? message = some later) : later.messages = worker.messages ++ [message] := by
  unfold Worker.send? at sent
  split at sent
  next => cases sent
  next =>
    cases Option.some.inj sent
    exact (List.append_assoc ..).symm

/-- The codes that a reader holds. -/
def Reader.codes (reader : Reader) : List CodeId :=
  match reader.kind with
  | .manual _ => []
  | .counting _ code _ _ => code.toList
  | .periodic _ worker => worker.messages.map Message.code

theorem Reader.setWorker_eq {reader : Reader} {exporter : Nat} {worker : Worker}
    (kind : reader.kind = .periodic exporter worker) (later : Worker) :
    reader.setWorker later = { reader with kind := .periodic exporter later } := by
  cases reader
  cases kind
  rfl

theorem Reader.codes_setWorker {reader : Reader} {exporter : Nat} {worker : Worker}
    (kind : reader.kind = .periodic exporter worker) (later : Worker) :
    (reader.setWorker later).codes = later.messages.map Message.code := by
  cases reader
  cases kind
  rfl

namespace Pipeline

/-- The codes that readers hold. -/
def held (pipeline : Pipeline) : List CodeId := pipeline.readers.flatMap Reader.codes

theorem held_set {before after : Pipeline} {id : Nat} {reader later : Reader}
    (found : before.readers[id]? = some reader)
    (readers : after.readers = before.readers.set id later)
    (fewer : later.codes ⊆ reader.codes) : after.held ⊆ before.held := by
  intro code member
  obtain ⟨other, listed, inside⟩ := List.mem_flatMap.mp member
  rw [readers] at listed
  rcases List.mem_or_eq_of_mem_set listed with old | rfl
  · exact List.mem_flatMap.mpr ⟨other, old, inside⟩
  · exact List.mem_flatMap.mpr ⟨reader, List.mem_of_getElem? found, fewer inside⟩

/-- What the work of a thread does to the codes: it adds one, or answers a message with one that a
reader holds. -/
theorem codes_stepWorker (pipeline : Pipeline) (id : Nat) :
    (pipeline.stepWorker id).held ⊆ pipeline.held ∧
      ((pipeline.stepWorker id).codes = pipeline.codes ∨
        (∃ outcome, (pipeline.stepWorker id).codes = (pipeline.codes.create outcome).1) ∨
        ∃ code ∈ pipeline.held, ∃ exported outcome,
          (pipeline.stepWorker id).codes = pipeline.codes.answer code exported outcome) := by
  cases found : pipeline.readers[id]? with
  | none =>
    have same : pipeline.stepWorker id = pipeline := by simp only [stepWorker, found]
    rw [same]
    exact ⟨List.Subset.refl _, .inl rfl⟩
  | some reader =>
    cases kind : reader.kind with
    | manual preference =>
      have same : pipeline.stepWorker id = pipeline := by simp only [stepWorker, found, kind]
      rw [same]
      exact ⟨List.Subset.refl _, .inl rfl⟩
    | counting preference code flushes shutdowns =>
      have same : pipeline.stepWorker id = pipeline := by simp only [stepWorker, found, kind]
      rw [same]
      exact ⟨List.Subset.refl _, .inl rfl⟩
    | periodic exporter worker =>
      have codes : reader.codes = worker.messages.map Message.code := by
        simp only [Reader.codes, kind]
      cases stepWorker_stride found kind with
      | kept later messages ended news readers =>
        refine ⟨held_set found readers ?_, news.imp_right .inl⟩
        rw [Reader.codes_setWorker kind, messages, codes]
        exact List.Subset.refl _
      | answered message rest next alive exported outcome later messages ended news readers =>
        have member : message.code ∈ reader.codes := by
          rw [codes, next]
          exact List.mem_cons_self
        refine ⟨held_set found readers ?_, .inr (.inr ⟨message.code,
          List.mem_flatMap.mpr ⟨reader, List.mem_of_getElem? found, member⟩,
          exported, outcome, news⟩)⟩
        rw [Reader.codes_setWorker kind, messages, codes, next]
        split
        next => exact List.nil_subset _
        next => exact List.subset_cons_self _ _
      | quit unheld news readers =>
        refine ⟨held_set found readers ?_, .inl news⟩
        rw [Reader.codes_setWorker kind]
        exact List.nil_subset _

/-- Whether everything that is known of codes concerns codes there are. -/
structure Closed (pipeline : Pipeline) : Prop where
  codes : pipeline.codes.Closed
  held : ∀ code ∈ pipeline.held, code < pipeline.codes.cells.length

/-- An aggregate that no reader holds. -/
structure Watches (pipeline : Pipeline) (children : List CodeId) (aggregate : CodeId) : Prop where
  tracks : pipeline.codes.Tracks children aggregate
  apart : aggregate ∉ pipeline.held

section Work

variable {pipeline : Pipeline} {children : List CodeId} {aggregate : CodeId}

theorem length_le_stepWorker (pipeline : Pipeline) (id : Nat) :
    pipeline.codes.cells.length ≤ (pipeline.stepWorker id).codes.cells.length := by
  rcases (pipeline.codes_stepWorker id).2 with same | ⟨outcome, news⟩ | ⟨code, _, _, _, news⟩
  · exact Nat.le_of_eq (by rw [same])
  · rw [news, Codes.length_create]
    exact Nat.le_succ _
  · rw [news]
    have longer := pipeline.codes.length_le_answer code ‹_› ‹_›
    omega

theorem Closed.stepWorker (closed : pipeline.Closed) (id : Nat) :
    (pipeline.stepWorker id).Closed := by
  obtain ⟨fewer, news⟩ := pipeline.codes_stepWorker id
  refine ⟨?_, fun code member =>
    Nat.lt_of_lt_of_le (closed.held code (fewer member)) (pipeline.length_le_stepWorker id)⟩
  rcases news with same | ⟨outcome, news⟩ | ⟨code, member, exported, outcome, news⟩
  · exact same ▸ closed.codes
  · exact news ▸ closed.codes.create outcome
  · exact news ▸ closed.codes.answer exported outcome (closed.held code member)

theorem Watches.stepWorker (watches : pipeline.Watches children aggregate)
    (closed : pipeline.Closed) (id : Nat) :
    (pipeline.stepWorker id).Watches children aggregate := by
  obtain ⟨fewer, news⟩ := pipeline.codes_stepWorker id
  refine ⟨?_, fun member => watches.apart (fewer member)⟩
  rcases news with same | ⟨outcome, news⟩ | ⟨code, member, exported, outcome, news⟩
  · exact same ▸ watches.tracks
  · exact news ▸ watches.tracks.create outcome
  · exact news ▸ watches.tracks.answer exported outcome (closed.held code member)
      fun same => watches.apart (same ▸ member)

end Work

/-- What goes on apart from the calls under consideration: codes that are done stay as they are, and
aggregates that are spared are left to their own codes. -/
structure Continues (before after : Pipeline) (spared : CodeId → Prop) : Prop where
  closed : after.Closed
  kept : before.Kept after
  longer : before.codes.cells.length ≤ after.codes.cells.length
  done : ∀ code < before.codes.cells.length, before.codes.outcome code ≠ .pending →
    after.codes.outcome code = before.codes.outcome code
  watches : ∀ children aggregate, spared aggregate → before.Watches children aggregate →
    after.Watches children aggregate

namespace Continues

variable {pipeline : Pipeline} (closed : pipeline.Closed)

theorem weaken {before after : Pipeline} {spared fewer : CodeId → Prop}
    (goes : before.Continues after spared) (less : ∀ code, fewer code → spared code) :
    before.Continues after fewer :=
  { goes with
    watches := fun children aggregate safe => goes.watches children aggregate (less _ safe) }

theorem trans {first second third : Pipeline} {spared : CodeId → Prop}
    (begins : first.Continues second spared) (ends : second.Continues third spared) :
    first.Continues third spared := by
  refine ⟨ends.closed, begins.kept.trans ends.kept, Nat.le_trans begins.longer ends.longer, ?_, ?_⟩
  · intro code inside done
    have same := begins.done code inside done
    exact (ends.done code (Nat.lt_of_lt_of_le inside begins.longer) (same.symm ▸ done)).trans same
  · exact fun children aggregate safe before =>
      ends.watches children aggregate safe (begins.watches children aggregate safe before)

include closed

/-- Changes that concern neither codes nor readers. -/
theorem of_eq {after : Pipeline} (codes : after.codes = pipeline.codes)
    (readers : after.readers = pipeline.readers) (kept : pipeline.Kept after) :
    pipeline.Continues after fun _ => True := by
  have held : after.held = pipeline.held := by rw [Pipeline.held, readers, Pipeline.held]
  refine ⟨⟨codes ▸ closed.codes, ?_⟩, kept, Nat.le_of_eq (by rw [codes]), ?_, ?_⟩
  · rw [held, codes]
    exact closed.held
  · exact fun code _ _ => by rw [codes]
  · exact fun children aggregate _ watches => ⟨codes ▸ watches.tracks, held ▸ watches.apart⟩

/-- Changes to the codes alone. -/
theorem of_codes {codes : Codes} {spared : CodeId → Prop} (still : codes.Closed)
    (longer : pipeline.codes.cells.length ≤ codes.cells.length)
    (done : ∀ code < pipeline.codes.cells.length, pipeline.codes.outcome code ≠ .pending →
      codes.outcome code = pipeline.codes.outcome code)
    (tracks : ∀ children aggregate, spared aggregate →
      pipeline.codes.Tracks children aggregate → codes.Tracks children aggregate) :
    pipeline.Continues { pipeline with codes } spared :=
  ⟨⟨still, fun code member => Nat.lt_of_lt_of_le (closed.held code member) longer⟩,
    .of_eq rfl rfl, longer, done, fun children aggregate safe watches =>
      ⟨tracks children aggregate safe watches.tracks, watches.apart⟩⟩

theorem newCode (outcome : Outcome) :
    pipeline.Continues (pipeline.newCode outcome).1 fun _ => True :=
  of_codes closed (closed.codes.create outcome)
    (pipeline.codes.length_create outcome ▸ Nat.le_succ _)
    (fun _ inside _ => Codes.outcome_push rfl inside)
    (fun _ _ _ tracks => tracks.create outcome)

theorem complete {code : CodeId} (inside : code < pipeline.codes.cells.length)
    (outcome : Outcome) :
    pipeline.Continues (pipeline.complete code outcome) fun aggregate => code ≠ aggregate :=
  of_codes closed (closed.codes.settle inside outcome) (Codes.length_le_drain _ _)
    (fun _ present done => Codes.outcome_drain_of_done present done)
    (fun _ _ other tracks => tracks.settle inside other outcome)

theorem run (command : Command) :
    pipeline.Continues { pipeline with codes := pipeline.codes.run command } fun _ => True :=
  of_codes closed (closed.codes.run command) (Codes.length_le_drain _ _)
    (fun _ present done => Codes.outcome_drain_of_done present done)
    (fun _ _ _ tracks => tracks.run command)

theorem allOf {children : List CodeId}
    (within : ∀ child ∈ children, child < pipeline.codes.cells.length) :
    pipeline.Continues { pipeline with codes := (pipeline.codes.allOf children).1 }
      fun _ => True :=
  of_codes closed (closed.codes.allOf within).closed
    (Nat.le_of_lt (Codes.length_lt_allOf _ _))
    (fun _ inside done => Codes.outcome_allOf_of_done inside done children)
    (fun _ _ _ tracks => tracks.allOf within)

theorem stepWorker (id : Nat) : pipeline.Continues (pipeline.stepWorker id) fun _ => True := by
  refine ⟨closed.stepWorker id, pipeline.kept_stepWorker id, pipeline.length_le_stepWorker id, ?_,
    fun children aggregate _ watches => watches.stepWorker closed id⟩
  intro code inside done
  rcases (pipeline.codes_stepWorker id).2 with
    same | ⟨outcome, news⟩ | ⟨_, _, exported, outcome, news⟩
  · rw [same]
  · rw [news]
    exact Codes.outcome_push rfl inside
  · rw [news]
    exact Codes.outcome_answer_of_done exported outcome inside done

theorem forwardTo {source target : CodeId} (inside : source < pipeline.codes.cells.length)
    (present : target < pipeline.codes.cells.length) :
    pipeline.Continues { pipeline with codes := pipeline.codes.forwardTo source target }
      fun aggregate => target ≠ aggregate :=
  of_codes closed (closed.codes.forwardTo inside present) (Codes.length_le_drain _ _)
    (fun _ there done => Codes.outcome_drain_of_done there done)
    (fun _ _ other tracks => tracks.forwardTo inside present other)

theorem setTime (time : Nat) : pipeline.Continues { pipeline with time } fun _ => True :=
  of_eq closed rfl rfl (.of_eq rfl rfl)

theorem note (events : List Event) : pipeline.Continues (pipeline.note events) fun _ => True :=
  of_eq closed rfl rfl (.of_eq rfl rfl)

theorem waitFor (limit : Nat) (until? : Pipeline → Bool) (fuel : Nat) :
    pipeline.Continues (Pipeline.waitFor limit until? fuel pipeline) fun _ => True := by
  induction fuel generalizing pipeline with
  | zero => exact setTime closed _
  | succ fuel ih =>
    unfold Pipeline.waitFor
    split
    next => exact of_eq closed rfl rfl (.of_eq rfl rfl)
    next =>
      split
      next time id _ =>
        split
        next =>
          have moved := setTime closed (max pipeline.time time)
          have worked := moved.trans (stepWorker moved.closed id)
          exact worked.trans (ih worked.closed)
        next => exact setTime closed _
      next => exact setTime closed _

theorem join (code : CodeId) (span : Span) :
    pipeline.Continues (pipeline.join code span) fun _ => True := by
  unfold Pipeline.join
  split
  next => exact of_eq closed rfl rfl (.of_eq rfl rfl)
  next => exact waitFor closed _ _ _

end Continues

end Pipeline

end Metering
