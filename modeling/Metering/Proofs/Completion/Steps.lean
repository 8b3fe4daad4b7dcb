import Metering.Completion.Operations

/-!
What one task does to the codes. It completes one code, keeps one callback, counts one report, adds
one code, or leaves all codes alone; so each of a code's outcome, its callbacks and the number of
reports it waits for has one kind of task that changes it. Every task makes the weight of what
remains to be done smaller, so a stack of tasks is worked off in the end.
-/

namespace Metering

theorem Outcome.isPending_iff (outcome : Outcome) :
    outcome.isPending = true ↔ outcome = .pending := by
  cases outcome <;> simp [isPending]

namespace Completion

theorem total_append {α : Type} (weight : α → Nat) (first second : List α) :
    total weight (first ++ second) = total weight first + total weight second := by
  induction first with
  | nil => exact (Nat.zero_add _).symm
  | cons item rest ih => rw [List.cons_append, total, ih, total, Nat.add_assoc]

theorem total_eq_zero_iff {α : Type} (weight : α → Nat) (items : List α) :
    total weight items = 0 ↔ ∀ item ∈ items, weight item = 0 := by
  induction items with
  | nil => simp [total]
  | cons item rest ih => rw [total, Nat.add_eq_zero_iff, ih, List.forall_mem_cons]

/-- A total over all entries of a list, when one of them is exchanged. -/
theorem total_set {α : Type} (weight : α → Nat) (items : List α) (place : Nat) (item new : α)
    (found : items[place]? = some item) :
    total weight (items.set place new) + weight item = total weight items + weight new := by
  induction items generalizing place with
  | nil => cases found
  | cons first rest ih =>
    cases place with
    | zero =>
      cases found
      simp only [List.set_cons_zero, total]
      omega
    | succ place =>
      have later := ih place found
      simp only [List.set_cons_succ, total]
      omega

namespace Codes

/-- The callbacks kept with a code. -/
def callbacks (codes : Codes) (code : CodeId) : List Callback :=
  ((codes.cell? code).map (·.callbacks)).getD []

/-- How many reports a code still waits for. -/
def awaiting (codes : Codes) (code : CodeId) : Nat :=
  ((codes.cell? code).map (·.awaiting)).getD 0

section Cells

variable {codes : Codes} {code : CodeId} {cell : Cell}

theorem outcome_eq (found : codes.cell? code = some cell) : codes.outcome code = cell.outcome := by
  simp [outcome, found]

theorem callbacks_eq (found : codes.cell? code = some cell) :
    codes.callbacks code = cell.callbacks := by
  simp [callbacks, found]

theorem awaiting_eq (found : codes.cell? code = some cell) :
    codes.awaiting code = cell.awaiting := by
  simp [awaiting, found]

theorem lt_of_cell? (found : codes.cell? code = some cell) : code < codes.cells.length :=
  (List.getElem?_eq_some_iff.mp found).1

theorem cell?_of_lt (inside : code < codes.cells.length) : ∃ cell, codes.cell? code = some cell :=
  ⟨_, List.getElem?_eq_getElem inside⟩

theorem cell?_eq_none_iff : codes.cell? code = none ↔ codes.cells.length ≤ code :=
  List.getElem?_eq_none_iff

end Cells

/-- What one task does to the codes there are. -/
inductive Moved (codes : Codes) (task : Task) : Prop where
  | same (cells : (codes.step task).1.cells = codes.cells)
  | completed (code : CodeId) (outcome : Outcome) (cell : Cell)
      (is : task = .complete code outcome) (found : codes.cell? code = some cell)
      (pending : cell.outcome = .pending) (final : outcome ≠ .pending)
      (cells : (codes.step task).1.cells =
        codes.cells.set code { cell with outcome, callbacks := [] })
      (freed : (codes.step task).2 = cell.callbacks.flatMap Callback.tasks)
  | kept (code : CodeId) (callback : Callback) (cell : Cell)
      (is : task = .register code callback ∨ ∃ future, callback = .wake future)
      (found : codes.cell? code = some cell) (pending : cell.outcome = .pending)
      (cells : (codes.step task).1.cells =
        codes.cells.set code { cell with callbacks := cell.callbacks ++ [callback] })
      (nothing : (codes.step task).2 = [])
  | counted (code : CodeId) (cell : Cell) (is : task = .discount code)
      (found : codes.cell? code = some cell)
      (cells : (codes.step task).1.cells =
        codes.cells.set code { cell with awaiting := cell.awaiting - 1 })
  | added (cell : Cell) (fresh : cell.callbacks = [])
      (cells : (codes.step task).1.cells = codes.cells ++ [cell])

theorem pending_of_result?_eq_none {outcome : Outcome} (none_yet : outcome.result? = none) :
    outcome = .pending := by
  cases outcome with
  | pending => rfl
  | succeeded => cases none_yet
  | failed reason => cases reason <;> cases none_yet

theorem moved_poll (codes : Codes) (future waker : String) :
    codes.Moved (.follow (.poll future waker)) := by
  have step : codes.step (.follow (.poll future waker)) = codes.follow (.poll future waker) := rfl
  unfold follow at step
  dsimp only at step
  split at step
  next => exact .same (by rw [step])
  next id _ =>
    unfold poll at step
    dsimp only at step
    split at step
    next => exact .same (by rw [step])
    next held _ =>
      split at step
      next => exact .same (by rw [step])
      next none_yet =>
        split at step
        next cell _ found =>
          refine .kept held.code (.wake id) cell (.inr ⟨id, rfl⟩) found ?_ (by rw [step]; rfl)
            (by rw [step])
          rw [← outcome_eq found]
          exact pending_of_result?_eq_none none_yet
        next => exact .same (by rw [step])

theorem moved_follow (codes : Codes) (command : Command) : codes.Moved (.follow command) := by
  cases command with
  | create name outcome => exact .added { outcome } rfl rfl
  | gather name children =>
    refine .added _ ?_ rfl
    split <;> rfl
  | share name code =>
    refine .same ?_
    simp only [step, follow]
    split <;> rfl
  | forget name => exact .same rfl
  | complete code outcome => exact .same rfl
  | forward code target =>
    refine .same ?_
    simp only [step, follow]
    split <;> rfl
  | whenComplete code label steps => exact .same rfl
  | await future code =>
    refine .same ?_
    simp only [step, follow]
    split <;> rfl
  | poll future waker => exact codes.moved_poll future waker
  | forgetFuture future => exact .same rfl

theorem moved_step (codes : Codes) (task : Task) : codes.Moved task := by
  cases task with
  | complete code outcome =>
    have step : codes.step (.complete code outcome) = codes.complete code outcome := rfl
    unfold complete at step
    split at step
    next => exact .same (by rw [step])
    next cell found =>
      split at step
      next open_still =>
        simp only [Bool.and_eq_true, Outcome.isPending_iff, Bool.not_eq_true',
          ← Bool.not_eq_true] at open_still
        exact .completed code outcome cell rfl found open_still.1 open_still.2 (by rw [step]; rfl)
          (by rw [step])
      next => exact .same (by rw [step])
  | register code callback =>
    have step : codes.step (.register code callback) = codes.register code callback := rfl
    unfold register at step
    split at step
    next => exact .same (by rw [step])
    next cell found =>
      split at step
      next pending =>
        exact .kept code callback cell (.inl rfl) found ((Outcome.isPending_iff _).mp pending)
          (by rw [step]; rfl) (by rw [step])
      next => exact .same (by rw [step])
  | settle child aggregate =>
    refine .same ?_
    simp only [step]
    split <;> rfl
  | discount aggregate =>
    have step : codes.step (.discount aggregate) = codes.discount aggregate := rfl
    unfold discount at step
    split at step
    next => exact .same (by rw [step])
    next cell found => exact .counted aggregate cell rfl found (by rw [step]; rfl)
  | forward source target => exact .same rfl
  | takeWaker future =>
    refine .same ?_
    simp only [step, takeWaker]
    split <;> rfl
  | wake waker => exact .same rfl
  | fire label => exact .same rfl
  | follow command => exact codes.moved_follow command

section Step

variable (codes : Codes) (task : Task) {code : CodeId}

/-- No code is ever taken away. -/
theorem length_le_step : codes.cells.length ≤ (codes.step task).1.cells.length := by
  cases codes.moved_step task with
  | same cells => exact Nat.le_of_eq (by rw [cells])
  | completed _ _ _ _ _ _ _ cells _ => exact Nat.le_of_eq (by rw [cells, List.length_set])
  | kept _ _ _ _ _ _ cells _ => exact Nat.le_of_eq (by rw [cells, List.length_set])
  | counted _ _ _ _ cells => exact Nat.le_of_eq (by rw [cells, List.length_set])
  | added _ _ cells => simp [cells]

/-- What one task does to one code. -/
inductive Fate (codes : Codes) (task : Task) (code : CodeId) : Prop where
  | unchanged (outcome : (codes.step task).1.outcome code = codes.outcome code)
      (callbacks : (codes.step task).1.callbacks code = codes.callbacks code)
      (awaiting : (codes.step task).1.awaiting code = codes.awaiting code)
  | completed (outcome : Outcome) (is : task = .complete code outcome)
      (pending : codes.outcome code = .pending) (final : outcome ≠ .pending)
      (reached : (codes.step task).1.outcome code = outcome)
      (taken : (codes.step task).1.callbacks code = [])
      (awaiting : (codes.step task).1.awaiting code = codes.awaiting code)
      (freed : (codes.step task).2 = (codes.callbacks code).flatMap Callback.tasks)
  | kept (callback : Callback)
      (is : task = .register code callback ∨ ∃ future, callback = .wake future)
      (pending : codes.outcome code = .pending)
      (outcome : (codes.step task).1.outcome code = .pending)
      (callbacks : (codes.step task).1.callbacks code = codes.callbacks code ++ [callback])
      (awaiting : (codes.step task).1.awaiting code = codes.awaiting code)
  | counted (is : task = .discount code)
      (outcome : (codes.step task).1.outcome code = codes.outcome code)
      (callbacks : (codes.step task).1.callbacks code = codes.callbacks code)
      (awaiting : (codes.step task).1.awaiting code = codes.awaiting code - 1)

theorem Fate.of_cell? (same : (codes.step task).1.cell? code = codes.cell? code) :
    codes.Fate task code :=
  .unchanged (by rw [outcome, same, outcome]) (by rw [callbacks, same, callbacks])
    (by rw [awaiting, same, awaiting])

theorem cell?_set {next : Codes} {changed : CodeId} {cell : Cell}
    (inside : changed < codes.cells.length) (cells : next.cells = codes.cells.set changed cell)
    (other : CodeId) :
    next.cell? other = if other = changed then some cell else codes.cell? other := by
  rw [cell?, cells]
  by_cases same : other = changed
  · subst same
    simp [inside]
  · rw [if_neg same, List.getElem?_set_ne (Ne.symm same), cell?]

theorem fate (inside : code < codes.cells.length) : codes.Fate task code := by
  cases codes.moved_step task with
  | same cells => exact .of_cell? codes task (by rw [cell?, cells, cell?])
  | completed changed outcome cell is found pending final cells freed =>
    have after := codes.cell?_set (lt_of_cell? found) cells code
    split at after
    next same =>
      subst same
      exact .completed outcome is (outcome_eq found ▸ pending) final (outcome_eq after)
        (callbacks_eq after) ((awaiting_eq after).trans (awaiting_eq found).symm)
        (callbacks_eq found ▸ freed)
    next => exact .of_cell? codes task after
  | kept changed callback cell is found pending cells _ =>
    have after := codes.cell?_set (lt_of_cell? found) cells code
    split at after
    next same =>
      subst same
      exact .kept callback is (outcome_eq found ▸ pending) ((outcome_eq after).trans pending)
        (by rw [callbacks_eq after, callbacks_eq found])
        ((awaiting_eq after).trans (awaiting_eq found).symm)
    next => exact .of_cell? codes task after
  | counted changed cell is found cells =>
    have after := codes.cell?_set (lt_of_cell? found) cells code
    split at after
    next same =>
      subst same
      exact .counted is ((outcome_eq after).trans (outcome_eq found).symm)
        ((callbacks_eq after).trans (callbacks_eq found).symm)
        (by rw [awaiting_eq after, awaiting_eq found])
    next => exact .of_cell? codes task after
  | added cell fresh cells =>
    refine .of_cell? codes task ?_
    rw [cell?, cells, List.getElem?_append_left inside, cell?]

theorem step_complete {cell : Cell} {outcome : Outcome} (found : codes.cell? code = some cell)
    (pending : cell.outcome = .pending) (final : outcome ≠ .pending) :
    codes.step (.complete code outcome) =
      (codes.setCell code { cell with outcome, callbacks := [] },
        cell.callbacks.flatMap Callback.tasks) := by
  have still : (cell.outcome.isPending && !outcome.isPending) = true := by
    rw [Bool.and_eq_true, Bool.not_eq_true', ← Bool.not_eq_true, Outcome.isPending_iff,
      Outcome.isPending_iff]
    exact ⟨pending, final⟩
  simp only [step, complete, found, still, if_true]

theorem outcome_step_complete {outcome : Outcome} (inside : code < codes.cells.length)
    (pending : codes.outcome code = .pending) (final : outcome ≠ .pending) :
    (codes.step (.complete code outcome)).1.outcome code = outcome := by
  obtain ⟨cell, found⟩ := cell?_of_lt inside
  rw [codes.step_complete found (outcome_eq found ▸ pending) final]
  have changed : (codes.setCell code { cell with outcome, callbacks := [] }).cell? code = _ :=
    codes.cell?_set inside rfl code
  exact outcome_eq (changed.trans (if_pos rfl))

omit task in
theorem step_register_of_pending {cell : Cell} (found : codes.cell? code = some cell)
    (pending : cell.outcome = .pending) (callback : Callback) :
    codes.step (.register code callback) =
      (codes.setCell code { cell with callbacks := cell.callbacks ++ [callback] }, []) := by
  simp only [step, register, found, pending, Outcome.isPending, if_true]

omit codes task in
theorem step_register_of_done {codes : Codes} (inside : code < codes.cells.length)
    (done : codes.outcome code ≠ .pending) (callback : Callback) :
    codes.step (.register code callback) = (codes, callback.tasks) := by
  obtain ⟨cell, found⟩ := cell?_of_lt inside
  rw [outcome_eq found, ne_eq, ← Outcome.isPending_iff, Bool.not_eq_true] at done
  simp only [step, register, found, done, Bool.false_eq_true, if_false]

omit codes task in
/-- A new code keeps no callbacks, and the others keep theirs. -/
theorem callbacks_push {codes next : Codes} {cell : Cell} (fresh : cell.callbacks = [])
    (cells : next.cells = codes.cells ++ [cell]) (code : CodeId) :
    next.callbacks code = codes.callbacks code := by
  by_cases inside : code < codes.cells.length
  · rw [callbacks, cell?, cells, List.getElem?_append_left inside, callbacks, cell?]
  · have absent := cell?_eq_none_iff.mpr (Nat.le_of_not_lt inside)
    rw [callbacks, callbacks, absent, cell?, cells,
      List.getElem?_append_right (Nat.le_of_not_lt inside)]
    cases code - codes.cells.length with
    | zero => exact fresh
    | succ beyond => rfl

/-- A completed code keeps its outcome. -/
theorem outcome_step_of_done (inside : code < codes.cells.length)
    (done : codes.outcome code ≠ .pending) :
    (codes.step task).1.outcome code = codes.outcome code := by
  cases codes.fate task inside with
  | unchanged outcome _ _ => exact outcome
  | completed _ _ pending => exact absurd pending done
  | kept _ _ pending => exact absurd pending done
  | counted _ outcome _ _ => exact outcome

end Step

end Codes

/-- The codes that a callback concerns. -/
def Callback.codes : Callback → List CodeId
  | .settle child aggregate => [child, aggregate]
  | .forward source target => [source, target]
  | _ => []

/-- The codes that a task concerns, but for those that an instruction names. -/
def Task.codes : Task → List CodeId
  | .complete code _ => [code]
  | .register code callback => code :: callback.codes
  | .settle child aggregate => [child, aggregate]
  | .discount aggregate => [aggregate]
  | .forward source target => [source, target]
  | _ => []

theorem Callback.codes_of_mem_tasks {callback : Callback} {task : Task}
    (member : task ∈ callback.tasks) : task.codes ⊆ callback.codes := by
  cases callback with
  | settle child aggregate => simp_all [tasks, codes, Task.codes]
  | forward source target => simp_all [tasks, codes, Task.codes]
  | wake future => simp_all [tasks, codes, Task.codes]
  | script label steps =>
    rcases List.mem_cons.mp member with rfl | later
    · exact List.nil_subset _
    · obtain ⟨command, _, rfl⟩ := List.mem_map.mp later
      exact List.nil_subset _

namespace Codes

section Names

variable (codes : Codes)

theorem named?_bind (name other : String) (code : CodeId) :
    (codes.bind name code).named? other = if other = name then some code else codes.named? other :=
  Table.get?_insert codes.names name other code

theorem names_poll (future : FutureId) (waker : String) :
    (codes.poll future waker).1.names = codes.names := by
  unfold poll
  split
  next => rfl
  next =>
    split
    next => rfl
    next =>
      dsimp only
      split <;> rfl

/-- A name stands for a code that had a name before, or for the one that was added. -/
theorem named_follow (command : Command) (name : String) (code : CodeId)
    (named : (codes.follow command).1.named? name = some code) :
    (∃ other, codes.named? other = some code) ∨
      (code = codes.cells.length ∧ code < (codes.follow command).1.cells.length) := by
  cases command with
  | create new outcome =>
    have bound : (codes.bind new codes.cells.length).named? name = some code := named
    rw [named?_bind] at bound
    split at bound
    next =>
      have new := Option.some.inj bound
      exact .inr ⟨new.symm, by simp [follow, push, bind, ← new]⟩
    next => exact .inl ⟨name, bound⟩
  | gather new children =>
    have bound : (codes.bind new codes.cells.length).named? name = some code := named
    rw [named?_bind] at bound
    split at bound
    next =>
      have new := Option.some.inj bound
      exact .inr ⟨new.symm, by simp [follow, gather, push, bind, ← new]⟩
    next => exact .inl ⟨name, bound⟩
  | share new old =>
    simp only [follow] at named
    split at named
    next => exact .inl ⟨name, named⟩
    next id found =>
      rw [named?_bind] at named
      split at named
      next => exact .inl ⟨old, Option.some.inj named ▸ found⟩
      next => exact .inl ⟨name, named⟩
  | forget old =>
    have kept : (codes.names.erase old).get? name = some code := named
    rw [Table.get?_erase] at kept
    split at kept
    next => cases kept
    next => exact .inl ⟨name, kept⟩
  | complete _ _ => exact .inl ⟨name, named⟩
  | forward source target =>
    simp only [follow] at named
    split at named <;> exact .inl ⟨name, named⟩
  | whenComplete _ _ _ => exact .inl ⟨name, named⟩
  | await future old =>
    simp only [follow] at named
    split at named <;> exact .inl ⟨name, named⟩
  | poll future waker =>
    refine .inl ⟨name, ?_⟩
    simp only [follow] at named
    split at named
    next => exact named
    next => rwa [named?, names_poll] at named
  | forgetFuture _ => exact .inl ⟨name, named⟩

theorem named_step (task : Task) (name : String) (code : CodeId)
    (named : (codes.step task).1.named? name = some code) :
    (∃ other, codes.named? other = some code) ∨
      (code = codes.cells.length ∧ code < (codes.step task).1.cells.length) := by
  cases task with
  | complete code outcome =>
    simp only [step, complete] at named
    split at named
    next => exact .inl ⟨name, named⟩
    next => split at named <;> exact .inl ⟨name, named⟩
  | register code callback =>
    simp only [step, register] at named
    split at named
    next => exact .inl ⟨name, named⟩
    next => split at named <;> exact .inl ⟨name, named⟩
  | settle child aggregate =>
    simp only [step] at named
    split at named <;> exact .inl ⟨name, named⟩
  | discount aggregate =>
    simp only [step, discount] at named
    split at named <;> exact .inl ⟨name, named⟩
  | forward source target => exact .inl ⟨name, named⟩
  | takeWaker future =>
    simp only [step, takeWaker] at named
    split at named <;> exact .inl ⟨name, named⟩
  | wake waker => exact .inl ⟨name, named⟩
  | fire label => exact .inl ⟨name, named⟩
  | follow command => exact codes.named_follow command name code named

end Names

/-- What a task leaves its thread to do next. -/
inductive Next (codes : Codes) : Task → Task → Prop where
  /-- A callback taken from a code that has just been completed. -/
  | freed (code : CodeId) (outcome : Outcome) (pending : codes.outcome code = .pending)
      (final : outcome ≠ .pending) (callback : Callback)
      (kept : callback ∈ codes.callbacks code) (task : Task) (member : task ∈ callback.tasks) :
      codes.Next (.complete code outcome) task
  /-- A callback that came too late to be kept. -/
  | late (code : CodeId) (inside : code < codes.cells.length)
      (done : codes.outcome code ≠ .pending) (callback : Callback) (task : Task)
      (member : task ∈ callback.tasks) : codes.Next (.register code callback) task
  | failed (child aggregate : CodeId) (reason : Option Failure)
      (outcome : codes.outcome child = .failed reason) :
      codes.Next (.settle child aggregate) (.complete aggregate (.failed reason))
  | counted (child aggregate : CodeId) :
      codes.Next (.settle child aggregate) (.discount aggregate)
  | last (aggregate : CodeId) (inside : aggregate < codes.cells.length)
      (one : codes.awaiting aggregate = 1) :
      codes.Next (.discount aggregate) (.complete aggregate .succeeded)
  | forwarded (source target : CodeId) :
      codes.Next (.forward source target) (.complete target (codes.outcome source))
  | woken (future : FutureId) (waker : String) : codes.Next (.takeWaker future) (.wake waker)
  | ordered (name : String) (code : CodeId) (outcome : Outcome)
      (named : codes.named? name = some code) :
      codes.Next (.follow (.complete name outcome)) (.complete code outcome)
  | linked (name target : String) (source sink : CodeId)
      (named : codes.named? name = some source) (other : codes.named? target = some sink) :
      codes.Next (.follow (.forward name target)) (.register source (.forward source sink))
  | scripted (name label : String) (steps : List Command) (code : CodeId)
      (named : codes.named? name = some code) :
      codes.Next (.follow (.whenComplete name label steps)) (.register code (.script label steps))
  | gathered (name : String) (children : List String) (child : CodeId)
      (member : child ∈ children.filterMap codes.named?) :
      codes.Next (.follow (.gather name children))
        (.register child (.settle child codes.cells.length))

theorem next_of_mem_follow (codes : Codes) (command : Command) (next : Task)
    (member : next ∈ (codes.follow command).2) : codes.Next (.follow command) next := by
  cases command with
  | create name outcome => cases member
  | gather name children =>
    obtain ⟨child, named, rfl⟩ := List.mem_map.mp member
    exact .gathered name children child named
  | share name code =>
    simp only [follow] at member
    split at member <;> cases member
  | forget name => cases member
  | complete name outcome =>
    simp only [follow, Option.mem_toList, Option.map_eq_some_iff] at member
    obtain ⟨code, named, rfl⟩ := member
    exact .ordered name code outcome named
  | forward name target =>
    simp only [follow] at member
    split at member
    next source sink found other =>
      cases List.mem_singleton.mp member
      exact .linked name target source sink found other
    next => cases member
  | whenComplete name label steps =>
    simp only [follow, Option.mem_toList, Option.map_eq_some_iff] at member
    obtain ⟨code, named, rfl⟩ := member
    exact .scripted name label steps code named
  | await future code =>
    simp only [follow] at member
    split at member <;> cases member
  | poll future waker =>
    simp only [follow] at member
    split at member <;> cases member
  | forgetFuture future => cases member

theorem next_of_mem_step (codes : Codes) (task next : Task)
    (member : next ∈ (codes.step task).2) : codes.Next task next := by
  cases task with
  | complete code outcome =>
    simp only [step, complete] at member
    split at member
    next => cases member
    next cell found =>
      split at member
      next open_still =>
        simp only [Bool.and_eq_true, Outcome.isPending_iff, Bool.not_eq_true',
          ← Bool.not_eq_true] at open_still
        obtain ⟨callback, kept, inside⟩ := List.mem_flatMap.mp member
        exact .freed code outcome (outcome_eq found ▸ open_still.1) open_still.2 callback
          (callbacks_eq found ▸ kept) next inside
      next => cases member
  | register code callback =>
    simp only [step, register] at member
    split at member
    next => cases member
    next cell found =>
      split at member
      next => cases member
      next done =>
        rw [Outcome.isPending_iff] at done
        exact .late code (lt_of_cell? found) (outcome_eq found ▸ done) callback next member
  | settle child aggregate =>
    simp only [step] at member
    split at member
    next reason outcome =>
      rcases List.mem_cons.mp member with rfl | later
      · exact .failed child aggregate reason outcome
      · cases List.mem_singleton.mp later
        exact .counted child aggregate
    next =>
      cases List.mem_singleton.mp member
      exact .counted child aggregate
  | discount aggregate =>
    simp only [step, discount] at member
    split at member
    next => cases member
    next cell found =>
      split at member
      next one =>
        cases List.mem_singleton.mp member
        exact .last aggregate (lt_of_cell? found) (awaiting_eq found ▸ one)
      next => cases member
  | forward source target =>
    cases List.mem_singleton.mp member
    exact .forwarded source target
  | takeWaker future =>
    simp only [step, takeWaker] at member
    split at member
    next => cases member
    next =>
      split at member
      next => cases member
      next waker _ =>
        cases List.mem_singleton.mp member
        exact .woken future waker
  | wake waker => cases member
  | fire label => cases member
  | follow command => exact codes.next_of_mem_follow command next member

/-- Whether everything that the codes know of each other concerns codes there are, and callbacks
are kept with pending codes only. -/
structure Closed (codes : Codes) : Prop where
  named : ∀ name code, codes.named? name = some code → code < codes.cells.length
  within : ∀ code, ∀ callback ∈ codes.callbacks code, ∀ other ∈ callback.codes,
    other < codes.cells.length
  released : ∀ code, codes.outcome code ≠ .pending → codes.callbacks code = []

theorem closed_empty : Codes.empty.Closed := ⟨nofun, nofun, fun _ _ => rfl⟩

/-- A code that a step has added keeps no callbacks yet. -/
theorem callbacks_step_of_le (codes : Codes) (task : Task) (code : CodeId)
    (outside : codes.cells.length ≤ code) : (codes.step task).1.callbacks code = [] := by
  have absent : ∀ next : Codes, next.cells.length = codes.cells.length →
      next.callbacks code = [] := by
    intro next same
    rw [callbacks, cell?_eq_none_iff.mpr (same ▸ outside)]
    rfl
  cases codes.moved_step task with
  | same cells => exact absent _ (by rw [cells])
  | completed _ _ _ _ _ _ _ cells _ => exact absent _ (by rw [cells, List.length_set])
  | kept _ _ _ _ _ _ cells _ => exact absent _ (by rw [cells, List.length_set])
  | counted _ _ _ _ cells => exact absent _ (by rw [cells, List.length_set])
  | added cell fresh cells =>
    rw [callbacks_push fresh cells, callbacks, cell?_eq_none_iff.mpr outside]
    rfl

/-- A callback was kept before a step, or has just been registered. -/
theorem mem_callbacks_step (codes : Codes) (task : Task) (code : CodeId) (callback : Callback)
    (member : callback ∈ (codes.step task).1.callbacks code) :
    callback ∈ codes.callbacks code ∨ task = .register code callback ∨
      ∃ future, callback = .wake future := by
  by_cases inside : code < codes.cells.length
  · cases codes.fate task inside with
    | unchanged _ same _ => exact .inl (same ▸ member)
    | completed _ _ _ _ _ taken =>
      rw [taken] at member
      cases member
    | kept new is _ _ same _ =>
      rw [same] at member
      rcases List.mem_append.mp member with before | here
      · exact .inl before
      · cases List.mem_singleton.mp here
        exact .inr is
    | counted _ _ same _ => exact .inl (same ▸ member)
  · rw [codes.callbacks_step_of_le task code (Nat.le_of_not_lt inside)] at member
    cases member

theorem Closed.step {codes : Codes} (closed : codes.Closed) {task : Task}
    (within : ∀ code ∈ task.codes, code < codes.cells.length) : (codes.step task).1.Closed := by
  have grows := codes.length_le_step task
  constructor
  case named =>
    intro name code named
    rcases codes.named_step task name code named with ⟨other, before⟩ | ⟨_, inside⟩
    · exact Nat.lt_of_lt_of_le (closed.named other code before) grows
    · exact inside
  case within =>
    intro code callback member other concerned
    rcases codes.mem_callbacks_step task code callback member with before | rfl | ⟨future, rfl⟩
    · exact Nat.lt_of_lt_of_le (closed.within code callback before other concerned) grows
    · exact Nat.lt_of_lt_of_le (within other (List.mem_cons_of_mem _ concerned)) grows
    · cases concerned
  case released =>
    intro code done
    by_cases inside : code < codes.cells.length
    · cases codes.fate task inside with
      | unchanged same callbacks _ =>
        rw [callbacks]
        exact closed.released code (same ▸ done)
      | completed _ _ _ _ _ taken => exact taken
      | kept _ _ _ pending => exact absurd pending done
      | counted _ same callbacks _ =>
        rw [callbacks]
        exact closed.released code (same ▸ done)
    · exact codes.callbacks_step_of_le task code (Nat.le_of_not_lt inside)

/-- What a task leaves to do concerns codes there are. -/
theorem Closed.next {codes : Codes} (closed : codes.Closed) {task next : Task}
    (within : ∀ code ∈ task.codes, code < codes.cells.length)
    (member : next ∈ (codes.step task).2) :
    ∀ code ∈ next.codes, code < (codes.step task).1.cells.length := by
  intro code concerned
  have before : code < codes.cells.length → code < (codes.step task).1.cells.length :=
    fun inside => Nat.lt_of_lt_of_le inside (codes.length_le_step task)
  cases codes.next_of_mem_step task next member with
  | freed source outcome pending final callback kept task freed =>
    exact before (closed.within source callback kept code
      (Callback.codes_of_mem_tasks freed concerned))
  | late source inside done callback task freed =>
    exact before (within code (List.mem_cons_of_mem _
      (Callback.codes_of_mem_tasks freed concerned)))
  | failed child aggregate reason outcome =>
    exact before (within code (List.mem_cons_of_mem _ concerned))
  | counted child aggregate => exact before (within code (List.mem_cons_of_mem _ concerned))
  | last aggregate inside one => exact before (within code concerned)
  | forwarded source target => exact before (within code (List.mem_cons_of_mem _ concerned))
  | woken future waker => cases concerned
  | ordered name code outcome named =>
    cases List.mem_singleton.mp concerned
    exact before (closed.named name _ named)
  | linked name target source sink named other =>
    simp only [Task.codes, Callback.codes, List.mem_cons, List.not_mem_nil, or_false] at concerned
    rcases concerned with rfl | rfl | rfl
    · exact before (closed.named name _ named)
    · exact before (closed.named name _ named)
    · exact before (closed.named target _ other)
  | scripted name label steps code named =>
    cases List.mem_singleton.mp concerned
    exact before (closed.named name _ named)
  | gathered name children child listed =>
    obtain ⟨known, _, named⟩ := List.mem_filterMap.mp listed
    simp only [Task.codes, Callback.codes, List.mem_cons, List.not_mem_nil, or_false] at concerned
    rcases concerned with rfl | rfl | rfl
    · exact before (closed.named known _ named)
    · exact before (closed.named known _ named)
    · simp [Codes.step, follow, gather, push, bind]

end Codes

end Completion

end Metering
