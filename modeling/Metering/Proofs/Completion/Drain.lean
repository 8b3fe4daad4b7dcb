import Metering.Proofs.Completion.Aggregate

/-!
Working off a stack of tasks. Every task makes the weight of what remains smaller, so a stack is
empty in the end, and what holds from step to step holds once it is. An aggregate and a forwarded
outcome then survive every operation on other codes.
-/

namespace Metering.Completion

section Weight

theorem total_follow (steps : List Command) :
    total Task.weight (steps.map .follow) = Command.totalWeight steps := by
  induction steps with
  | nil => rfl
  | cons command rest ih =>
    rw [List.map_cons, total, ih, Command.totalWeight]
    rfl

theorem Callback.total_tasks (callback : Callback) :
    total Task.weight callback.tasks = callback.weight := by
  cases callback with
  | script label steps =>
    rw [tasks, total, total_follow]
    rfl
  | _ => rfl

theorem total_flatMap_tasks (callbacks : List Callback) :
    total Task.weight (callbacks.flatMap Callback.tasks) = total Callback.weight callbacks := by
  induction callbacks with
  | nil => rfl
  | cons callback rest ih => rw [List.flatMap_cons, total_append, ih, callback.total_tasks, total]

namespace Codes

variable (codes : Codes)

theorem weight_setCell {code : CodeId} {cell : Cell} (found : codes.cell? code = some cell)
    (changed : Cell) :
    (codes.setCell code changed).weight + cell.weight = codes.weight + changed.weight := by
  exact total_set Cell.weight codes.cells code cell changed found

theorem weight_push {next : Codes} {cell : Cell} (fresh : cell.callbacks = [])
    (cells : next.cells = codes.cells ++ [cell]) : next.weight = codes.weight := by
  have nothing : cell.weight = 0 := by rw [Cell.weight, fresh, total]
  simp only [weight, cells, total_append, total, nothing, Nat.add_zero]

theorem weight_poll (future : FutureId) (waker : String) :
    (codes.poll future waker).1.weight ≤ codes.weight + 2 := by
  unfold poll
  split
  next => exact Nat.le_add_right _ _
  next held _ =>
    split
    next => exact Nat.le_add_right _ _
    next =>
      dsimp only
      split
      next cell _ found =>
        have sums := codes.weight_setCell found
          { cell with callbacks := cell.callbacks ++ [.wake future] }
        simp only [Cell.weight, total_append, total, Callback.weight] at sums
        simp only [weight, setCell] at sums ⊢
        omega
      next => exact Nat.le_add_right _ _

theorem total_registrations (children : List CodeId) (aggregate : CodeId) :
    total Task.weight (children.map fun child => .register child (.settle child aggregate)) =
      5 * children.length := by
  induction children with
  | nil => rfl
  | cons child rest ih =>
    rw [List.map_cons, total, ih, List.length_cons]
    simp only [Task.weight, Callback.weight]
    omega

theorem weight_follow (command : Command) :
    (codes.follow command).1.weight + total Task.weight (codes.follow command).2 <
      codes.weight + command.weight := by
  cases command with
  | create name outcome =>
    have same : (codes.follow (.create name outcome)).1.weight = codes.weight :=
      codes.weight_push rfl rfl
    rw [same]
    exact Nat.lt_succ_self _
  | gather name children =>
    have same : (codes.follow (.gather name children)).1.weight = codes.weight :=
      codes.weight_push rfl (codes.gather_cells _)
    have tasks : total Task.weight (codes.follow (.gather name children)).2 =
        5 * (children.filterMap codes.named?).length := total_registrations _ _
    have fewer := List.length_filterMap_le codes.named? children
    rw [same, tasks, Command.weight]
    omega
  | share name code =>
    simp only [follow]
    split <;> exact Nat.lt_succ_self _
  | forget name => exact Nat.lt_succ_self _
  | complete name outcome =>
    simp only [follow]
    cases codes.named? name <;> simp [total, Task.weight, Command.weight]
  | forward name target =>
    simp only [follow]
    split <;> simp [total, Task.weight, Callback.weight, Command.weight]
  | whenComplete name label steps =>
    simp only [follow]
    cases codes.named? name with
    | none =>
      simp only [Option.map_none, Option.toList_none, total, Command.weight]
      omega
    | some code =>
      simp only [Option.map_some, Option.toList_some, total, Task.weight, Callback.weight,
        Command.weight]
      omega
  | await future name =>
    simp only [follow]
    split <;> exact Nat.lt_succ_self _
  | poll future waker =>
    simp only [follow]
    split
    next => simp [weight, total, Command.weight]
    next id _ =>
      have bound := weight_poll { codes with
        wakes := codes.wakes.insert waker ((codes.wakes.get? waker).getD 0) } id waker
      simp only [total, Command.weight]
      exact Nat.lt_succ_of_le bound
  | forgetFuture future => exact Nat.lt_succ_self _

/-- Every task makes the weight of what remains to be done smaller. -/
theorem weight_step (task : Task) :
    (codes.step task).1.weight + total Task.weight (codes.step task).2 <
      codes.weight + task.weight := by
  cases task with
  | complete code outcome =>
    simp only [step, complete]
    split
    next => exact Nat.lt_succ_self _
    next cell found =>
      split
      next =>
        -- The callbacks go from the cell to the stack at equal weight, and the task is gone.
        have sums := codes.weight_setCell found { cell with outcome, callbacks := [] }
        rw [total_flatMap_tasks]
        simp only [Cell.weight, total, Task.weight] at sums ⊢
        omega
      next => exact Nat.lt_succ_self _
  | register code callback =>
    simp only [step, register]
    split
    next =>
      simp only [total, Task.weight]
      omega
    next cell found =>
      split
      next =>
        have sums := codes.weight_setCell found
          { cell with callbacks := cell.callbacks ++ [callback] }
        simp only [Cell.weight, total_append, total, Task.weight] at sums ⊢
        omega
      next =>
        rw [callback.total_tasks]
        simp [Task.weight]
  | settle child aggregate =>
    simp only [step]
    split <;> simp [total, Task.weight]
  | discount aggregate =>
    simp only [step, discount]
    split
    next => simp [total, Task.weight]
    next cell found =>
      have sums := codes.weight_setCell found { cell with awaiting := cell.awaiting - 1 }
      simp only [Cell.weight] at sums
      split <;> simp only [total, Task.weight] <;> omega
  | forward source target => simp [step, total, Task.weight]
  | takeWaker future =>
    simp only [step, takeWaker]
    split
    next => simp [total, Task.weight]
    next => split <;> simp [total, Task.weight, weight]
  | wake waker => exact Nat.lt_succ_self _
  | fire label => exact Nat.lt_succ_self _
  | follow command => exact codes.weight_follow command

/-- What every task keeps holds once all tasks have been carried out. -/
theorem drainFor_induct {holds : Codes → List Task → Prop}
    (keeps : ∀ codes task rest, holds codes (task :: rest) →
      holds (codes.step task).1 ((codes.step task).2 ++ rest))
    (fuel : Nat) (tasks : List Task) (enough : codes.weight + total Task.weight tasks ≤ fuel)
    (begins : holds codes tasks) : holds (drainFor fuel codes tasks).1 [] := by
  induction fuel generalizing codes tasks with
  | zero =>
    cases tasks with
    | nil => exact begins
    | cons task rest =>
      -- A task to be done weighs something, so it cannot be left without fuel.
      have less := codes.weight_step task
      rw [total] at enough
      omega
  | succ fuel ih =>
    cases tasks with
    | nil => exact begins
    | cons task rest =>
      have less := codes.weight_step task
      have later : (codes.step task).1.weight + total Task.weight ((codes.step task).2 ++ rest) ≤
          fuel := by
        rw [total_append]
        rw [total] at enough
        omega
      exact ih (codes.step task).1 _ later (keeps codes task rest begins)

theorem drain_induct (holds : Codes → List Task → Prop)
    (keeps : ∀ codes task rest, holds codes (task :: rest) →
      holds (codes.step task).1 ((codes.step task).2 ++ rest))
    (tasks : List Task) (begins : holds codes tasks) : holds (codes.drain tasks) [] :=
  codes.drainFor_induct keeps _ tasks (Nat.le_refl _) begins

end Codes

end Weight

/-- One thread alone with its tasks. -/
def Threads.alone (codes : Codes) (tasks : List Task) : Threads := { codes, todo := [tasks] }

theorem Threads.tasks_alone (codes : Codes) (tasks : List Task) :
    (alone codes tasks).tasks = tasks :=
  List.append_nil tasks

namespace Threads

/-- How many steps all threads together can still take. -/
def weight (threads : Threads) : Nat := threads.codes.weight + total Task.weight threads.tasks

theorem total_perm {α : Type} (weight : α → Nat) {first second : List α}
    (perm : first.Perm second) : total weight first = total weight second := by
  induction perm with
  | nil => rfl
  | cons item _ ih => rw [total, total, ih]
  | swap first second rest =>
    simp only [total]
    omega
  | trans _ _ begins ends => exact begins.trans ends

/-- A thread that has something to do takes a step that makes the weight smaller. -/
theorem weight_step_lt {threads : Threads} {thread : Nat}
    (busy : threads.next? thread ≠ none) : (threads.step thread).weight < threads.weight := by
  cases threads.stepped thread with
  | idle nothing _ => exact absurd nothing busy
  | worked task rest others next stack after work =>
    have less := threads.codes.weight_step task
    rw [weight, weight, work.codes, total_perm _ work.before_tasks,
      total_perm _ work.after_tasks, total_append, total]
    omega

theorem weight_step_le (threads : Threads) (thread : Nat) :
    (threads.step thread).weight ≤ threads.weight := by
  by_cases busy : threads.next? thread = none
  · cases threads.stepped thread with
    | idle _ same => exact Nat.le_of_eq (by rw [same])
    | worked _ _ _ next => cases busy.symm.trans next
  · exact Nat.le_of_lt (weight_step_lt busy)

theorem length_todo_step (threads : Threads) (thread : Nat) :
    (threads.step thread).todo.length = threads.todo.length := by
  cases threads.stepped thread with
  | idle _ same => rw [same]
  | worked _ _ _ _ _ after => rw [after, List.length_set]

/-- What a thread has to do is changed by its own steps only. -/
theorem next?_step_of_ne {threads : Threads} {thread other : Nat} (apart : thread ≠ other) :
    (threads.step thread).next? other = threads.next? other := by
  cases threads.stepped thread with
  | idle _ same => rw [same]
  | worked _ _ _ _ _ after => rw [next?, after, List.getElem?_set_ne apart, next?]

/-- A thread that has nothing to do stays so. -/
theorem idle_run (threads : Threads) (thread : Nat) (schedule : List Nat)
    (nothing : threads.next? thread = none) : (threads.run schedule).next? thread = none := by
  induction schedule generalizing threads with
  | nil => exact nothing
  | cons first rest ih =>
    refine ih (threads.step first) ?_
    by_cases same : first = thread
    · subst same
      cases threads.stepped first with
      | idle _ unchanged => rw [unchanged, nothing]
      | worked _ _ _ next => cases nothing.symm.trans next
    · rw [next?_step_of_ne same, nothing]

/-- Until a thread has nothing left to do, each of its turns makes the weight smaller. -/
theorem idle_or_weight_run (threads : Threads) (thread : Nat) (schedule : List Nat) :
    (threads.run schedule).next? thread = none ∨
      (threads.run schedule).weight + schedule.count thread ≤ threads.weight := by
  induction schedule generalizing threads with
  | nil => exact .inr (Nat.le_refl _)
  | cons first rest ih =>
    by_cases nothing : threads.next? thread = none
    · exact .inl (threads.idle_run thread (first :: rest) nothing)
    · refine (ih (threads.step first)).imp_right fun less => ?_
      change ((threads.step first).run rest).weight + _ ≤ _
      rw [List.count_cons]
      by_cases same : first = thread
      · subst same
        have cost := weight_step_lt nothing
        rw [beq_self_eq_true, if_pos rfl]
        omega
      · have cost := threads.weight_step_le first
        rw [beq_eq_false_iff_ne.mpr same, if_neg Bool.false_ne_true]
        omega

/-- A thread that has taken as many turns as all threads can take steps has nothing left to do. -/
theorem idle_of_turns (threads : Threads) (thread : Nat) (schedule : List Nat)
    (turns : threads.weight ≤ schedule.count thread) :
    (threads.run schedule).next? thread = none := by
  refine (threads.idle_or_weight_run thread schedule).elim id fun less => ?_
  refine Decidable.byContradiction fun busy => ?_
  have cost := weight_step_lt busy
  omega

theorem length_todo_run (threads : Threads) (schedule : List Nat) :
    (threads.run schedule).todo.length = threads.todo.length := by
  induction schedule generalizing threads with
  | nil => rfl
  | cons thread rest ih => exact (ih (threads.step thread)).trans (threads.length_todo_step thread)

/-- When no thread has anything to do, no task is left. -/
theorem tasks_eq_nil {threads : Threads}
    (idle : ∀ thread < threads.todo.length, threads.next? thread = none) :
    threads.tasks = [] := by
  refine List.eq_nil_iff_forall_not_mem.mpr fun task member => ?_
  obtain ⟨stack, there, here⟩ := List.mem_flatten.mp member
  obtain ⟨thread, found⟩ := List.getElem?_of_mem there
  have nothing := idle thread (List.getElem?_eq_some_iff.mp found).1
  rw [next?, found, Option.bind_some, List.head?_eq_none_iff] at nothing
  rw [nothing] at here
  cases here

end Threads

namespace Codes

/-- Whether no name stands for a code. -/
def Anonymous (codes : Codes) (code : CodeId) : Prop := ∀ name, codes.named? name ≠ some code

theorem Anonymous.spares {codes : Codes} {code : CodeId} (anonymous : codes.Anonymous code)
    (task : Task) : codes.Spares code task := by
  intro ordered
  obtain ⟨name, _, named⟩ := Option.bind_eq_some_iff.mp ordered
  exact anonymous name named

theorem Anonymous.step {codes : Codes} {code : CodeId} (anonymous : codes.Anonymous code)
    (inside : code < codes.cells.length) (task : Task) : (codes.step task).1.Anonymous code := by
  intro name named
  rcases codes.named_step task name code named with ⟨other, before⟩ | ⟨same, _⟩
  · exact anonymous other before
  · exact absurd same (Nat.ne_of_lt inside)

theorem Closed.anonymous {codes : Codes} (closed : codes.Closed) :
    codes.Anonymous codes.cells.length :=
  fun name named => Nat.lt_irrefl _ (closed.named name _ named)

section Push

variable {codes next : Codes} {cell : Cell} (fresh : cell.callbacks = [])
  (cells : next.cells = codes.cells ++ [cell]) (names : next.names = codes.names)

include cells

theorem cell?_push {code : CodeId} (inside : code < codes.cells.length) :
    next.cell? code = codes.cell? code := by
  rw [cell?, cells, List.getElem?_append_left inside, cell?]

theorem outcome_push {code : CodeId} (inside : code < codes.cells.length) :
    next.outcome code = codes.outcome code := by
  rw [outcome, cell?_push cells inside, outcome]

theorem length_push : next.cells.length = codes.cells.length + 1 := by
  rw [cells, List.length_append, List.length_singleton]

include fresh names

theorem Closed.push (closed : codes.Closed) : next.Closed := by
  have longer := length_push cells
  constructor
  case named =>
    intro name code named
    rw [named?, names] at named
    exact longer ▸ Nat.lt_succ_of_lt (closed.named name code named)
  case within =>
    intro code callback kept other concerned
    rw [callbacks_push fresh cells] at kept
    exact longer ▸ Nat.lt_succ_of_lt (closed.within code callback kept other concerned)
  case released =>
    intro code done
    rw [callbacks_push fresh cells]
    by_cases inside : code < codes.cells.length
    · rw [outcome_push cells inside] at done
      exact closed.released code done
    · rw [callbacks, cell?_eq_none_iff.mpr (Nat.le_of_not_lt inside)]
      rfl

end Push

/-- An aggregate that no name stands for, with no task under way. -/
structure Tracks (codes : Codes) (children : List CodeId) (aggregate : CodeId) : Prop where
  gathered : Gathered children aggregate (.alone codes [])
  anonymous : codes.Anonymous aggregate

namespace Tracks

variable {codes : Codes} {children : List CodeId} {aggregate : CodeId}
  (tracks : codes.Tracks children aggregate)

theorem settled (codes : Codes) (aggregate : CodeId) :
    (Threads.alone codes []).Settled aggregate :=
  fun _ member => absurd (Threads.tasks_alone codes [] ▸ member) List.not_mem_nil

include tracks

theorem closed : codes.Closed := tracks.gathered.closed.codes

theorem succeeded_iff : codes.outcome aggregate = .succeeded ↔
    ∀ child ∈ children, codes.outcome child = .succeeded :=
  tracks.gathered.succeeded_iff (settled codes aggregate)

theorem failed_iff : (∃ reason, codes.outcome aggregate = .failed reason) ↔
    ∃ child ∈ children, ∃ reason, codes.outcome child = .failed reason :=
  tracks.gathered.failed_iff (settled codes aggregate)

/-- Tasks that have nothing to do with an aggregate may begin. -/
theorem enter {tasks : List Task}
    (within : ∀ task ∈ tasks, ∀ code ∈ task.codes, code < codes.cells.length)
    (foreign : ∀ task ∈ tasks, task.Proper children aggregate codes ∧
      task.reportsTo aggregate = false ∧ task.completes aggregate = false) :
    Gathered children aggregate (.alone codes tasks) := by
  have gathered := tracks.gathered
  have none : (Threads.alone codes []).tasks = [] := Threads.tasks_alone codes []
  have all : (Threads.alone codes tasks).tasks = tasks := Threads.tasks_alone codes tasks
  have silent : ∀ outcome, .complete aggregate outcome ∉ tasks := fun outcome member => by
    simpa [Task.completes] using (foreign _ member).2.2
  constructor
  case closed => exact ⟨gathered.closed.codes, by rwa [all]⟩
  case present => exact gathered.present
  case known => exact gathered.known
  case counted =>
    have before := gathered.counted
    have nothing : tasks.countP (·.reportsTo aggregate) = 0 := by
      rw [List.countP_eq_zero]
      exact fun task member => Bool.eq_false_iff.mp (foreign task member).2.1
    rw [none, List.countP_nil] at before
    rw [all, nothing]
    exact before
  case kept => exact gathered.kept
  case queued =>
    rw [all]
    exact fun task member => (foreign task member).1
  case orderly =>
    intro stack member
    cases List.mem_singleton.mp member
    exact .of_none fun task member => (foreign task member).2.2
  case heard =>
    intro child listed
    rcases gathered.heard child listed with
      (kept | registered | settling) | (done | ⟨reason, failed, known | ⟨told, telling⟩⟩)
    · exact .inl (.inl kept)
    · exact absurd registered (none ▸ List.not_mem_nil)
    · exact absurd settling (none ▸ List.not_mem_nil)
    · exact .inr (.inl done)
    · exact .inr (.inr ⟨reason, failed, .inl known⟩)
    · exact absurd telling (none ▸ List.not_mem_nil)
  case failing => exact fun reason member => absurd (all ▸ member) (silent _)
  case ending => exact fun member => absurd (all ▸ member) (silent _)
  case finished =>
    intro counted
    rcases gathered.finished counted with done | ending
    · exact .inl done
    · exact absurd ending (none ▸ List.not_mem_nil)
  case succeeded => exact gathered.succeeded
  case failed => exact gathered.failed

/-- Working off tasks that have nothing to do with an aggregate. -/
theorem drain {tasks : List Task}
    (within : ∀ task ∈ tasks, ∀ code ∈ task.codes, code < codes.cells.length)
    (foreign : ∀ task ∈ tasks, task.Proper children aggregate codes ∧
      task.reportsTo aggregate = false ∧ task.completes aggregate = false) :
    (codes.drain tasks).Tracks children aggregate := by
  have kept := codes.drain_induct
    (fun codes tasks =>
      Gathered children aggregate (.alone codes tasks) ∧ codes.Anonymous aggregate)
    (fun codes task rest both =>
      ⟨both.1.step 0 fun task _ => both.2.spares task, both.2.step both.1.present task⟩)
    tasks ⟨tracks.enter within foreign, tracks.anonymous⟩
  exact ⟨kept.1, kept.2⟩

theorem settle {code : CodeId} (inside : code < codes.cells.length) (other : code ≠ aggregate)
    (outcome : Outcome) : (codes.settle code outcome).Tracks children aggregate := by
  refine tracks.drain ?_ ?_
  · intro task member other concerned
    cases List.mem_singleton.mp member
    cases List.mem_singleton.mp concerned
    exact inside
  · intro task member
    cases List.mem_singleton.mp member
    exact ⟨trivial, rfl, decide_eq_false other⟩

theorem forwardTo {source target : CodeId} (inside : source < codes.cells.length)
    (present : target < codes.cells.length) (other : target ≠ aggregate) :
    (codes.forwardTo source target).Tracks children aggregate := by
  refine tracks.drain ?_ ?_
  · intro task member code concerned
    cases List.mem_singleton.mp member
    simp only [Task.codes, Callback.codes, List.mem_cons, List.not_mem_nil, or_false] at concerned
    rcases concerned with rfl | rfl | rfl
    · exact inside
    · exact inside
    · exact present
  · intro task member
    cases List.mem_singleton.mp member
    exact ⟨other, rfl, rfl⟩

theorem run (command : Command) : (codes.run command).Tracks children aggregate := by
  refine tracks.drain ?_ ?_
  · intro task member code concerned
    cases List.mem_singleton.mp member
    cases concerned
  · intro task member
    cases List.mem_singleton.mp member
    exact ⟨trivial, rfl, rfl⟩

theorem push {next : Codes} {cell : Cell} (fresh : cell.callbacks = [])
    (cells : next.cells = codes.cells ++ [cell]) (names : next.names = codes.names) :
    next.Tracks children aggregate := by
  have gathered := tracks.gathered
  have present : aggregate < codes.cells.length := gathered.present
  have none : ∀ codes : Codes, (Threads.alone codes []).tasks = [] :=
    fun codes => Threads.tasks_alone codes []
  have outcomes : ∀ code < codes.cells.length, next.outcome code = codes.outcome code :=
    fun code inside => outcome_push cells inside
  have awaiting : next.awaiting aggregate = codes.awaiting aggregate := by
    rw [Codes.awaiting, cell?_push cells present, Codes.awaiting]
  refine ⟨?_, fun name named => tracks.anonymous name (by rwa [named?, names] at named)⟩
  constructor
  case closed =>
    refine ⟨tracks.closed.push fresh cells names, ?_⟩
    rw [none]
    exact List.forall_mem_nil _
  case present => exact length_push cells ▸ Nat.lt_succ_of_lt present
  case known =>
    exact fun child listed => length_push cells ▸ Nat.lt_succ_of_lt (gathered.known child listed)
  case counted =>
    have before := gathered.counted
    rw [none] at before ⊢
    rw [List.countP_nil] at before ⊢
    exact (awaiting.trans before).trans (codes.reports_push aggregate fresh cells).symm
  case kept =>
    intro code callback kept
    exact gathered.kept code callback (callbacks_push fresh cells code ▸ kept)
  case queued =>
    rw [none]
    exact List.forall_mem_nil _
  case orderly => exact gathered.orderly
  case heard =>
    intro child listed
    have inside := gathered.known child listed
    rcases gathered.heard child listed with
      (kept | registered | settling) | (done | ⟨reason, failed, known | ⟨told, telling⟩⟩)
    · exact .inl (.inl ((callbacks_push fresh cells child).symm ▸ kept))
    · exact absurd registered (none codes ▸ List.not_mem_nil)
    · exact absurd settling (none codes ▸ List.not_mem_nil)
    · exact .inr (.inl ((outcomes child inside).trans done))
    · exact .inr (.inr ⟨reason, (outcomes child inside).trans failed,
        .inl ((outcomes aggregate present).symm ▸ known)⟩)
    · exact absurd telling (none codes ▸ List.not_mem_nil)
  case failing => exact fun reason member => absurd member (none next ▸ List.not_mem_nil)
  case ending => exact fun member => absurd member (none next ▸ List.not_mem_nil)
  case finished =>
    intro counted
    rcases gathered.finished (awaiting.symm.trans counted) with done | ending
    · exact .inl ((outcomes aggregate present).symm ▸ done)
    · exact absurd ending (none codes ▸ List.not_mem_nil)
  case succeeded =>
    intro succeeded child listed
    exact (outcomes child (gathered.known child listed)).trans
      (gathered.succeeded ((outcomes aggregate present).symm.trans succeeded) child listed)
  case failed =>
    intro reason failed
    obtain ⟨child, listed, same⟩ :=
      gathered.failed reason ((outcomes aggregate present).symm.trans failed)
    exact ⟨child, listed, (outcomes child (gathered.known child listed)).trans same⟩

theorem create (outcome : Outcome) : (codes.create outcome).1.Tracks children aggregate :=
  tracks.push rfl rfl rfl

/-- Another aggregate that is made later leaves this one as it is. -/
theorem allOf {others : List CodeId} (within : ∀ child ∈ others, child < codes.cells.length) :
    (codes.allOf others).1.Tracks children aggregate := by
  have pushed : (codes.gather others).1.Tracks children aggregate :=
    tracks.push rfl (codes.gather_cells others) rfl
  refine pushed.drain ?_ ?_
  · intro task member code concerned
    obtain ⟨child, listed, rfl⟩ := List.mem_map.mp member
    have longer := length_push (codes.gather_cells others)
    simp only [Task.codes, Callback.codes, List.mem_cons, List.not_mem_nil, or_false] at concerned
    rcases concerned with rfl | rfl | rfl
    · exact longer ▸ Nat.lt_succ_of_lt (within _ listed)
    · exact longer ▸ Nat.lt_succ_of_lt (within _ listed)
    · exact longer ▸ Nat.lt_succ_self _
  · intro task member
    obtain ⟨child, listed, rfl⟩ := List.mem_map.mp member
    have newer : codes.cells.length ≠ aggregate := Nat.ne_of_gt tracks.gathered.present
    exact ⟨fun same => absurd same newer, decide_eq_false newer, rfl⟩

end Tracks

/-- The code that follows given codes. -/
theorem Closed.allOf {codes : Codes} (closed : codes.Closed) {children : List CodeId}
    (within : ∀ child ∈ children, child < codes.cells.length) :
    (codes.allOf children).1.Tracks children codes.cells.length := by
  have cells := codes.gather_cells children
  have longer := length_push cells
  have pushed : (codes.gather children).1.Closed := closed.push rfl cells rfl
  have tasks : (Threads.alone (codes.gather children).1 (codes.gather children).2.2).tasks =
      (codes.gather children).2.2 := Threads.tasks_alone _ _
  have concerned : ∀ task ∈ (codes.gather children).2.2, ∀ code ∈ task.codes,
      code < (codes.gather children).1.cells.length := by
    intro task member code concerned
    obtain ⟨child, listed, rfl⟩ := List.mem_map.mp member
    simp only [Task.codes, Callback.codes, List.mem_cons, List.not_mem_nil, or_false] at concerned
    rcases concerned with rfl | rfl | rfl
    · exact longer ▸ Nat.lt_succ_of_lt (within _ listed)
    · exact longer ▸ Nat.lt_succ_of_lt (within _ listed)
    · exact longer ▸ Nat.lt_succ_self _
  have gathered : Gathered children codes.cells.length
      (.alone (codes.gather children).1 (codes.gather children).2.2) := by
    exact .begin closed ⟨pushed, by rwa [tasks]⟩ within cells
      (.of_eq (tasks.trans (List.append_nil _).symm)) (List.forall_mem_nil _)
  have kept := (codes.gather children).1.drain_induct
    (fun now tasks => Gathered children codes.cells.length (.alone now tasks) ∧
      now.Anonymous codes.cells.length)
    (fun now task rest both =>
      ⟨both.1.step 0 fun task _ => both.2.spares task, both.2.step both.1.present task⟩)
    _ ⟨gathered, closed.anonymous⟩
  exact ⟨kept.1, kept.2⟩

section Kept

variable {codes : Codes} {tasks : List Task}

/-- What is known of codes when the tasks of a stack are worked off. -/
theorem Closed.drain (closed : codes.Closed)
    (within : ∀ task ∈ tasks, ∀ code ∈ task.codes, code < codes.cells.length) :
    (codes.drain tasks).Closed := by
  have start : (Threads.alone codes tasks).Closed := ⟨closed, by rwa [Threads.tasks_alone]⟩
  exact (codes.drain_induct (fun now tasks => (Threads.alone now tasks).Closed)
    (fun now task rest before => before.step 0) tasks start).codes

theorem length_le_drain (codes : Codes) (tasks : List Task) :
    codes.cells.length ≤ (codes.drain tasks).cells.length :=
  codes.drain_induct (fun now _ => codes.cells.length ≤ now.cells.length)
    (fun now task _ before => Nat.le_trans before (now.length_le_step task)) tasks (Nat.le_refl _)

theorem outcome_drain_of_done {code : CodeId} (inside : code < codes.cells.length)
    (done : codes.outcome code ≠ .pending) :
    (codes.drain tasks).outcome code = codes.outcome code := by
  have kept := codes.drain_induct
    (fun now _ => code < now.cells.length ∧ now.outcome code = codes.outcome code)
    (fun now task _ before => ⟨Nat.lt_of_lt_of_le before.1 (now.length_le_step task),
      (now.outcome_step_of_done task before.1 (before.2.symm ▸ done)).trans before.2⟩)
    tasks ⟨inside, rfl⟩
  exact kept.2

end Kept

/-- Whether a code passes its outcome on to another one, or has done so, or is about to. -/
inductive Links (codes : Codes) (tasks : List Task) (source target : CodeId) : Prop where
  | kept (member : .forward source target ∈ codes.callbacks source)
  | registering (member : .register source (.forward source target) ∈ tasks)
  | forwarding (member : .forward source target ∈ tasks) (done : codes.outcome source ≠ .pending)
  | completing (outcome : Outcome) (final : outcome ≠ .pending)
      (member : .complete target outcome ∈ tasks)
  | done (done : codes.outcome target ≠ .pending)

namespace Links

variable {codes : Codes} {source target : CodeId}

theorem step {task : Task} {rest : List Task} (links : codes.Links (task :: rest) source target)
    (inside : source < codes.cells.length) (present : target < codes.cells.length) :
    (codes.step task).1.Links ((codes.step task).2 ++ rest) source target := by
  cases links with
  | kept member =>
    cases codes.fate task inside with
    | unchanged _ same _ => exact .kept (same.symm ▸ member)
    | completed outcome _ _ final reached _ _ freed =>
      refine .forwarding (List.mem_append_left _ (freed ▸ ?_)) (reached.symm ▸ final)
      exact List.mem_flatMap.mpr ⟨_, member, List.mem_singleton_self _⟩
    | kept _ _ _ _ same _ => exact .kept (same.symm ▸ List.mem_append_left _ member)
    | counted _ _ same _ => exact .kept (same.symm ▸ member)
  | registering member =>
    rcases List.mem_cons.mp member with rfl | later
    · by_cases pending : codes.outcome source = .pending
      · obtain ⟨cell, found⟩ := cell?_of_lt inside
        rw [codes.step_register_of_pending found (outcome_eq found ▸ pending)]
        refine .kept ?_
        have changed : (codes.setCell source { cell with
            callbacks := cell.callbacks ++ [.forward source target] }).cell? source = _ :=
          codes.cell?_set inside rfl source
        rw [callbacks_eq (changed.trans (if_pos rfl))]
        exact List.mem_append_right _ (List.mem_singleton_self _)
      · rw [step_register_of_done inside pending]
        exact .forwarding List.mem_cons_self pending
    · exact .registering (List.mem_append_right _ later)
  | forwarding member done =>
    rcases List.mem_cons.mp member with rfl | later
    · exact .completing (codes.outcome source) done List.mem_cons_self
    · refine .forwarding (List.mem_append_right _ later) ?_
      rw [codes.outcome_step_of_done task inside done]
      exact done
  | completing outcome final member =>
    rcases List.mem_cons.mp member with rfl | later
    · refine .done ?_
      by_cases pending : codes.outcome target = .pending
      · rw [codes.outcome_step_complete present pending final]
        exact final
      · rw [codes.outcome_step_of_done _ present pending]
        exact pending
    · exact .completing outcome final (List.mem_append_right _ later)
  | done done =>
    refine .done ?_
    rw [codes.outcome_step_of_done task present done]
    exact done

theorem drain {tasks : List Task} (links : codes.Links tasks source target)
    (inside : source < codes.cells.length) (present : target < codes.cells.length) :
    (codes.drain tasks).Links [] source target := by
  have kept := codes.drain_induct
    (fun now tasks => now.Links tasks source target ∧ source < now.cells.length ∧
      target < now.cells.length)
    (fun now task rest before => ⟨before.1.step before.2.1 before.2.2,
      Nat.lt_of_lt_of_le before.2.1 (now.length_le_step task),
      Nat.lt_of_lt_of_le before.2.2 (now.length_le_step task)⟩)
    tasks ⟨links, inside, present⟩
  exact kept.1

/-- More to do changes nothing about a link. -/
theorem enter (links : codes.Links [] source target) (tasks : List Task) :
    codes.Links tasks source target := by
  cases links with
  | kept member => exact .kept member
  | registering member => cases member
  | forwarding member => cases member
  | completing _ _ member => cases member
  | done done => exact .done done

/-- Once a code is done, so is the one it passes its outcome on to. -/
theorem target_done (links : codes.Links [] source target) (closed : codes.Closed)
    (done : codes.outcome source ≠ .pending) : codes.outcome target ≠ .pending := by
  cases links with
  | kept member =>
    rw [closed.released source done] at member
    cases member
  | registering member => cases member
  | forwarding member => cases member
  | completing _ _ member => cases member
  | done done => exact done

theorem push {next : Codes} {cell : Cell} (links : codes.Links [] source target)
    (fresh : cell.callbacks = []) (cells : next.cells = codes.cells ++ [cell])
    (present : target < codes.cells.length) : next.Links [] source target := by
  cases links with
  | kept member => exact .kept ((callbacks_push fresh cells source).symm ▸ member)
  | registering member => cases member
  | forwarding member => cases member
  | completing _ _ member => cases member
  | done done => exact .done ((outcome_push cells present).symm ▸ done)

end Links

/-- A pending code that nothing under way and nothing kept with the codes concerns. -/
structure Untouched (codes : Codes) (tasks : List Task) (code : CodeId) : Prop where
  present : code < codes.cells.length
  pending : codes.outcome code = .pending
  anonymous : codes.Anonymous code
  kept : ∀ other, ∀ callback ∈ codes.callbacks other, code ∉ callback.codes
  queued : ∀ task ∈ tasks, code ∉ task.codes

namespace Untouched

variable {codes : Codes} {code : CodeId}

theorem step {task : Task} {rest : List Task} (untouched : codes.Untouched (task :: rest) code) :
    (codes.step task).1.Untouched ((codes.step task).2 ++ rest) code := by
  have apart : code ∉ task.codes := untouched.queued task List.mem_cons_self
  constructor
  case present => exact Nat.lt_of_lt_of_le untouched.present (codes.length_le_step task)
  case pending =>
    cases codes.fate task untouched.present with
    | unchanged same _ _ => exact same.trans untouched.pending
    | completed _ is =>
      subst is
      exact absurd List.mem_cons_self apart
    | kept _ _ _ same _ _ => exact same
    | counted _ same _ _ => exact same.trans untouched.pending
  case anonymous => exact untouched.anonymous.step untouched.present task
  case kept =>
    intro other callback member concerned
    rcases codes.mem_callbacks_step task other callback member with before | rfl | ⟨future, rfl⟩
    · exact untouched.kept other callback before concerned
    · exact apart (List.mem_cons_of_mem _ concerned)
    · cases concerned
  case queued =>
    intro next member concerned
    rcases List.mem_append.mp member with new | old
    · cases codes.next_of_mem_step task next new with
      | freed source _ _ _ callback kept task freed =>
        exact untouched.kept source callback kept (Callback.codes_of_mem_tasks freed concerned)
      | late source _ _ callback task freed =>
        exact apart (List.mem_cons_of_mem _ (Callback.codes_of_mem_tasks freed concerned))
      | failed child aggregate =>
        cases List.mem_singleton.mp concerned
        exact apart (List.mem_cons_of_mem _ List.mem_cons_self)
      | counted child aggregate =>
        cases List.mem_singleton.mp concerned
        exact apart (List.mem_cons_of_mem _ List.mem_cons_self)
      | last aggregate =>
        cases List.mem_singleton.mp concerned
        exact apart List.mem_cons_self
      | forwarded source target =>
        cases List.mem_singleton.mp concerned
        exact apart (List.mem_cons_of_mem _ List.mem_cons_self)
      | woken => cases concerned
      | ordered name found outcome named =>
        cases List.mem_singleton.mp concerned
        exact untouched.anonymous name named
      | linked name target source sink named other =>
        simp only [Task.codes, Callback.codes, List.mem_cons, List.not_mem_nil, or_false]
          at concerned
        rcases concerned with rfl | rfl | rfl
        · exact untouched.anonymous name named
        · exact untouched.anonymous name named
        · exact untouched.anonymous target other
      | scripted name label steps found named =>
        cases List.mem_singleton.mp concerned
        exact untouched.anonymous name named
      | gathered name children child listed =>
        obtain ⟨known, _, named⟩ := List.mem_filterMap.mp listed
        simp only [Task.codes, Callback.codes, List.mem_cons, List.not_mem_nil, or_false]
          at concerned
        rcases concerned with rfl | rfl | rfl
        · exact untouched.anonymous known named
        · exact untouched.anonymous known named
        · exact Nat.lt_irrefl _ untouched.present
    · exact untouched.queued next (List.mem_cons_of_mem _ old) concerned

theorem drain {tasks : List Task} (untouched : codes.Untouched [] code)
    (apart : ∀ task ∈ tasks, code ∉ task.codes) : (codes.drain tasks).Untouched [] code :=
  codes.drain_induct (fun now tasks => now.Untouched tasks code)
    (fun _ _ _ before => before.step) tasks { untouched with queued := apart }

theorem push {next : Codes} {cell : Cell} (untouched : codes.Untouched [] code)
    (fresh : cell.callbacks = []) (cells : next.cells = codes.cells ++ [cell])
    (names : next.names = codes.names) : next.Untouched [] code := by
  constructor
  case present => exact length_push cells ▸ Nat.lt_succ_of_lt untouched.present
  case pending => exact (outcome_push cells untouched.present).trans untouched.pending
  case anonymous =>
    exact fun name named => untouched.anonymous name (by rwa [named?, names] at named)
  case kept =>
    intro other callback member
    rw [callbacks_push fresh cells] at member
    exact untouched.kept other callback member
  case queued => exact List.forall_mem_nil _

end Untouched

/-- A new code is untouched. -/
theorem Closed.untouched_create {codes : Codes} (closed : codes.Closed) :
    (codes.create .pending).1.Untouched [] codes.cells.length := by
  have cells : (codes.create .pending).1.cells = codes.cells ++ [{ outcome := .pending }] := rfl
  constructor
  case present => exact length_push cells ▸ Nat.lt_succ_self _
  case pending => simp [Codes.outcome, cell?, cells]
  case anonymous => exact closed.anonymous
  case kept =>
    intro other callback member concerned
    rw [callbacks_push rfl cells] at member
    exact Nat.lt_irrefl _ (closed.within other callback member _ concerned)
  case queued => exact List.forall_mem_nil _

end Codes

end Metering.Completion
