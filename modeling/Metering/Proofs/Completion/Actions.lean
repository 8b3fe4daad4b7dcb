import Mathlib.Data.List.Nodup
import Metering.Proofs.Completion.Drain

/-!
Actions that run when a code completes. Every action that is passed to a code is told apart from all
others: it is kept with the code while that is pending, then it is a thread's to run, and then it
has run. So it runs once if the code is ever completed, and finds the outcome that the code keeps.
The outcome is that of the first completing call.
-/

namespace Metering.Completion

/-- What a completing call on a code gives it. -/
def Task.completion? (code : CodeId) : Task → Option Outcome
  | .complete target outcome =>
    if target = code && !outcome.isPending then some outcome else none
  | _ => none

theorem Task.eq_complete_of_completion? {task : Task} {code : CodeId} {outcome : Outcome}
    (completes : task.completion? code = some outcome) :
    task = .complete code outcome ∧ outcome ≠ .pending := by
  cases task with
  | complete target given =>
    simp only [completion?] at completes
    split at completes
    next free =>
      cases completes
      simp only [Bool.and_eq_true, decide_eq_true_eq, Bool.not_eq_true', ← Bool.not_eq_true,
        Outcome.isPending_iff] at free
      exact ⟨by rw [free.1], free.2⟩
    next => cases completes
  | _ => cases completes

theorem Task.completion?_complete {code : CodeId} {outcome : Outcome}
    (final : outcome ≠ .pending) :
    (Task.complete code outcome).completion? code = some outcome := by
  have quiet : outcome.isPending = false :=
    Bool.eq_false_iff.mpr (mt (Outcome.isPending_iff outcome).mp final)
  rw [completion?, quiet, decide_eq_true rfl]
  rfl

theorem Codes.pending_step_of_completion? (codes : Codes) {task : Task} {code : CodeId}
    (inside : code < codes.cells.length) (pending : codes.outcome code = .pending)
    (completes : task.completion? code = none) : (codes.step task).1.outcome code = .pending := by
  cases codes.fate task inside with
  | unchanged same => exact same.trans pending
  | completed outcome is _ final =>
    rw [is, Task.completion?_complete final] at completes
    cases completes
  | kept _ _ _ same => exact same
  | counted _ same => exact same.trans pending

namespace Threads

/-- The tasks that the threads carry out, in this order. -/
def carried (threads : Threads) : List Nat → List Task
  | [] => []
  | thread :: rest => (threads.next? thread).toList ++ (threads.step thread).carried rest

/-- What the completing calls on a code give it, in the order in which they come to it. -/
def completions (threads : Threads) (code : CodeId) (schedule : List Nat) : List Outcome :=
  (threads.carried schedule).filterMap (Task.completion? code)

/-- A code has the outcome of the first call to complete it. -/
theorem outcome_run (threads : Threads) (schedule : List Nat) {code : CodeId}
    (inside : code < threads.codes.cells.length) :
    (threads.run schedule).codes.outcome code =
      if threads.codes.outcome code = .pending then
        ((threads.completions code schedule).head?).getD .pending
      else threads.codes.outcome code := by
  split
  next pending =>
    induction schedule generalizing threads with
    | nil => exact pending
    | cons thread rest ih =>
      rw [completions, carried, List.filterMap_append]
      cases threads.stepped thread with
      | idle nothing same =>
        rw [nothing]
        change ((threads.step thread).run rest).codes.outcome code = _
        rw [same]
        exact ih threads inside pending
      | worked task _ _ next _ _ work =>
        rw [next]
        have present := Nat.lt_of_lt_of_le inside work.length_le
        change ((threads.step thread).run rest).codes.outcome code = _
        cases completes : task.completion? code with
        | none =>
          have still : (threads.step thread).codes.outcome code = .pending := by
            rw [work.codes]
            exact threads.codes.pending_step_of_completion? inside pending completes
          rw [ih _ present still]
          simp [completes, completions]
        | some outcome =>
          obtain ⟨rfl, final⟩ := Task.eq_complete_of_completion? completes
          have set : (threads.step thread).codes.outcome code = outcome := by
            rw [work.codes]
            exact threads.codes.outcome_step_complete inside pending final
          rw [outcome_run_of_done _ _ present (set.symm ▸ final), set]
          simp [completes]
  next done => exact threads.outcome_run_of_done schedule inside done

end Threads

/-- An action that has been passed to a code, numbered in the order in which they were passed. -/
structure Registration where
  number : Nat
  code : CodeId
  callback : Callback

/-- Whether a task is the first one of an action. -/
def Task.begins : Task → Bool
  | .settle _ _ => true
  | .forward _ _ => true
  | .takeWaker _ => true
  | .fire _ => true
  | _ => false

def Task.label? : Task → Option String
  | .fire label => some label
  | _ => none

/-- The task that an action begins with. -/
def Callback.first : Callback → Task
  | .settle child aggregate => .settle child aggregate
  | .forward source target => .forward source target
  | .wake future => .takeWaker future
  | .script label _ => .fire label

theorem Callback.begins_first (callback : Callback) : callback.first.begins = true := by
  cases callback <;> rfl

theorem Callback.filter_tasks (callback : Callback) :
    callback.tasks.filter Task.begins = [callback.first] := by
  cases callback with
  | script label steps =>
    have none : (steps.map Task.follow).filter Task.begins = [] :=
      List.filter_eq_nil_iff.mpr fun task member => by
        obtain ⟨command, _, rfl⟩ := List.mem_map.mp member
        exact Bool.false_ne_true
    exact congrArg (Task.fire label :: ·) none
  | _ => rfl

/-- An action begins, or is followed step by step. -/
theorem Callback.begins_or_follows {callback : Callback} {task : Task}
    (member : task ∈ callback.tasks) : task.begins = true ∨ ∃ command, task = .follow command := by
  cases callback with
  | script label steps =>
    rcases List.mem_cons.mp member with rfl | later
    · exact .inl rfl
    · obtain ⟨command, _, rfl⟩ := List.mem_map.mp later
      exact .inr ⟨command, rfl⟩
  | _ => cases List.mem_singleton.mp member; exact .inl rfl

theorem filter_flatMap_tasks (callbacks : List Callback) :
    (callbacks.flatMap Callback.tasks).filter Task.begins = callbacks.map Callback.first := by
  induction callbacks with
  | nil => rfl
  | cons callback rest ih =>
    rw [List.flatMap_cons, List.filter_append, callback.filter_tasks, ih]
    rfl

/-- What a task does with actions. -/
inductive Handling where
  | frees (code : CodeId)
  | passes (code : CodeId) (callback : Callback)
  | begins
  | nothing

namespace Codes

/-- The code that a future registers with when it is polled. -/
def registersWith? (codes : Codes) (future : FutureId) : Option CodeId :=
  (codes.futures[future]?).bind fun held =>
    if !held.registered && (codes.outcome held.code).isPending &&
        decide (held.code < codes.cells.length) then some held.code else none

def handling (codes : Codes) : Task → Handling
  | .complete code outcome =>
    if decide (code < codes.cells.length) && (codes.outcome code).isPending && !outcome.isPending
    then .frees code else .nothing
  | .register code callback =>
    if code < codes.cells.length then .passes code callback else .nothing
  | .follow (.poll future _) =>
    match (codes.futureNames.get? future).bind fun id =>
        (codes.registersWith? id).map (id, ·) with
    | none => .nothing
    | some (id, code) => .passes code (.wake id)
  | .follow _ | .discount _ | .wake _ => .nothing
  | .settle _ _ | .forward _ _ | .takeWaker _ | .fire _ => .begins

/-- What a task does with the actions kept with codes, and which actions it leaves to be run. -/
inductive Handled (codes : Codes) (task : Task) : Handling → Prop where
  | frees (code : CodeId) (inside : code < codes.cells.length)
      (pending : codes.outcome code = .pending)
      (done : (codes.step task).1.outcome code ≠ .pending) (quiet : task.begins = false)
      (callbacks : ∀ other, (codes.step task).1.callbacks other =
        if other = code then [] else codes.callbacks other)
      (next : (codes.step task).2.filter Task.begins =
        (codes.callbacks code).map Callback.first) :
      codes.Handled task (.frees code)
  | keeps (code : CodeId) (callback : Callback) (inside : code < codes.cells.length)
      (pending : codes.outcome code = .pending) (quiet : task.begins = false)
      (callbacks : ∀ other, (codes.step task).1.callbacks other =
        if other = code then codes.callbacks code ++ [callback] else codes.callbacks other)
      (next : (codes.step task).2.filter Task.begins = []) :
      codes.Handled task (.passes code callback)
  | late (code : CodeId) (callback : Callback) (inside : code < codes.cells.length)
      (done : codes.outcome code ≠ .pending) (quiet : task.begins = false)
      (callbacks : (codes.step task).1.callbacks = codes.callbacks)
      (next : (codes.step task).2.filter Task.begins = [callback.first]) :
      codes.Handled task (.passes code callback)
  | begins (loud : task.begins = true)
      (callbacks : (codes.step task).1.callbacks = codes.callbacks)
      (next : (codes.step task).2.filter Task.begins = []) : codes.Handled task .begins
  | nothing (quiet : task.begins = false)
      (callbacks : (codes.step task).1.callbacks = codes.callbacks)
      (next : (codes.step task).2.filter Task.begins = []) : codes.Handled task .nothing

section Handled

variable (codes : Codes)

theorem callbacks_congr {next : Codes} (same : next.cells = codes.cells) :
    next.callbacks = codes.callbacks := by
  funext code
  rw [callbacks, cell?, same, callbacks, cell?]

theorem callbacks_set {next : Codes} {code : CodeId} {cell : Cell}
    (inside : code < codes.cells.length) (cells : next.cells = codes.cells.set code cell)
    (other : CodeId) :
    next.callbacks other = if other = code then cell.callbacks else codes.callbacks other := by
  have after := codes.cell?_set inside cells other
  split at after
  next same => rw [if_pos same, callbacks_eq after]
  next apart => rw [if_neg apart, callbacks, after, callbacks]

theorem cells_poll_of_none {future : FutureId} (none : codes.registersWith? future = none)
    (waker : String) : (codes.poll future waker).1.cells = codes.cells := by
  unfold poll
  split
  next => rfl
  next held present =>
    split
    next => rfl
    next result =>
      dsimp only
      split
      next cell unregistered found =>
        have known : codes.cell? held.code = some cell := found
        have pending := pending_of_result?_eq_none result
        simp [registersWith?, present, unregistered, pending, Outcome.isPending,
          lt_of_cell? known] at none
      next => rfl

theorem cells_poll_of_some {future : FutureId} {code : CodeId}
    (registers : codes.registersWith? future = some code) (waker : String) :
    codes.outcome code = .pending ∧ ∃ cell, codes.cell? code = some cell ∧
      (codes.poll future waker).1.cells =
        codes.cells.set code { cell with callbacks := cell.callbacks ++ [.wake future] } := by
  obtain ⟨held, present, chosen⟩ := Option.bind_eq_some_iff.mp registers
  split at chosen
  next free =>
    cases chosen
    simp only [Bool.and_eq_true, Bool.not_eq_true', Outcome.isPending_iff,
      decide_eq_true_eq] at free
    obtain ⟨⟨unregistered, pending⟩, inside⟩ := free
    obtain ⟨cell, known⟩ := cell?_of_lt inside
    have waits : (codes.outcome held.code).result? = none := by rw [pending]; rfl
    refine ⟨pending, cell, known, ?_⟩
    rw [cell?] at known
    simp only [poll, present, waits, unregistered, cell?, known]
    rfl
  next => cases chosen

theorem handled_poll (future waker : String) :
    codes.Handled (.follow (.poll future waker))
      (codes.handling (.follow (.poll future waker))) := by
  have step : codes.step (.follow (.poll future waker)) = codes.follow (.poll future waker) := rfl
  have nothing : ∀ cells : (codes.step (.follow (.poll future waker))).1.cells = codes.cells,
      codes.Handled (.follow (.poll future waker)) .nothing := fun cells =>
    .nothing rfl (codes.callbacks_congr cells) (by rw [step, follow]; dsimp only; split <;> rfl)
  simp only [handling]
  split
  next absent =>
    refine nothing ?_
    rw [step, follow]
    dsimp only
    split
    next => rfl
    next id found =>
      rw [found, Option.bind_some, Option.map_eq_none_iff] at absent
      exact cells_poll_of_none { codes with
        wakes := codes.wakes.insert waker ((codes.wakes.get? waker).getD 0) } absent waker
  next id code registers =>
    obtain ⟨_, found, there⟩ := Option.bind_eq_some_iff.mp registers
    obtain ⟨_, known, pair⟩ := Option.map_eq_some_iff.mp there
    cases pair
    have follows : codes.step (.follow (.poll future waker)) = (({ codes with
        wakes := codes.wakes.insert waker ((codes.wakes.get? waker).getD 0) } : Codes).poll id
          waker |>.1, []) := by
      simp only [Codes.step, follow, found]
    obtain ⟨pending, cell, present, cells⟩ := cells_poll_of_some { codes with
      wakes := codes.wakes.insert waker ((codes.wakes.get? waker).getD 0) } known waker
    have here : codes.cell? code = some cell := present
    refine .keeps code (.wake id) (lt_of_cell? here) pending rfl (fun other => ?_)
      (by rw [follows]; rfl)
    have changed : (codes.step (.follow (.poll future waker))).1.cells =
        codes.cells.set code { cell with callbacks := cell.callbacks ++ [.wake id] } := by
      rw [follows]
      exact cells
    rw [codes.callbacks_set (lt_of_cell? here) changed other, callbacks_eq here]

/-- Instructions other than to poll neither pass actions nor leave any to be run. -/
theorem handled_follow (command : Command) :
    codes.Handled (.follow command) (codes.handling (.follow command)) := by
  have next : (codes.step (.follow command)).2.filter Task.begins = [] :=
    List.filter_eq_nil_iff.mpr fun task member => by
      cases codes.next_of_mem_step _ task member <;> exact Bool.false_ne_true
  have nothing : (codes.step (.follow command)).1.callbacks = codes.callbacks →
      codes.Handled (.follow command) .nothing := fun same => .nothing rfl same next
  cases command with
  | poll future waker => exact codes.handled_poll future waker
  | create name outcome => exact nothing (funext (callbacks_push rfl rfl))
  | gather name children =>
    exact nothing (funext (callbacks_push (by split <;> rfl) rfl))
  | share name code =>
    refine nothing (codes.callbacks_congr ?_)
    simp only [step, follow]
    split <;> rfl
  | forget name => exact nothing rfl
  | complete name outcome => exact nothing rfl
  | forward name target =>
    refine nothing (codes.callbacks_congr ?_)
    simp only [step, follow]
    split <;> rfl
  | whenComplete name label steps => exact nothing rfl
  | await future name =>
    refine nothing (codes.callbacks_congr ?_)
    simp only [step, follow]
    split <;> rfl
  | forgetFuture future => exact nothing rfl

theorem handled_complete (code : CodeId) (outcome : Outcome) :
    codes.Handled (.complete code outcome) (codes.handling (.complete code outcome)) := by
  have step : codes.step (.complete code outcome) = codes.complete code outcome := rfl
  simp only [handling]
  split
  next free =>
    simp only [Bool.and_eq_true, decide_eq_true_eq, Outcome.isPending_iff, Bool.not_eq_true',
      ← Bool.not_eq_true] at free
    obtain ⟨⟨inside, pending⟩, final⟩ := free
    obtain ⟨cell, found⟩ := cell?_of_lt inside
    have completes := codes.step_complete found (outcome_eq found ▸ pending) final
    refine .frees code inside pending ?_ rfl (fun other => ?_) ?_
    · rw [codes.outcome_step_complete inside pending final]
      exact final
    · have cells : (codes.step (.complete code outcome)).1.cells =
          codes.cells.set code { cell with outcome, callbacks := [] } := by
        rw [completes]
        rfl
      exact codes.callbacks_set inside cells other
    · rw [completes, callbacks_eq found]
      exact filter_flatMap_tasks cell.callbacks
  next busy =>
    have same : codes.complete code outcome = (codes, []) := by
      unfold complete
      split
      next => rfl
      next cell found =>
        refine if_neg fun free => busy ?_
        rw [outcome_eq found, decide_eq_true (lt_of_cell? found), Bool.true_and]
        exact free
    exact .nothing rfl (by rw [step, same]) (by rw [step, same]; rfl)

theorem handled_register (code : CodeId) (callback : Callback) :
    codes.Handled (.register code callback) (codes.handling (.register code callback)) := by
  have step : codes.step (.register code callback) = codes.register code callback := rfl
  simp only [handling]
  split
  next inside =>
    by_cases pending : codes.outcome code = .pending
    · obtain ⟨cell, found⟩ := cell?_of_lt inside
      have keeps := codes.step_register_of_pending found (outcome_eq found ▸ pending) callback
      refine .keeps code callback inside pending rfl (fun other => ?_) (by rw [keeps]; rfl)
      have cells : (codes.step (.register code callback)).1.cells =
          codes.cells.set code { cell with callbacks := cell.callbacks ++ [callback] } := by
        rw [keeps]
        rfl
      rw [codes.callbacks_set inside cells other, callbacks_eq found]
    · have late := step_register_of_done inside pending callback
      exact .late code callback inside pending rfl (by rw [late])
        (by rw [late]; exact callback.filter_tasks)
  next outside =>
    have same : codes.register code callback = (codes, []) := by
      simp only [register, cell?_eq_none_iff.mpr (Nat.le_of_not_lt outside)]
    exact .nothing rfl (by rw [step, same]) (by rw [step, same]; rfl)

/-- Every task does with actions what its handling says. -/
theorem handled (task : Task) : codes.Handled task (codes.handling task) := by
  cases task with
  | complete code outcome => exact codes.handled_complete code outcome
  | register code callback => exact codes.handled_register code callback
  | settle child aggregate =>
    refine .begins rfl (codes.callbacks_congr ?_) ?_ <;> simp only [step] <;> split <;> rfl
  | discount aggregate =>
    have step : codes.step (.discount aggregate) = codes.discount aggregate := rfl
    unfold discount at step
    split at step
    next => exact .nothing rfl (by rw [step]) (by rw [step]; rfl)
    next cell found =>
      refine .nothing rfl (funext fun other => ?_) (by rw [step]; dsimp only; split <;> rfl)
      have cells : (codes.step (.discount aggregate)).1.cells =
          codes.cells.set aggregate { cell with awaiting := cell.awaiting - 1 } := by
        rw [step]
        rfl
      rw [codes.callbacks_set (lt_of_cell? found) cells other]
      split
      next same => rw [same, callbacks_eq found]
      next => rfl
  | forward source target => exact .begins rfl rfl rfl
  | takeWaker future =>
    have step : codes.step (.takeWaker future) = codes.takeWaker future := rfl
    unfold takeWaker at step
    split at step
    next => exact .begins rfl (by rw [step]) (by rw [step]; rfl)
    next held _ => exact .begins rfl (by rw [step]; rfl) (by rw [step]; dsimp only; split <;> rfl)
  | wake waker => exact .nothing rfl rfl rfl
  | fire label => exact .begins rfl rfl rfl
  | follow command => exact codes.handled_follow command

/-- A task records the label of the action that it begins, if that has one. -/
theorem fired_step (task : Task) :
    (codes.step task).1.fired = task.label?.toList ++ codes.fired := by
  cases task with
  | complete code outcome =>
    simp only [step, complete]
    split
    next => rfl
    next => split <;> rfl
  | register code callback =>
    simp only [step, register]
    split
    next => rfl
    next => split <;> rfl
  | settle child aggregate =>
    simp only [step]
    split <;> rfl
  | discount aggregate =>
    simp only [step, discount]
    split <;> rfl
  | forward source target => rfl
  | takeWaker future =>
    simp only [step, takeWaker]
    split <;> rfl
  | wake waker => rfl
  | fire label => rfl
  | follow command =>
    cases command with
    | poll future waker =>
      simp only [step, follow]
      split
      next => rfl
      next =>
        unfold poll
        dsimp only
        split
        next => rfl
        next => split <;> try rfl
                split <;> rfl
    | share name code => simp only [step, follow]; split <;> rfl
    | forward name target => simp only [step, follow]; split <;> rfl
    | await future name => simp only [step, follow]; split <;> rfl
    | _ => rfl

end Handled

end Codes

/-- Threads at work on codes, with the actions that have been passed to these. -/
structure Roster where
  threads : Threads
  passed : List Registration := []
  /-- The actions kept with codes. -/
  kept : List Registration := []
  /-- The actions that are each thread's to run, the next one first. -/
  waiting : List (List Registration)
  /-- The actions that have begun to run, with the outcome that their code had then. -/
  ran : List (Registration × Outcome) := []

namespace Roster

def start (programs : List (List Command)) : Roster :=
  { threads := .start programs, waiting := programs.map fun _ => [] }

def step (roster : Roster) (thread : Nat) : Roster :=
  match roster.threads.next? thread with
  | none => roster
  | some task =>
    let codes := roster.threads.codes
    let mine := (roster.waiting[thread]?).getD []
    let next := { roster with threads := roster.threads.step thread }
    match codes.handling task with
    | .frees code => { next with
        kept := roster.kept.filter fun held => held.code ≠ code
        waiting := roster.waiting.set thread
          (roster.kept.filter (fun held => held.code = code) ++ mine) }
    | .passes code callback =>
      let new : Registration := ⟨roster.passed.length, code, callback⟩
      let next := { next with passed := roster.passed ++ [new] }
      if (codes.outcome code).isPending then { next with kept := roster.kept ++ [new] }
      else { next with waiting := roster.waiting.set thread (new :: mine) }
    | .begins => { next with
        waiting := roster.waiting.set thread mine.tail
        ran := roster.ran ++
          (mine.head?.map fun first => (first, codes.outcome first.code)).toList }
    | .nothing => next

def run (roster : Roster) (schedule : List Nat) : Roster := schedule.foldl step roster

/-- How often an action has begun to run. -/
def runs (roster : Roster) (number : Nat) : Nat :=
  roster.ran.countP fun entry => entry.1.number = number

/-- Keeping the roster changes nothing of what the threads do. -/
theorem threads_step (roster : Roster) (thread : Nat) :
    (roster.step thread).threads = roster.threads.step thread := by
  unfold step
  split
  next nothing =>
    cases roster.threads.stepped thread with
    | idle _ same => exact same.symm
    | worked task _ _ next => cases nothing.symm.trans next
  next =>
    dsimp only
    split
    next => rfl
    next => split <;> rfl
    next => rfl
    next => rfl

theorem threads_run (roster : Roster) (schedule : List Nat) :
    (roster.run schedule).threads = roster.threads.run schedule := by
  induction schedule generalizing roster with
  | nil => rfl
  | cons thread rest ih => exact (ih (roster.step thread)).trans (by rw [threads_step]; rfl)

/-- The actions passed to codes in one step. -/
theorem passed_step (roster : Roster) {thread : Nat} {task : Task}
    (next : roster.threads.next? thread = some task) :
    (roster.step thread).passed = roster.passed ++
      match roster.threads.codes.handling task with
      | .passes code callback => [⟨roster.passed.length, code, callback⟩]
      | _ => [] := by
  simp only [step, next]
  split
  next same => rw [same, List.append_nil]
  next same => rw [same]; split <;> rfl
  next same => rw [same, List.append_nil]
  next same => rw [same, List.append_nil]

/-- What a step of a thread does with the actions, for a thread with actions `mine` to run, which
leaves it those of `left`. -/
inductive Dealt (roster : Roster) (task : Task) (mine left : List Registration) (after : Roster) :
    Prop where
  /-- A code is completed, and its actions are the thread's to run. -/
  | freed (code : CodeId)
      (done : (roster.threads.codes.step task).1.outcome code ≠ .pending)
      (quiet : task.begins = false)
      (callbacks : ∀ other, (roster.threads.codes.step task).1.callbacks other =
        if other = code then [] else roster.threads.codes.callbacks other)
      (next : (roster.threads.codes.step task).2.filter Task.begins =
        (roster.threads.codes.callbacks code).map Callback.first)
      (kept : after.kept = roster.kept.filter fun held => held.code ≠ code)
      (hand : left = roster.kept.filter (fun held => held.code = code) ++ mine)
      (passed : after.passed = roster.passed) (ran : after.ran = roster.ran)
  | kept (new : Registration) (number : new.number = roster.passed.length)
      (inside : new.code < roster.threads.codes.cells.length) (quiet : task.begins = false)
      (callbacks : ∀ other, (roster.threads.codes.step task).1.callbacks other =
        if other = new.code then roster.threads.codes.callbacks new.code ++ [new.callback]
        else roster.threads.codes.callbacks other)
      (next : (roster.threads.codes.step task).2.filter Task.begins = [])
      (kept : after.kept = roster.kept ++ [new]) (hand : left = mine)
      (passed : after.passed = roster.passed ++ [new]) (ran : after.ran = roster.ran)
  | late (new : Registration) (number : new.number = roster.passed.length)
      (inside : new.code < roster.threads.codes.cells.length)
      (done : roster.threads.codes.outcome new.code ≠ .pending) (quiet : task.begins = false)
      (callbacks : (roster.threads.codes.step task).1.callbacks = roster.threads.codes.callbacks)
      (next : (roster.threads.codes.step task).2.filter Task.begins = [new.callback.first])
      (kept : after.kept = roster.kept) (hand : left = new :: mine)
      (passed : after.passed = roster.passed ++ [new]) (ran : after.ran = roster.ran)
  | began (loud : task.begins = true)
      (callbacks : (roster.threads.codes.step task).1.callbacks = roster.threads.codes.callbacks)
      (next : (roster.threads.codes.step task).2.filter Task.begins = [])
      (kept : after.kept = roster.kept) (hand : left = mine.tail)
      (passed : after.passed = roster.passed)
      (ran : after.ran = roster.ran ++
        (mine.head?.map fun first => (first, roster.threads.codes.outcome first.code)).toList)
  | nothing (quiet : task.begins = false)
      (callbacks : (roster.threads.codes.step task).1.callbacks = roster.threads.codes.callbacks)
      (next : (roster.threads.codes.step task).2.filter Task.begins = [])
      (kept : after.kept = roster.kept) (hand : left = mine)
      (passed : after.passed = roster.passed) (ran : after.ran = roster.ran)

theorem dealt (roster : Roster) {thread : Nat} {task : Task} {mine : List Registration}
    (next : roster.threads.next? thread = some task)
    (own : roster.waiting[thread]? = some mine) :
    ∃ left, (roster.step thread).waiting = roster.waiting.set thread left ∧
      roster.Dealt task mine left (roster.step thread) := by
  have unset : roster.waiting = roster.waiting.set thread mine := by
    obtain ⟨inside, rfl⟩ := List.getElem?_eq_some_iff.mp own
    exact (List.set_getElem_self inside).symm
  have handled := roster.threads.codes.handled task
  unfold step
  simp only [next, own, Option.getD_some]
  generalize roster.threads.codes.handling task = handling at handled
  cases handled with
  | frees code inside pending done quiet callbacks frees =>
    exact ⟨_, rfl, .freed code done quiet callbacks frees rfl rfl rfl rfl⟩
  | keeps code callback inside pending quiet callbacks none =>
    simp only [(Outcome.isPending_iff _).mpr pending, if_true]
    exact ⟨mine, unset, .kept ⟨roster.passed.length, code, callback⟩ rfl inside quiet callbacks
      none rfl rfl rfl rfl⟩
  | late code callback inside done quiet callbacks first =>
    simp only [if_neg (mt (Outcome.isPending_iff _).mp done)]
    exact ⟨_, rfl, .late ⟨roster.passed.length, code, callback⟩ rfl inside done quiet callbacks
      first rfl rfl rfl rfl⟩
  | begins loud callbacks none => exact ⟨_, rfl, .began loud callbacks none rfl rfl rfl rfl⟩
  | nothing quiet callbacks none =>
    exact ⟨mine, unset, .nothing quiet callbacks none rfl rfl rfl rfl⟩

section Dealt

variable {roster after : Roster} {task : Task} {mine left : List Registration}
  (dealt : roster.Dealt task mine left after)

include dealt

/-- At most one action is passed to a code in a step, and gets the next number. -/
theorem Dealt.passed_step : after.passed = roster.passed ∨ ∃ new : Registration,
    new.number = roster.passed.length ∧ new.code < roster.threads.codes.cells.length ∧
      after.passed = roster.passed ++ [new] := by
  cases dealt with
  | freed _ _ _ _ _ _ _ passed => exact .inl passed
  | kept new number inside _ _ _ _ _ passed => exact .inr ⟨new, number, inside, passed⟩
  | late new number inside _ _ _ _ _ _ passed => exact .inr ⟨new, number, inside, passed⟩
  | began _ _ _ _ _ passed => exact .inl passed
  | nothing _ _ _ _ _ passed => exact .inl passed

theorem Dealt.numbered_step
    (numbered : roster.passed.map (·.number) = List.range roster.passed.length) :
    after.passed.map (·.number) = List.range after.passed.length := by
  rcases dealt.passed_step with same | ⟨new, number, _, more⟩
  · rw [same]
    exact numbered
  · rw [more, List.map_append, numbered, List.length_append, List.length_singleton,
      List.range_succ, List.map_singleton, number]

theorem Dealt.within_step
    (within : ∀ held ∈ roster.passed, held.code < roster.threads.codes.cells.length) :
    ∀ held ∈ after.passed, held.code < (roster.threads.codes.step task).1.cells.length := by
  intro held member
  have longer := roster.threads.codes.length_le_step task
  rcases dealt.passed_step with same | ⟨new, _, inside, more⟩
  · exact Nat.lt_of_lt_of_le (within held (same ▸ member)) longer
  · rw [more] at member
    rcases List.mem_append.mp member with old | here
    · exact Nat.lt_of_lt_of_le (within held old) longer
    · exact List.mem_singleton.mp here ▸ Nat.lt_of_lt_of_le inside longer

theorem Dealt.callbacks_step (before : ∀ code, roster.threads.codes.callbacks code =
      (roster.kept.filter fun held => held.code = code).map (·.callback)) (other : CodeId) :
    (roster.threads.codes.step task).1.callbacks other =
      (after.kept.filter fun held => held.code = other).map (·.callback) := by
  cases dealt with
  | freed code _ _ callbacks _ kept =>
    rw [callbacks, kept, List.filter_filter]
    split
    next same =>
      subst same
      simp
    next apart =>
      rw [before]
      congr 1
      refine List.filter_congr fun held _ => ?_
      by_cases mine : held.code = other <;> simp [mine, apart]
  | kept new _ _ _ callbacks _ kept =>
    rw [callbacks, kept, List.filter_append, List.map_append, before, before]
    split
    next same => simp [same]
    next apart => simp [Ne.symm apart]
  | late _ _ _ _ _ callbacks _ kept => rw [callbacks, kept, before]
  | began _ callbacks _ kept => rw [callbacks, kept, before]
  | nothing _ callbacks _ kept => rw [callbacks, kept, before]

/-- An action runs when a thread carries out the task that it begins with. -/
theorem Dealt.ran_step : after.ran = roster.ran ∧ task.begins = false ∨ task.begins = true ∧
    after.ran = roster.ran ++
      (mine.head?.map fun first => (first, roster.threads.codes.outcome first.code)).toList := by
  cases dealt with
  | freed _ _ quiet _ _ _ _ _ ran => exact .inl ⟨ran, quiet⟩
  | kept _ _ _ quiet _ _ _ _ _ ran => exact .inl ⟨ran, quiet⟩
  | late _ _ _ _ quiet _ _ _ _ _ ran => exact .inl ⟨ran, quiet⟩
  | began loud _ _ _ _ _ ran => exact .inr ⟨loud, ran⟩
  | nothing quiet _ _ _ _ _ ran => exact .inl ⟨ran, quiet⟩

/-- What a thread has to run is of completed codes. -/
theorem Dealt.freed_step (inside : ∀ held ∈ mine,
      held.code < roster.threads.codes.cells.length)
    (freed : ∀ held ∈ mine, roster.threads.codes.outcome held.code ≠ .pending) :
    ∀ held ∈ left, (roster.threads.codes.step task).1.outcome held.code ≠ .pending := by
  have stays : ∀ code < roster.threads.codes.cells.length,
      roster.threads.codes.outcome code ≠ .pending →
        (roster.threads.codes.step task).1.outcome code ≠ .pending := fun code present done =>
    (roster.threads.codes.outcome_step_of_done task present done).symm ▸ done
  have before : ∀ held ∈ mine, (roster.threads.codes.step task).1.outcome held.code ≠ .pending :=
    fun held member => stays held.code (inside held member) (freed held member)
  cases dealt with
  | freed code done _ _ _ _ hand =>
    rw [hand]
    intro held member
    rcases List.mem_append.mp member with new | old
    · rw [of_decide_eq_true (List.mem_filter.mp new).2]
      exact done
    · exact before held old
  | kept _ _ _ _ _ _ _ hand => exact hand ▸ before
  | late new _ present done _ _ _ _ hand =>
    rw [hand, List.forall_mem_cons]
    exact ⟨stays new.code present done, before⟩
  | began _ _ _ _ hand =>
    exact fun held member => before held (List.mem_of_mem_tail (hand ▸ member))
  | nothing _ _ _ _ hand => exact hand ▸ before

end Dealt

/-- Every action is in one place: kept with a pending code, to be run by a thread, or begun. -/
structure Sound (roster : Roster) : Prop where
  closed : roster.threads.Closed
  width : roster.waiting.length = roster.threads.todo.length
  numbered : roster.passed.map (·.number) = List.range roster.passed.length
  placed : (roster.ran.map Prod.fst ++ (roster.waiting.flatten ++ roster.kept)).Perm
    roster.passed
  within : ∀ held ∈ roster.passed, held.code < roster.threads.codes.cells.length
  callbacks : ∀ code, roster.threads.codes.callbacks code =
    (roster.kept.filter fun held => held.code = code).map (·.callback)
  queues : ∀ (thread : Nat) tasks mine, roster.threads.todo[thread]? = some tasks →
    roster.waiting[thread]? = some mine →
      tasks.filter Task.begins = mine.map (·.callback.first)
  freed : ∀ held ∈ roster.waiting.flatten, roster.threads.codes.outcome held.code ≠ .pending
  seen : ∀ held outcome, (held, outcome) ∈ roster.ran →
    outcome ≠ .pending ∧ roster.threads.codes.outcome held.code = outcome
  fired : roster.threads.codes.fired =
    (roster.ran.filterMap fun entry => entry.1.callback.first.label?).reverse

namespace Sound

variable {roster : Roster} (sound : roster.Sound)

section Step

variable {thread : Nat} {task : Task} {rest : List Task} {mine left : List Registration}
  (stack : roster.threads.todo[thread]? = some (task :: rest))
  (own : roster.waiting[thread]? = some mine)
  (waiting : (roster.step thread).waiting = roster.waiting.set thread left)
  (dealt : roster.Dealt task mine left (roster.step thread))

include sound

theorem kept_pending {held : Registration} (member : held ∈ roster.kept) :
    roster.threads.codes.outcome held.code = .pending := by
  refine Decidable.byContradiction fun done => ?_
  have callbacks := sound.callbacks held.code
  rw [sound.closed.codes.released held.code done] at callbacks
  have none := List.map_eq_nil_iff.mp callbacks.symm
  have here : held ∈ roster.kept.filter fun other => other.code = held.code :=
    List.mem_filter.mpr ⟨member, decide_eq_true rfl⟩
  rw [none] at here
  cases here

theorem mem_passed {held : Registration}
    (member : held ∈ roster.ran.map Prod.fst ++ (roster.waiting.flatten ++ roster.kept)) :
    held ∈ roster.passed :=
  sound.placed.mem_iff.mp member

theorem inside_of_ran {held : Registration} {outcome : Outcome}
    (member : (held, outcome) ∈ roster.ran) :
    held.code < roster.threads.codes.cells.length :=
  sound.within held (sound.mem_passed
    (List.mem_append_left _ (List.mem_map_of_mem member)))

theorem inside_of_waiting {held : Registration} (member : held ∈ roster.waiting.flatten) :
    held.code < roster.threads.codes.cells.length :=
  sound.within held (sound.mem_passed
    (List.mem_append_right _ (List.mem_append_left _ member)))

/-- What a thread has to run stays that of completed codes. -/
theorem outcome_of_waiting {held : Registration} (member : held ∈ roster.waiting.flatten)
    (task : Task) : (roster.threads.codes.step task).1.outcome held.code =
      roster.threads.codes.outcome held.code :=
  roster.threads.codes.outcome_step_of_done task (sound.inside_of_waiting member)
    (sound.freed held member)

include stack own

/-- The task that an action begins with is that of the thread's next action. -/
theorem next_action (loud : task.begins = true) :
    ∃ first more, mine = first :: more ∧ first.callback.first = task ∧
      rest.filter Task.begins = more.map (·.callback.first) := by
  have same := sound.queues thread _ mine stack own
  rw [List.filter_cons_of_pos loud] at same
  cases mine with
  | nil => cases same
  | cons first more =>
    obtain ⟨here, later⟩ := List.cons.inj same
    exact ⟨first, more, rfl, here.symm, later⟩

theorem rest_actions (quiet : task.begins = false) :
    rest.filter Task.begins = mine.map (·.callback.first) := by
  have same := sound.queues thread _ mine stack own
  rwa [List.filter_cons_of_neg (Bool.eq_false_iff.mp quiet)] at same

include dealt

/-- The actions left to a thread are those that its next tasks begin. -/
theorem stack_left : ((roster.threads.codes.step task).2 ++ rest).filter Task.begins =
    left.map (·.callback.first) := by
  rw [List.filter_append]
  cases dealt with
  | freed code done quiet callbacks next kept hand =>
    rw [next, sound.rest_actions stack own quiet, sound.callbacks, hand, List.map_append,
      List.map_map]
    rfl
  | kept new number inside quiet callbacks next kept hand =>
    rw [next, sound.rest_actions stack own quiet, hand, List.nil_append]
  | late new number inside done quiet callbacks next kept hand =>
    rw [next, sound.rest_actions stack own quiet, hand]
    rfl
  | began loud callbacks next kept hand =>
    obtain ⟨first, more, rfl, _, later⟩ := sound.next_action stack own loud
    rw [next, later, hand]
    rfl
  | nothing quiet callbacks next kept hand =>
    rw [next, sound.rest_actions stack own quiet, hand, List.nil_append]

/-- An action that begins to run finds its code completed. -/
theorem seen_step : ∀ held outcome, (held, outcome) ∈ (roster.step thread).ran →
    outcome ≠ .pending ∧ (roster.threads.codes.step task).1.outcome held.code = outcome := by
  intro held outcome member
  have old : (held, outcome) ∈ roster.ran → outcome ≠ .pending ∧
      (roster.threads.codes.step task).1.outcome held.code = outcome := by
    intro before
    obtain ⟨final, same⟩ := sound.seen held outcome before
    have stays := roster.threads.codes.outcome_step_of_done task (sound.inside_of_ran before)
      (same ▸ final)
    exact ⟨final, stays.trans same⟩
  rcases dealt.ran_step with ⟨same, _⟩ | ⟨loud, more⟩
  · exact old (same ▸ member)
  · obtain ⟨first, rest, hand, _, _⟩ := sound.next_action stack own loud
    rw [more, hand] at member
    rcases List.mem_append.mp member with before | new
    · exact old before
    · cases List.mem_singleton.mp new
      have waits : held ∈ roster.waiting.flatten := List.mem_flatten.mpr
        ⟨_, List.mem_of_getElem? own, hand ▸ List.mem_cons_self⟩
      exact ⟨sound.freed held waits, sound.outcome_of_waiting waits task⟩

theorem fired_step : (roster.threads.codes.step task).1.fired =
    ((roster.step thread).ran.filterMap fun entry => entry.1.callback.first.label?).reverse := by
  rw [Codes.fired_step, sound.fired]
  rcases dealt.ran_step with ⟨same, quiet⟩ | ⟨loud, more⟩
  · have unlabelled : task.label? = none := by cases task <;> first | rfl | cases quiet
    rw [same, unlabelled]
    rfl
  · obtain ⟨first, rest, hand, begins, _⟩ := sound.next_action stack own loud
    rw [more, hand, List.filterMap_append, List.reverse_append, ← begins]
    cases labelled : first.callback.first.label? <;> simp [labelled]

include waiting

theorem stacks_step (other : Nat) (tasks : List Task) (hand : List Registration)
    (there : (roster.threads.todo.set thread
      ((roster.threads.codes.step task).2 ++ rest))[other]? = some tasks)
    (owned : (roster.step thread).waiting[other]? = some hand) :
    tasks.filter Task.begins = hand.map (·.callback.first) := by
  rw [waiting] at owned
  by_cases same : thread = other
  · subst same
    rw [List.getElem?_set_self (List.getElem?_eq_some_iff.mp stack).1] at there
    rw [List.getElem?_set_self (List.getElem?_eq_some_iff.mp own).1] at owned
    cases there
    cases owned
    exact sound.stack_left stack own dealt
  · rw [List.getElem?_set_ne same] at there owned
    exact sound.queues other tasks hand there owned

omit stack in
theorem freed_step : ∀ held ∈ (roster.step thread).waiting.flatten,
    (roster.threads.codes.step task).1.outcome held.code ≠ .pending := by
  intro held member
  obtain ⟨hand, there, here⟩ := List.mem_flatten.mp member
  rw [waiting] at there
  rcases List.mem_or_eq_of_mem_set there with old | rfl
  · have before := List.mem_flatten.mpr ⟨hand, old, here⟩
    exact (sound.outcome_of_waiting before task).symm ▸ sound.freed held before
  · have mine : ∀ held ∈ mine, held ∈ roster.waiting.flatten :=
      fun held member => List.mem_flatten.mpr ⟨_, List.mem_of_getElem? own, member⟩
    exact dealt.freed_step (fun held member => sound.inside_of_waiting (mine held member))
      (fun held member => sound.freed held (mine held member)) held here

/-- No action is lost, and none comes to be in two places. -/
theorem placed_step : ((roster.step thread).ran.map Prod.fst ++
    ((roster.step thread).waiting.flatten ++ (roster.step thread).kept)).Perm
      (roster.step thread).passed := by
  obtain ⟨apart, before, after⟩ := Threads.perm_flatten roster.waiting thread mine own
  have placed : (roster.ran.map Prod.fst ++ ((mine ++ apart) ++ roster.kept)).Perm
      roster.passed :=
    ((before.symm.append_right _).append_left _).trans sound.placed
  rw [waiting]
  refine (((after left).append_right _).append_left _).trans ?_
  cases dealt with
  | freed code done quiet callbacks next kept hand passed ran =>
    rw [kept, hand, passed, ran]
    refine List.Perm.trans (List.Perm.append_left _ ?_) placed
    -- The actions of the code go from those kept to those of the thread.
    have parted : (roster.kept.filter (fun held => held.code = code) ++
        roster.kept.filter fun held => held.code ≠ code).Perm roster.kept := by
      simpa using List.filter_append_perm (fun held : Registration => held.code = code) roster.kept
    generalize roster.kept.filter (fun held => decide (held.code = code)) = taken at parted ⊢
    generalize roster.kept.filter (fun held => decide (held.code ≠ code)) = others at parted ⊢
    calc
      (taken ++ mine ++ apart) ++ others = taken ++ ((mine ++ apart) ++ others) := by
        simp only [List.append_assoc]
      List.Perm _ ((mine ++ apart) ++ (taken ++ others)) := List.perm_append_comm_assoc ..
      List.Perm _ ((mine ++ apart) ++ roster.kept) := parted.append_left _
  | kept new number inside quiet callbacks next kept hand passed ran =>
    rw [kept, hand, passed, ran, ← List.append_assoc, ← List.append_assoc]
    rw [← List.append_assoc] at placed
    exact placed.append_right _
  | late new number inside done quiet callbacks next kept hand passed ran =>
    rw [kept, hand, passed, ran]
    refine List.perm_middle.trans ?_
    exact (placed.cons new).trans (List.perm_append_singleton new roster.passed).symm
  | began loud callbacks next kept hand passed ran =>
    obtain ⟨first, more, rfl, _, _⟩ := sound.next_action stack own loud
    rw [kept, hand, passed, ran]
    simpa using placed
  | nothing quiet callbacks next kept hand passed ran =>
    rw [kept, hand, passed, ran]
    exact placed

end Step

include sound

theorem step (thread : Nat) : (roster.step thread).Sound := by
  cases roster.threads.stepped thread with
  | idle nothing _ =>
    have same : roster.step thread = roster := by simp only [Roster.step, nothing]
    exact same.symm ▸ sound
  | worked task rest others next stack after work =>
    have reaches : thread < roster.waiting.length :=
      sound.width ▸ (List.getElem?_eq_some_iff.mp stack).1
    have own := List.getElem?_eq_getElem reaches
    obtain ⟨left, waiting, dealt⟩ := roster.dealt next own
    have threads := roster.threads_step thread
    have codes : (roster.step thread).threads.codes = (roster.threads.codes.step task).1 := by
      rw [threads, work.codes]
    constructor
    case closed => exact threads ▸ sound.closed.step thread
    case width => rw [waiting, threads, after, List.length_set, List.length_set, sound.width]
    case numbered => exact dealt.numbered_step sound.numbered
    case placed => exact sound.placed_step stack own waiting dealt
    case within => exact codes ▸ dealt.within_step sound.within
    case callbacks => exact fun other => codes ▸ dealt.callbacks_step sound.callbacks other
    case queues =>
      rw [threads, after]
      exact sound.stacks_step stack own waiting dealt
    case freed => exact codes ▸ sound.freed_step own waiting dealt
    case seen => exact codes ▸ sound.seen_step stack own dealt
    case fired => exact codes ▸ sound.fired_step stack own dealt

theorem run (schedule : List Nat) : (roster.run schedule).Sound := by
  induction schedule generalizing roster with
  | nil => exact sound
  | cons thread rest ih => exact ih (sound.step thread)

theorem passed_step (thread : Nat) :
    ∃ more, (roster.step thread).passed = roster.passed ++ more := by
  cases roster.threads.stepped thread with
  | idle nothing _ => exact ⟨[], by simp only [Roster.step, nothing, List.append_nil]⟩
  | worked task _ _ next stack =>
    have reaches : thread < roster.waiting.length :=
      sound.width ▸ (List.getElem?_eq_some_iff.mp stack).1
    obtain ⟨_, _, dealt⟩ := roster.dealt next (List.getElem?_eq_getElem reaches)
    rcases dealt.passed_step with same | ⟨new, _, _, more⟩
    · exact ⟨[], same.trans (List.append_nil _).symm⟩
    · exact ⟨[new], more⟩

theorem passed_run (schedule : List Nat) :
    ∃ more, (roster.run schedule).passed = roster.passed ++ more := by
  induction schedule generalizing roster with
  | nil => exact ⟨[], (List.append_nil _).symm⟩
  | cons thread rest ih =>
    obtain ⟨first, here⟩ := sound.passed_step thread
    obtain ⟨more, later⟩ := ih (sound.step thread)
    exact ⟨first ++ more, later.trans (by rw [here, List.append_assoc])⟩

theorem nodup_numbers : (roster.passed.map (·.number)).Nodup :=
  sound.numbered ▸ List.nodup_range

/-- The runs of an action are counted among all places where it can be. -/
theorem runs_le_one (number : Nat) : roster.runs number ≤ 1 := by
  have everywhere := sound.placed.countP_eq fun held => decide (held.number = number)
  have once : roster.passed.countP (fun held => decide (held.number = number)) ≤ 1 := by
    have counted := List.nodup_iff_count_le_one.mp sound.nodup_numbers number
    rwa [List.count, List.countP_map] at counted
  rw [List.countP_append, List.countP_map] at everywhere
  change roster.runs number + _ = _ at everywhere
  omega

theorem runs_pos_iff {held : Registration} (member : held ∈ roster.passed) :
    0 < roster.runs held.number ↔ ∃ outcome, (held, outcome) ∈ roster.ran := by
  constructor
  · intro some
    obtain ⟨⟨other, outcome⟩, ran, same⟩ := List.countP_pos_iff.mp some
    have passed := sound.mem_passed (List.mem_append_left _ (List.mem_map_of_mem ran))
    have alike := List.inj_on_of_nodup_map sound.nodup_numbers passed member
      (of_decide_eq_true same)
    exact ⟨outcome, alike ▸ ran⟩
  · rintro ⟨outcome, ran⟩
    exact List.countP_pos_iff.mpr ⟨_, ran, decide_eq_true rfl⟩

/-- An action of a completed code has run unless a thread has yet to run it. -/
theorem ran_of_done {held : Registration} (member : held ∈ roster.passed)
    (done : roster.threads.codes.outcome held.code ≠ .pending)
    (none_left : held.callback.first ∉ roster.threads.tasks) :
    ∃ outcome, (held, outcome) ∈ roster.ran := by
  rcases List.mem_append.mp (sound.placed.mem_iff.mpr member) with ran | later
  · obtain ⟨⟨_, outcome⟩, there, rfl⟩ := List.mem_map.mp ran
    exact ⟨outcome, there⟩
  · rcases List.mem_append.mp later with waits | kept
    · obtain ⟨mine, there, here⟩ := List.mem_flatten.mp waits
      obtain ⟨thread, own⟩ := List.getElem?_of_mem there
      have inside : thread < roster.threads.todo.length :=
        sound.width ▸ (List.getElem?_eq_some_iff.mp own).1
      have stack := sound.queues thread _ mine (List.getElem?_eq_getElem inside) own
      have queued : held.callback.first ∈ (roster.threads.todo[thread]).filter Task.begins :=
        stack ▸ List.mem_map_of_mem here
      exact absurd (List.mem_flatten.mpr
        ⟨_, List.getElem_mem inside, (List.mem_filter.mp queued).1⟩) none_left
    · exact absurd (sound.kept_pending kept) done

theorem runs_eq_one {held : Registration} (member : held ∈ roster.passed)
    (done : roster.threads.codes.outcome held.code ≠ .pending)
    (quiet : ∀ task ∈ roster.threads.tasks, task.begins = false) :
    roster.runs held.number = 1 := by
  refine Nat.le_antisymm (sound.runs_le_one _) ((sound.runs_pos_iff member).mpr ?_)
  refine sound.ran_of_done member done fun queued => ?_
  have loud := held.callback.begins_first
  rw [quiet _ queued] at loud
  cases loud

end Sound

theorem sound_start (programs : List (List Command)) : (start programs).Sound := by
  have none : (start programs).waiting.flatten = [] := by simp [start]
  constructor
  case closed => exact Threads.closed_start programs
  case width => simp [start, Threads.start]
  case numbered => rfl
  case placed => rw [none]; exact .refl _
  case within => exact nofun
  case callbacks => exact fun _ => rfl
  case queues =>
    intro thread tasks mine there own
    obtain ⟨_, _, rfl⟩ := List.mem_map.mp (List.mem_of_getElem? own)
    obtain ⟨commands, _, rfl⟩ := List.mem_map.mp (List.mem_of_getElem? there)
    refine List.filter_eq_nil_iff.mpr fun task member => ?_
    obtain ⟨command, _, rfl⟩ := List.mem_map.mp member
    exact Bool.false_ne_true
  case freed => rw [none]; exact List.forall_mem_nil _
  case seen => exact nofun
  case fired => rfl

/-- An action of a pending code is kept with it. -/
theorem Sound.mem_callbacks {roster : Roster} (sound : roster.Sound) {held : Registration}
    (member : held ∈ roster.passed)
    (pending : roster.threads.codes.outcome held.code = .pending) :
    held.callback ∈ roster.threads.codes.callbacks held.code := by
  rcases List.mem_append.mp (sound.placed.mem_iff.mpr member) with ran | later
  · obtain ⟨⟨_, outcome⟩, there, rfl⟩ := List.mem_map.mp ran
    obtain ⟨final, same⟩ := sound.seen _ outcome there
    exact absurd (same.symm.trans pending) final
  · rcases List.mem_append.mp later with waits | kept
    · exact absurd pending (sound.freed held waits)
    · rw [sound.callbacks]
      exact List.mem_map_of_mem (List.mem_filter.mpr ⟨kept, decide_eq_true rfl⟩)

/-- The actions that run are those whose tasks the threads carry out. -/
theorem Sound.began_run {roster : Roster} (sound : roster.Sound) (schedule : List Nat) :
    (roster.run schedule).ran.map (·.1.callback.first) =
      roster.ran.map (·.1.callback.first) ++
        (roster.threads.carried schedule).filter Task.begins := by
  induction schedule generalizing roster with
  | nil => exact (List.append_nil _).symm
  | cons thread rest ih =>
    refine (ih (sound.step thread)).trans ?_
    rw [threads_step, Threads.carried, List.filter_append, ← List.append_assoc]
    congr 1
    cases roster.threads.stepped thread with
    | idle nothing _ =>
      have same : roster.step thread = roster := by simp only [Roster.step, nothing]
      rw [same, nothing]
      exact (List.append_nil _).symm
    | worked task more _ next stack =>
      have reaches : thread < roster.waiting.length :=
        sound.width ▸ (List.getElem?_eq_some_iff.mp stack).1
      have own := List.getElem?_eq_getElem reaches
      obtain ⟨_, _, dealt⟩ := roster.dealt next own
      rw [next, Option.toList_some]
      rcases dealt.ran_step with ⟨same, quiet⟩ | ⟨loud, after⟩
      · rw [same, List.filter_cons_of_neg (Bool.eq_false_iff.mp quiet), List.filter_nil,
          List.append_nil]
      · obtain ⟨first, _, hand, begins, _⟩ := sound.next_action stack own loud
        rw [after, hand, List.filter_cons_of_pos loud, List.map_append, ← begins]
        rfl

/-- Every action that a thread has registered with a code is on record. -/
theorem Sound.passed_of_carried {roster : Roster} (sound : roster.Sound) (schedule : List Nat)
    {code : CodeId} {callback : Callback}
    (carried : .register code callback ∈ roster.threads.carried schedule) :
    ∃ held ∈ (roster.run schedule).passed, held.code = code ∧ held.callback = callback := by
  induction schedule generalizing roster with
  | nil => cases carried
  | cons thread rest ih =>
    rw [Threads.carried] at carried
    rcases List.mem_append.mp carried with now | later
    · have next := Option.mem_toList.mp now
      obtain ⟨more, passed⟩ := (sound.step thread).passed_run rest
      refine ⟨⟨roster.passed.length, code, callback⟩, ?_, rfl, rfl⟩
      change _ ∈ ((roster.step thread).run rest).passed
      rw [passed, roster.passed_step next]
      refine List.mem_append_left _ (List.mem_append_right _ ?_)
      cases roster.threads.stepped thread with
      | idle nothing _ => cases nothing.symm.trans next
      | worked task _ _ there _ _ work =>
        cases next.symm.trans there
        have inside := sound.closed.tasks _ work.mem code List.mem_cons_self
        rw [Codes.handling, if_pos inside]
        exact List.mem_singleton_self _
    · exact ih (sound.step thread) (roster.threads_step thread ▸ later)

/-- What holds of the actions passed to codes at any time, after threads have carried out tasks. -/
structure RunsOnce (roster : Roster) (carried : List Task) : Prop where
  numbered : roster.passed.map (·.number) = List.range roster.passed.length
  began : roster.ran.map (·.1.callback.first) = carried.filter Task.begins
  fired : roster.threads.codes.fired =
    (roster.ran.filterMap fun entry => entry.1.callback.first.label?).reverse
  waits : ∀ held ∈ roster.passed, roster.threads.codes.outcome held.code = .pending →
    roster.runs held.number = 0 ∧
      held.callback ∈ roster.threads.codes.callbacks held.code
  once : ∀ number, roster.runs number ≤ 1
  /-- The code is done when an action runs, and had then the outcome that it has now. -/
  seen : ∀ held outcome, (held, outcome) ∈ roster.ran → held ∈ roster.passed ∧
    outcome ≠ .pending ∧ roster.threads.codes.outcome held.code = outcome
  released : ∀ code, roster.threads.codes.outcome code ≠ .pending →
    roster.threads.codes.callbacks code = []
  settled : (∀ task ∈ roster.threads.tasks, task.begins = false) → ∀ held ∈ roster.passed,
    roster.threads.codes.outcome held.code ≠ .pending → roster.runs held.number = 1

theorem Sound.runsOnce {roster : Roster} (sound : roster.Sound) {carried : List Task}
    (began : roster.ran.map (·.1.callback.first) = carried.filter Task.begins) :
    roster.RunsOnce carried where
  numbered := sound.numbered
  began := began
  fired := sound.fired
  waits := fun held member pending => by
    refine ⟨Nat.eq_zero_of_not_pos fun some => ?_, sound.mem_callbacks member pending⟩
    obtain ⟨outcome, ran⟩ := (sound.runs_pos_iff member).mp some
    obtain ⟨final, same⟩ := sound.seen held outcome ran
    exact final (same.symm.trans pending)
  once := sound.runs_le_one
  seen := fun held outcome ran =>
    ⟨sound.mem_passed (List.mem_append_left _ (List.mem_map_of_mem ran)),
      sound.seen held outcome ran⟩
  released := sound.closed.codes.released
  settled := fun quiet _ member done => sound.runs_eq_one member done quiet

/-- Whatever the threads go on to do, an action of a completed code has run once each of them has
had turns for all that remained to be done. -/
theorem Sound.runs_run {roster : Roster} (sound : roster.Sound) {held : Registration}
    (member : held ∈ roster.passed)
    (done : roster.threads.codes.outcome held.code ≠ .pending) (schedule : List Nat)
    (turns : ∀ thread < roster.threads.todo.length,
      roster.threads.weight ≤ schedule.count thread) :
    (roster.run schedule).runs held.number = 1 := by
  have inside := sound.within held member
  obtain ⟨more, passed⟩ := sound.passed_run schedule
  have threads := roster.threads_run schedule
  have finished : (roster.run schedule).threads.tasks = [] := by
    rw [threads]
    refine Threads.tasks_eq_nil fun thread reaches => ?_
    rw [Threads.length_todo_run] at reaches
    exact roster.threads.idle_of_turns thread schedule (turns thread reaches)
  refine (sound.run schedule).runs_eq_one (passed ▸ List.mem_append_left _ member) ?_ ?_
  · rw [threads, roster.threads.outcome_run_of_done schedule inside done]
    exact done
  · rw [finished]
    exact List.forall_mem_nil _

/-- Whichever way threads interleave: a code gets the outcome of the first call to complete it and
keeps it; an action passed to a code runs once if the code is ever completed, not before that, and
finds the outcome that the code keeps. -/
theorem actions_run_once (programs : List (List Command)) (before after : List Nat) :
    let earlier := (start programs).run before
    let roster := earlier.run after
    roster.threads = (Threads.start programs).run (before ++ after) ∧
      roster.RunsOnce ((Threads.start programs).carried (before ++ after)) ∧
      (∀ code < earlier.threads.codes.cells.length, roster.threads.codes.outcome code =
        if earlier.threads.codes.outcome code = .pending then
          ((earlier.threads.completions code after).head?).getD .pending
        else earlier.threads.codes.outcome code) ∧
      ∀ held ∈ roster.passed, roster.threads.codes.outcome held.code ≠ .pending →
        ∀ later : List Nat, (∀ thread < programs.length,
          roster.threads.weight ≤ later.count thread) →
            (roster.run later).runs held.number = 1 := by
  intro earlier roster
  have whole : roster = (start programs).run (before ++ after) := List.foldl_append.symm
  have sound : roster.Sound := whole ▸ (sound_start programs).run (before ++ after)
  have threads : roster.threads = (Threads.start programs).run (before ++ after) :=
    whole ▸ threads_run (start programs) (before ++ after)
  have began := (sound_start programs).began_run (before ++ after)
  rw [← whole] at began
  refine ⟨threads, sound.runsOnce began, fun code inside => ?_,
    fun held member done later turns => ?_⟩
  · have later : roster.threads = earlier.threads.run after := threads_run earlier after
    rw [later]
    exact earlier.threads.outcome_run after inside
  · refine sound.runs_run member done later fun thread reaches => turns thread ?_
    rw [threads, Threads.length_todo_run] at reaches
    simpa [Threads.start] using reaches

/-- Two threads complete a code; the one that comes second wins. The action registered before that
completes the code again and passes it another action, and one is registered after that. -/
theorem actions_run_once_raced :
    let programs : List (List Command) :=
      [[.create "code" .pending, .whenComplete "code" "early"
          [.complete "code" (.failed none), .whenComplete "code" "nested" []],
          .complete "code" .succeeded],
        [.complete "code" (.failed (some .alreadyShutdown)), .whenComplete "code" "late" []]]
    let before := [0, 0, 0, 0]
    let after := [1, 1, 0, 1, 1, 1]
    let later := (List.replicate 8 [0, 1]).flatten
    let earlier := (start programs).run before
    let roster := earlier.run after
    roster.RunsOnce ((Threads.start programs).carried (before ++ after)) ∧
      earlier.threads.codes.outcome 0 = .pending ∧
      earlier.threads.completions 0 after =
        [.failed (some .alreadyShutdown), .succeeded, .failed none] ∧
      roster.threads.codes.outcome 0 = .failed (some .alreadyShutdown) ∧
      roster.threads.codes.fired = ["early"] ∧
      roster.passed.map (·.callback.first.label?) = [some "early"] ∧
      (roster.run later).threads.codes.fired = ["late", "nested", "early"] ∧
      ∀ held ∈ roster.passed, (roster.run later).runs held.number = 1 := by
  intro programs before after later earlier roster
  have there : (start programs).run before = earlier := rfl
  have here : earlier.run after = roster := rfl
  have exactly := actions_run_once programs before after
  simp only [there, here] at exactly
  obtain ⟨_, once, first, runs⟩ := exactly
  have pending : earlier.threads.codes.outcome 0 = .pending := by decide +kernel
  have completions : earlier.threads.completions 0 after =
      [.failed (some .alreadyShutdown), .succeeded, .failed none] := by decide +kernel
  have outcome : roster.threads.codes.outcome 0 = .failed (some .alreadyShutdown) := by
    have told := first 0 (by decide +kernel)
    rw [if_pos pending, completions] at told
    exact told
  refine ⟨once, pending, completions, outcome, by decide +kernel, by decide +kernel,
    by decide +kernel, fun held member => runs held member ?_ later (by decide +kernel)⟩
  have only : ∀ held ∈ roster.passed, held.code = 0 := by decide +kernel
  rw [only held member, outcome]
  exact nofun

end Roster

end Metering.Completion
