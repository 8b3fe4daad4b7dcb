import Metering.Proofs.Completion.Steps

/-!
Threads at work on codes. A schedule says which thread takes the next step, so a run for every
schedule is a run for every way in which the threads can interleave. A single thread with a stack
of tasks is one that works them off without being interrupted; it always comes to an end.
-/

namespace Metering.Completion

def Task.isInstruction : Task → Bool
  | .follow _ => true
  | _ => false

namespace Threads

/-- The next task of a thread. -/
def next? (threads : Threads) (thread : Nat) : Option Task :=
  (threads.todo[thread]?).bind List.head?

/-- Lets threads take steps in the order of a schedule. -/
def run (threads : Threads) (schedule : List Nat) : Threads := schedule.foldl step threads

/-- Everything that the threads have to do. -/
def tasks (threads : Threads) : List Task := threads.todo.flatten

/-- Threads that follow instructions, before any of them has begun. -/
def start (programs : List (List Command)) : Threads :=
  { codes := .empty, todo := programs.map (·.map .follow) }

/-- Whether no call is under way: all that is left to do are instructions. -/
def Resting (threads : Threads) : Prop := ∀ task ∈ threads.tasks, task.isInstruction = true

instance (threads : Threads) : Decidable threads.Resting :=
  inferInstanceAs (Decidable (∀ _ ∈ _, _))

theorem Resting.follow {threads : Threads} (resting : threads.Resting) {task : Task}
    (member : task ∈ threads.tasks) : ∃ command, task = .follow command := by
  have instruction := resting task member
  cases task with
  | follow command => exact ⟨command, rfl⟩
  | _ => cases instruction

theorem resting_start (programs : List (List Command)) : (start programs).Resting := by
  intro task member
  obtain ⟨stack, program, there⟩ := List.mem_flatten.mp member
  obtain ⟨commands, _, rfl⟩ := List.mem_map.mp program
  obtain ⟨command, _, rfl⟩ := List.mem_map.mp there
  rfl

/-- What is one thread's stands apart from what is all others'. -/
theorem perm_flatten {α : Type} (piles : List (List α)) (thread : Nat) (stack : List α)
    (found : piles[thread]? = some stack) : ∃ others, piles.flatten.Perm (stack ++ others) ∧
      ∀ tasks, (piles.set thread tasks).flatten.Perm (tasks ++ others) := by
  induction piles generalizing thread with
  | nil => cases found
  | cons first rest ih =>
    cases thread with
    | zero =>
      cases found
      exact ⟨rest.flatten, .refl _, fun tasks => .refl _⟩
    | succ thread =>
      obtain ⟨others, before, after⟩ := ih thread found
      refine ⟨first ++ others, ?_, fun tasks => ?_⟩
      · exact (before.append_left first).trans (List.perm_append_comm_assoc ..)
      · exact ((after tasks).append_left first).trans (List.perm_append_comm_assoc ..)

/-- One task carried out: what it leaves to do has come in its place, next to what remains. -/
structure Worked (threads : Threads) (task : Task) (remaining : List Task) (after : Threads) :
    Prop where
  codes : after.codes = (threads.codes.step task).1
  before_tasks : threads.tasks.Perm (task :: remaining)
  after_tasks : after.tasks.Perm ((threads.codes.step task).2 ++ remaining)

namespace Worked

variable {threads after : Threads} {task : Task} {remaining : List Task}
  (work : threads.Worked task remaining after)

include work

theorem mem : task ∈ threads.tasks := work.before_tasks.mem_iff.mpr List.mem_cons_self

theorem done_or_left {other : Task} (member : other ∈ threads.tasks) :
    other = task ∨ other ∈ after.tasks := by
  rcases List.mem_cons.mp (work.before_tasks.mem_iff.mp member) with same | remains
  · exact .inl same
  · exact .inr (work.after_tasks.mem_iff.mpr (List.mem_append_right _ remains))

theorem next_or_old {other : Task} (member : other ∈ after.tasks) :
    other ∈ (threads.codes.step task).2 ∨ other ∈ threads.tasks := by
  rcases List.mem_append.mp (work.after_tasks.mem_iff.mp member) with next | remains
  · exact .inl next
  · exact .inr (work.before_tasks.mem_iff.mpr (List.mem_cons_of_mem _ remains))

theorem mem_next {other : Task} (next : other ∈ (threads.codes.step task).2) :
    other ∈ after.tasks :=
  work.after_tasks.mem_iff.mpr (List.mem_append_left _ next)

theorem countP_tasks (holds : Task → Bool) :
    after.tasks.countP holds + (if holds task then 1 else 0) =
      threads.tasks.countP holds + (threads.codes.step task).2.countP holds := by
  rw [work.after_tasks.countP_eq, work.before_tasks.countP_eq, List.countP_append,
    List.countP_cons]
  omega

theorem length_le : threads.codes.cells.length ≤ after.codes.cells.length :=
  work.codes ▸ threads.codes.length_le_step task

theorem outcome_of_done {code : CodeId} (inside : code < threads.codes.cells.length)
    (done : threads.codes.outcome code ≠ .pending) :
    after.codes.outcome code = threads.codes.outcome code := by
  rw [work.codes]
  exact threads.codes.outcome_step_of_done task inside done

omit work in
theorem completed {code : CodeId} {outcome : Outcome}
    (work : threads.Worked (.complete code outcome) remaining after)
    (inside : code < threads.codes.cells.length) (final : outcome ≠ .pending) :
    after.codes.outcome code ≠ .pending := by
  by_cases pending : threads.codes.outcome code = .pending
  · rw [work.codes, threads.codes.outcome_step_complete inside pending final]
    exact final
  · rw [work.outcome_of_done inside pending]
    exact pending

end Worked

/-- One step of a thread: it has nothing to do, or carries out the task on top of its stack. -/
inductive Stepped (threads : Threads) (thread : Nat) : Prop where
  | idle (nothing : threads.next? thread = none) (same : threads.step thread = threads)
  | worked (task : Task) (rest others : List Task) (next : threads.next? thread = some task)
      (stack : threads.todo[thread]? = some (task :: rest))
      (after : (threads.step thread).todo =
        threads.todo.set thread ((threads.codes.step task).2 ++ rest))
      (work : threads.Worked task (rest ++ others) (threads.step thread))

theorem stepped (threads : Threads) (thread : Nat) : threads.Stepped thread := by
  cases stack : threads.todo[thread]? with
  | none => exact .idle (by rw [next?, stack]; rfl) (by simp only [step, stack])
  | some tasks =>
    cases tasks with
    | nil => exact .idle (by rw [next?, stack]; rfl) (by simp only [step, stack])
    | cons task rest =>
      have after : threads.step thread =
          { codes := (threads.codes.step task).1
            todo := threads.todo.set thread ((threads.codes.step task).2 ++ rest) } := by
        simp only [step, stack]
      obtain ⟨others, before_tasks, after_tasks⟩ := perm_flatten threads.todo thread _ stack
      refine .worked task rest others (by rw [next?, stack]; rfl) stack (by rw [after])
        ⟨by rw [after], before_tasks, ?_⟩
      rw [after, tasks, ← List.append_assoc]
      exact after_tasks _

/-- Whether the codes are closed and everything to be done concerns codes there are. -/
structure Closed (threads : Threads) : Prop where
  codes : threads.codes.Closed
  tasks : ∀ task ∈ threads.tasks, ∀ code ∈ task.codes, code < threads.codes.cells.length

theorem closed_start (programs : List (List Command)) : (start programs).Closed := by
  refine ⟨Codes.closed_empty, ?_⟩
  intro task member code concerned
  obtain ⟨command, rfl⟩ := (resting_start programs).follow member
  cases concerned

theorem Closed.step {threads : Threads} (closed : threads.Closed) (thread : Nat) :
    (threads.step thread).Closed := by
  cases threads.stepped thread with
  | idle _ same => exact same.symm ▸ closed
  | worked task rest others next stack after work =>
    have within := closed.tasks task work.mem
    refine ⟨?_, ?_⟩
    · rw [work.codes]
      exact closed.codes.step within
    · intro other member code concerned
      rcases work.next_or_old member with new | old
      · rw [work.codes]
        exact closed.codes.next within new code concerned
      · exact Nat.lt_of_lt_of_le (closed.tasks other old code concerned) work.length_le

theorem Closed.run {threads : Threads} (closed : threads.Closed) (schedule : List Nat) :
    (threads.run schedule).Closed := by
  induction schedule generalizing threads with
  | nil => exact closed
  | cons thread rest ih => exact ih (closed.step thread)

theorem length_le_step (threads : Threads) (thread : Nat) :
    threads.codes.cells.length ≤ (threads.step thread).codes.cells.length := by
  cases threads.stepped thread with
  | idle _ same => exact Nat.le_of_eq (by rw [same])
  | worked task _ _ _ _ _ work => exact work.length_le

/-- A completed code keeps its outcome, whatever the threads do. -/
theorem outcome_run_of_done (threads : Threads) (schedule : List Nat) {code : CodeId}
    (inside : code < threads.codes.cells.length) (done : threads.codes.outcome code ≠ .pending) :
    (threads.run schedule).codes.outcome code = threads.codes.outcome code := by
  induction schedule generalizing threads with
  | nil => rfl
  | cons thread rest ih =>
    have here : (threads.step thread).codes.outcome code = threads.codes.outcome code := by
      cases threads.stepped thread with
      | idle _ same => rw [same]
      | worked task _ _ _ _ _ work => exact work.outcome_of_done inside done
    have later := ih (threads.step thread)
      (Nat.lt_of_lt_of_le inside (threads.length_le_step thread)) (here.symm ▸ done)
    exact later.trans here

end Threads

end Metering.Completion
