import Metering.Proofs.Completion.Threads

/-!
Reports to an aggregate. A child of an aggregate owes it one report for each time it is listed: as a
registration, then as a callback kept with the child, then as a task of the thread that completes
the child, until the report is counted. No step loses a report or makes a new one.
-/

namespace Metering.Completion

def Callback.reportsTo (aggregate : CodeId) : Callback → Bool
  | .settle _ target => target = aggregate
  | _ => false

/-- Whether a task is a stage of a report to an aggregate. -/
def Task.reportsTo (aggregate : CodeId) : Task → Bool
  | .register _ callback => callback.reportsTo aggregate
  | .settle _ target => target = aggregate
  | .discount target => target = aggregate
  | _ => false

/-- Whether a task is the last stage of a report to an aggregate. -/
def Task.counts (aggregate : CodeId) : Task → Bool
  | .discount target => target = aggregate
  | _ => false

namespace Codes

variable (codes : Codes) (aggregate : CodeId)

/-- How many reports to an aggregate are kept with pending codes. -/
def reports : Nat :=
  total (fun cell => cell.callbacks.countP (·.reportsTo aggregate)) codes.cells

theorem reports_congr {codes next : Codes} (same : next.cells = codes.cells) :
    next.reports aggregate = codes.reports aggregate := by
  rw [reports, same, reports]

theorem reports_set {next : Codes} {code : CodeId} {cell changed : Cell}
    (found : codes.cell? code = some cell) (cells : next.cells = codes.cells.set code changed) :
    next.reports aggregate + cell.callbacks.countP (·.reportsTo aggregate) =
      codes.reports aggregate + changed.callbacks.countP (·.reportsTo aggregate) := by
  rw [reports, reports, cells]
  exact total_set (fun cell => cell.callbacks.countP (·.reportsTo aggregate)) codes.cells code
    cell changed found

theorem reports_setCell {code : CodeId} {cell : Cell} (found : codes.cell? code = some cell)
    (changed : Cell) :
    (codes.setCell code changed).reports aggregate +
        cell.callbacks.countP (·.reportsTo aggregate) =
      codes.reports aggregate + changed.callbacks.countP (·.reportsTo aggregate) :=
  codes.reports_set aggregate found rfl

theorem reports_push {next : Codes} {cell : Cell} (fresh : cell.callbacks = [])
    (cells : next.cells = codes.cells ++ [cell]) :
    next.reports aggregate = codes.reports aggregate := by
  simp [reports, cells, fresh, total_append, total]

theorem reports_eq_zero_iff :
    codes.reports aggregate = 0 ↔
      ∀ code, ∀ callback ∈ codes.callbacks code, callback.reportsTo aggregate = false := by
  simp only [reports, total_eq_zero_iff, List.countP_eq_zero, Bool.not_eq_true]
  constructor
  · intro none code callback kept
    cases found : codes.cell? code with
    | none =>
      rw [callbacks, found] at kept
      cases kept
    | some cell =>
      rw [callbacks_eq found] at kept
      exact none cell (List.mem_of_getElem? found) callback kept
  · intro none cell member callback kept
    obtain ⟨code, found⟩ := List.getElem?_of_mem member
    exact none code callback ((callbacks_eq found).symm ▸ kept)

theorem reports_tasks (callback : Callback) :
    callback.tasks.countP (·.reportsTo aggregate) =
      if callback.reportsTo aggregate then 1 else 0 := by
  cases callback with
  | settle child target => simp [Callback.tasks, Callback.reportsTo, Task.reportsTo]
  | forward source target => simp [Callback.tasks, Callback.reportsTo, Task.reportsTo]
  | wake future => simp [Callback.tasks, Callback.reportsTo, Task.reportsTo]
  | script label steps =>
    simp [Callback.tasks, Callback.reportsTo, Task.reportsTo, List.countP_eq_zero]

theorem reports_flatMap_tasks (callbacks : List Callback) :
    (callbacks.flatMap Callback.tasks).countP (·.reportsTo aggregate) =
      callbacks.countP (·.reportsTo aggregate) := by
  induction callbacks with
  | nil => rfl
  | cons callback rest ih =>
    rw [List.flatMap_cons, List.countP_append, ih, reports_tasks, List.countP_cons, Nat.add_comm]

/-- A code that an instruction adds is another one than an aggregate that was there. -/
theorem reports_step_follow (command : Command) (inside : aggregate < codes.cells.length) :
    (codes.step (.follow command)).1.reports aggregate = codes.reports aggregate ∧
      (codes.step (.follow command)).2.countP (·.reportsTo aggregate) = 0 := by
  refine ⟨?_, ?_⟩
  · cases codes.moved_step (.follow command) with
    | same cells => exact reports_congr aggregate cells
    | completed _ _ _ is => cases is
    | kept code callback cell is found _ cells _ =>
      obtain ⟨future, rfl⟩ : ∃ future, callback = .wake future := by
        rcases is with is | wake
        · cases is
        · exact wake
      have sums := codes.reports_set aggregate found cells
      rw [List.countP_append] at sums
      exact Nat.add_right_cancel sums
    | counted _ _ is => cases is
    | added cell fresh cells => exact codes.reports_push aggregate fresh cells
  · rw [List.countP_eq_zero]
    intro next member
    cases codes.next_of_mem_step _ next member with
    | ordered => exact Bool.false_ne_true
    | linked => exact Bool.false_ne_true
    | scripted => exact Bool.false_ne_true
    | gathered =>
      simp only [Task.reportsTo, Callback.reportsTo, decide_eq_true_eq]
      exact Nat.ne_of_gt inside

/-- A task that is a stage of a report is followed by the next stage; only counting a report ends
it. -/
theorem reports_step (task : Task) (inside : aggregate < codes.cells.length)
    (within : ∀ code ∈ task.codes, code < codes.cells.length) :
    (codes.step task).1.reports aggregate +
        ((codes.step task).2.countP (·.reportsTo aggregate) +
          if task.counts aggregate then 1 else 0) =
      codes.reports aggregate + if task.reportsTo aggregate then 1 else 0 := by
  cases task with
  | complete code outcome =>
    change (codes.complete code outcome).1.reports aggregate +
      ((codes.complete code outcome).2.countP (·.reportsTo aggregate) + 0) =
        codes.reports aggregate + 0
    unfold complete
    split
    next => rfl
    next cell found =>
      split
      next =>
        rw [reports_flatMap_tasks]
        exact codes.reports_setCell aggregate found { cell with outcome, callbacks := [] }
      next => rfl
  | register code callback =>
    obtain ⟨cell, found⟩ := cell?_of_lt (within code List.mem_cons_self)
    change (codes.register code callback).1.reports aggregate +
      ((codes.register code callback).2.countP (·.reportsTo aggregate) + 0) =
        codes.reports aggregate + if callback.reportsTo aggregate then 1 else 0
    simp only [register, found]
    split
    next =>
      have sums := codes.reports_setCell aggregate found
        { cell with callbacks := cell.callbacks ++ [callback] }
      rw [List.countP_append, List.countP_singleton] at sums
      dsimp only at sums ⊢
      rw [List.countP_nil]
      omega
    next => rw [reports_tasks, Nat.add_zero]
  | settle child target =>
    by_cases same : target = aggregate <;>
      cases outcome : codes.outcome child <;>
        simp [step, outcome, Task.counts, Task.reportsTo, same]
  | discount target =>
    obtain ⟨cell, found⟩ := cell?_of_lt (within target List.mem_cons_self)
    have sums := codes.reports_setCell aggregate found { cell with awaiting := cell.awaiting - 1 }
    have last : (codes.discount target).2.countP (·.reportsTo aggregate) = 0 := by
      simp only [discount, found]
      split <;> rfl
    change (codes.discount target).1.reports aggregate +
      ((codes.discount target).2.countP (·.reportsTo aggregate) + _) = _
    rw [last, Nat.zero_add]
    simp only [discount, found]
    exact congrArg (· + _) (Nat.add_right_cancel sums)
  | forward source target => rfl
  | takeWaker future =>
    change (codes.takeWaker future).1.reports aggregate +
      ((codes.takeWaker future).2.countP (·.reportsTo aggregate) + 0) =
        codes.reports aggregate + 0
    unfold takeWaker
    split
    next => rfl
    next => split <;> rfl
  | wake waker => rfl
  | fire label => rfl
  | follow command =>
    obtain ⟨kept, nothing⟩ := codes.reports_step_follow aggregate command inside
    rw [kept, nothing]
    rfl

theorem awaiting_step (task : Task) (inside : aggregate < codes.cells.length) :
    (codes.step task).1.awaiting aggregate =
      codes.awaiting aggregate - if task.counts aggregate then 1 else 0 := by
  by_cases counts : task = .discount aggregate
  · subst counts
    obtain ⟨cell, found⟩ := cell?_of_lt inside
    have changed : (codes.setCell aggregate { cell with awaiting := cell.awaiting - 1 }).cell?
        aggregate = _ := codes.cell?_set inside rfl aggregate
    simp only [step, discount, found, Task.counts, decide_true, if_true]
    rw [awaiting_eq (changed.trans (if_pos rfl)), awaiting_eq found]
  · have none : task.counts aggregate = false := by
      cases task with
      | discount target => exact decide_eq_false fun same => counts (by rw [same])
      | _ => rfl
    rw [none, if_neg Bool.false_ne_true, Nat.sub_zero]
    cases codes.fate task inside with
    | unchanged _ _ same => exact same
    | completed _ _ _ _ _ _ same => exact same
    | kept _ _ _ _ _ same => exact same
    | counted is => exact absurd is counts

theorem step_discount_of_one (inside : aggregate < codes.cells.length)
    (one : codes.awaiting aggregate = 1) :
    (codes.step (.discount aggregate)).2 = [.complete aggregate .succeeded] := by
  obtain ⟨cell, found⟩ := cell?_of_lt inside
  simp only [step, discount, found, ← awaiting_eq found, one, if_true]

theorem step_discount_of_ne (more : codes.awaiting aggregate ≠ 1) :
    (codes.step (.discount aggregate)).2 = [] := by
  simp only [step, discount]
  split
  next => rfl
  next cell found => exact if_neg (awaiting_eq found ▸ more)

end Codes

end Metering.Completion
