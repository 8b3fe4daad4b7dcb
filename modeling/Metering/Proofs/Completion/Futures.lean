import Metering.Proofs.Completion.Actions

/-!
Futures. A future that is polled while its code is pending keeps the waker of the last poll, and
registers with the code the first time. The action that it registers takes the waker that the future
holds when the code has completed, and leaves it to be woken. No other task changes a future.
-/

namespace Metering.Completion

/-- Whether an action is to wake the waker of a future. -/
def Callback.wakes (future : FutureId) : Callback → Bool
  | .wake other => other = future
  | _ => false

/-- Whether a task takes the waker of a future. -/
def Task.takes (future : FutureId) : Task → Bool
  | .takeWaker other => other = future
  | _ => false

def Task.waker? : Task → Option String
  | .wake waker => some waker
  | _ => none

theorem Callback.wakes_iff {callback : Callback} {future : FutureId} :
    callback.wakes future = true ↔ callback = .wake future := by
  cases callback <;> simp [wakes]

theorem Callback.takes_first (callback : Callback) (future : FutureId) :
    callback.first.takes future = callback.wakes future := by
  cases callback <;> rfl

/-- The future that an action passed to a code is to wake. -/
def Handling.future? : Handling → Option FutureId
  | .passes _ (.wake future) => some future
  | _ => none

namespace Codes

theorem result?_of_done {outcome : Outcome} (done : outcome ≠ .pending) :
    ∃ result, outcome.result? = some result := by
  cases outcome with
  | pending => exact absurd rfl done
  | succeeded => exact ⟨_, rfl⟩
  | failed reason => cases reason <;> exact ⟨_, rfl⟩

section Poll

variable {codes : Codes} {future : FutureId} {held : Future}
  (found : codes.futures[future]? = some held)

include found

/-- Polling answers the result that there is. -/
theorem snd_poll (waker : String) :
    (codes.poll future waker).2 = (codes.outcome held.code).result? := by
  unfold poll
  simp only [found]
  split
  next result answered => rw [answered]
  next none_yet =>
    rw [none_yet]
    split <;> rfl

/-- Once there is a result, polling changes nothing. -/
theorem poll_of_done {result : Except Failure Unit}
    (done : (codes.outcome held.code).result? = some result) (waker : String) :
    codes.poll future waker = (codes, some result) := by
  simp only [poll, found, done]

theorem futures_poll (pending : codes.outcome held.code = .pending) (waker : String) :
    (codes.poll future waker).1.futures =
      codes.futures.set future { held with registered := true, waker := some waker } := by
  have none_yet : (codes.outcome held.code).result? = none := by rw [pending]; rfl
  simp only [poll, found, none_yet]
  split <;> rfl

theorem registersWith?_eq (pending : codes.outcome held.code = .pending)
    (inside : held.code < codes.cells.length) :
    codes.registersWith? future = if held.registered then none else some held.code := by
  simp only [registersWith?, found, Option.bind_some, pending, Outcome.isPending, inside,
    decide_true, Bool.and_true]
  cases held.registered <;> rfl

end Poll

/-- The codes once a waker is known, woken or not. -/
def noting (codes : Codes) (waker : String) : Codes :=
  { codes with wakes := codes.wakes.insert waker ((codes.wakes.get? waker).getD 0) }

theorem step_poll (codes : Codes) {name : String} {future : FutureId}
    (named : codes.futureNames.get? name = some future) (waker : String) :
    codes.step (.follow (.poll name waker)) = (((codes.noting waker).poll future waker).1, []) := by
  simp only [step, follow, named, noting]

/-- The waker that a poll leaves with its future, if it has found no result. -/
def leaves? (codes : Codes) : Task → Option (FutureId × String)
  | .follow (.poll name waker) =>
    (codes.futureNames.get? name).bind fun future => (codes.futures[future]?).bind fun _ =>
      if (codes.poll future waker).2.isNone then some (future, waker) else none
  | _ => none

/-- The waker that a task takes from a future. -/
def takes? (codes : Codes) : Task → Option (FutureId × String)
  | .takeWaker future =>
    (codes.futures[future]?).bind fun held => held.waker.map (future, ·)
  | _ => none

theorem lt_of_leaves? {codes : Codes} {task : Task} {pair : FutureId × String}
    (leaves : codes.leaves? task = some pair) : pair.1 < codes.futures.length := by
  unfold leaves? at leaves
  split at leaves
  next name waker =>
    obtain ⟨future, _, found⟩ := Option.bind_eq_some_iff.mp leaves
    obtain ⟨held, there, chosen⟩ := Option.bind_eq_some_iff.mp found
    split at chosen
    next => cases chosen; exact (List.getElem?_eq_some_iff.mp there).1
    next => cases chosen
  next => cases leaves

theorem lt_of_takes? {codes : Codes} {task : Task} {pair : FutureId × String}
    (takes : codes.takes? task = some pair) : pair.1 < codes.futures.length := by
  unfold takes? at takes
  split at takes
  next future =>
    obtain ⟨held, there, chosen⟩ := Option.bind_eq_some_iff.mp takes
    obtain ⟨waker, _, same⟩ := Option.map_eq_some_iff.mp chosen
    cases same
    exact (List.getElem?_eq_some_iff.mp there).1
  next => cases takes

/-- What a task does with futures. -/
inductive Touched (codes : Codes) (task : Task) : Prop where
  | spared (futures : (codes.step task).1.futures = codes.futures)
      (leaves : codes.leaves? task = none)
      (avoids : ∀ future < codes.futures.length, task.takes future = false)
      (passes : (codes.handling task).future? = none)
  | added (label name : String) (code : CodeId) (is : task = .follow (.await label name))
      (named : codes.named? name = some code)
      (futures : (codes.step task).1.futures = codes.futures ++ [({ code } : Future)])
  | polled (future : FutureId) (waker : String) (held : Future)
      (found : codes.futures[future]? = some held)
      (pending : codes.outcome held.code = .pending)
      (futures : (codes.step task).1.futures =
        codes.futures.set future { held with registered := true, waker := some waker })
      (leaves : codes.leaves? task = some (future, waker))
      (avoids : ∀ future, task.takes future = false)
      (passes : codes.handling task =
        if held.registered then .nothing else .passes held.code (.wake future))
  | taken (future : FutureId) (held : Future) (is : task = .takeWaker future)
      (found : codes.futures[future]? = some held)
      (futures : (codes.step task).1.futures = codes.futures.set future { held with waker := none })
      (leaves : codes.leaves? task = none)
      (takes : codes.takes? task = held.waker.map (future, ·))

section Touched

variable (codes : Codes)

theorem touched_poll (name waker : String)
    (within : ∀ (future : Nat) held, codes.futures[future]? = some held →
      held.code < codes.cells.length) : codes.Touched (.follow (.poll name waker)) := by
  have step : codes.step (.follow (.poll name waker)) = codes.follow (.poll name waker) := rfl
  cases named : codes.futureNames.get? name with
  | none =>
    refine .spared ?_ (by simp [leaves?, named]) (fun _ _ => rfl) ?_
    · simp only [step, follow, named]
    · simp [handling, named, Handling.future?]
  | some future =>
    cases found : codes.futures[future]? with
    | none =>
      refine .spared ?_ (by simp [leaves?, named, found]) (fun _ _ => rfl) ?_
      · simp only [step, follow, named, poll, found]
      · simp [handling, named, registersWith?, found, Handling.future?]
    | some held =>
      have follows := congrArg Prod.fst (codes.step_poll named waker)
      have there : (codes.noting waker).futures[future]? = some held := found
      by_cases pending : codes.outcome held.code = .pending
      · refine .polled future waker held found pending ?_ ?_ (fun _ => rfl) ?_
        · rw [follows]
          exact futures_poll there pending waker
        · simp [leaves?, named, found, snd_poll found, pending, Outcome.result?]
        · rw [handling, named, Option.bind_some,
            registersWith?_eq found pending (within future held found)]
          cases held.registered <;> rfl
      · obtain ⟨result, done⟩ := result?_of_done pending
        refine .spared ?_ ?_ (fun _ _ => rfl) ?_
        · rw [follows, poll_of_done there done]
          rfl
        · simp [leaves?, named, found, snd_poll found, done]
        · have open_ : (codes.outcome held.code).isPending = false :=
            Bool.eq_false_iff.mpr (mt (Outcome.isPending_iff _).mp pending)
          simp [handling, named, registersWith?, found, open_, Handling.future?]

theorem touched_follow (command : Command)
    (within : ∀ (future : Nat) held, codes.futures[future]? = some held →
      held.code < codes.cells.length) : codes.Touched (.follow command) := by
  cases command with
  | poll name waker => exact codes.touched_poll name waker within
  | await future name =>
    have step : codes.step (.follow (.await future name)) = codes.follow (.await future name) := rfl
    cases named : codes.named? name with
    | none =>
      refine .spared ?_ rfl (fun _ _ => rfl) rfl
      simp only [step, follow, named]
    | some code =>
      refine .added future name code rfl named ?_
      simp only [step, follow, named]
  | share name code =>
    refine .spared ?_ rfl (fun _ _ => rfl) rfl
    simp only [step, follow]
    split <;> rfl
  | forward name target =>
    refine .spared ?_ rfl (fun _ _ => rfl) rfl
    simp only [step, follow]
    split <;> rfl
  | _ => exact .spared rfl rfl (fun _ _ => rfl) rfl

theorem touched_step {task : Task}
    (plain : ∀ code future, task ≠ .register code (.wake future))
    (within : ∀ (future : Nat) held, codes.futures[future]? = some held →
      held.code < codes.cells.length) : codes.Touched task := by
  cases task with
  | follow command => exact codes.touched_follow command within
  | complete code outcome =>
    refine .spared ?_ rfl (fun _ _ => rfl) ?_
    · simp only [step, complete]
      split
      next => rfl
      next => split <;> rfl
    · simp only [handling]
      split <;> rfl
  | register code callback =>
    refine .spared ?_ rfl (fun _ _ => rfl) ?_
    · simp only [step, register]
      split
      next => rfl
      next => split <;> rfl
    · simp only [handling]
      split
      next =>
        cases callback with
        | wake future => exact absurd rfl (plain code future)
        | _ => rfl
      next => rfl
  | settle child aggregate =>
    refine .spared ?_ rfl (fun _ _ => rfl) rfl
    simp only [step]
    split <;> rfl
  | discount aggregate =>
    refine .spared ?_ rfl (fun _ _ => rfl) rfl
    simp only [step, discount]
    split <;> rfl
  | takeWaker future =>
    cases found : codes.futures[future]? with
    | none =>
      refine .spared ?_ rfl (fun other inside => decide_eq_false fun same => ?_) rfl
      · simp only [step, takeWaker, found]
      · rw [same, List.getElem?_eq_getElem inside] at found
        cases found
    | some held =>
      refine .taken future held rfl found ?_ rfl (by simp [takes?, found])
      simp only [step, takeWaker, found]
  | _ => exact .spared rfl rfl (fun _ _ => rfl) rfl

end Touched

section Wakes

variable (codes : Codes)

theorem takes_of_takes? {task : Task} {future : FutureId} {waker : String}
    (takes : codes.takes? task = some (future, waker)) : task.takes future = true := by
  cases task with
  | takeWaker other =>
    obtain ⟨held, _, chosen⟩ := Option.bind_eq_some_iff.mp takes
    obtain ⟨_, _, same⟩ := Option.map_eq_some_iff.mp chosen
    cases same
    exact decide_eq_true rfl
  | _ => cases takes

theorem step_of_takes {task : Task} {future : FutureId} {waker : String}
    (takes : codes.takes? task = some (future, waker)) : (codes.step task).2 = [.wake waker] := by
  cases task with
  | takeWaker other =>
    obtain ⟨held, found, chosen⟩ := Option.bind_eq_some_iff.mp takes
    obtain ⟨_, left, same⟩ := Option.map_eq_some_iff.mp chosen
    cases same
    simp only [step, takeWaker, found, left]
  | _ => cases takes

/-- Only a task that takes a waker leaves one to be woken. -/
theorem quiet_of_takes {task : Task} (takes : codes.takes? task = none) :
    ∀ next ∈ (codes.step task).2, next.waker? = none := by
  have quiet : ∀ {callback : Callback} {next : Task}, next ∈ callback.tasks →
      next.waker? = none := by
    intro callback next member
    rcases Callback.begins_or_follows member with begins | ⟨command, rfl⟩
    · cases next <;> first | rfl | cases begins
    · rfl
  intro next member
  cases codes.next_of_mem_step task next member with
  | freed _ _ _ _ callback _ task inside => exact quiet inside
  | late _ _ _ callback task inside => exact quiet inside
  | woken future waker =>
    simp only [step, takeWaker] at member
    split at member
    next => cases member
    next held found =>
      have none : held.waker = none := by simpa [takes?, found] using takes
      rw [none] at member
      cases member
  | _ => rfl

/-- No task leaves a future to be registered later on. -/
theorem plain_step (task : Task) : ∀ next ∈ (codes.step task).2, ∀ code future,
    next ≠ .register code (.wake future) := by
  have plain : ∀ {callback : Callback} {next : Task}, next ∈ callback.tasks → ∀ code future,
      next ≠ .register code (.wake future) := by
    rintro callback next member code future rfl
    rcases Callback.begins_or_follows member with begins | ⟨command, same⟩
    · cases begins
    · cases same
  intro next member
  cases codes.next_of_mem_step task next member with
  | freed _ _ _ _ callback _ task inside => exact plain inside
  | late _ _ _ callback task inside => exact plain inside
  | _ => exact nofun

theorem wakes_poll (future : FutureId) (waker : String) :
    (codes.poll future waker).1.wakes = codes.wakes := by
  unfold poll
  split
  next => rfl
  next =>
    split
    next => rfl
    next =>
      dsimp only
      split <;> rfl

theorem wakes_noting (waker other : String) :
    ((codes.noting waker).wakes.get? other).getD 0 = (codes.wakes.get? other).getD 0 := by
  rw [noting, Table.get?_insert]
  split
  next same => rw [same, Option.getD_some]
  next => rfl

/-- How often a waker has been woken is changed by waking it only. -/
theorem wakes_step (task : Task) (waker : String) :
    ((codes.step task).1.wakes.get? waker).getD 0 =
      (codes.wakes.get? waker).getD 0 + if task.waker? = some waker then 1 else 0 := by
  cases task with
  | wake other =>
    simp only [step, Table.get?_insert, Task.waker?, Option.some_inj]
    by_cases same : waker = other
    · subst same
      simp
    · rw [if_neg same, if_neg (Ne.symm same)]
      rfl
  | complete code outcome =>
    simp only [step, complete]
    split
    next => rfl
    next => split <;> rfl
  | register code callback =>
    simp only [step, register]
    split
    next => rfl
    next => split <;> rfl
  | settle child aggregate =>
    simp only [step]
    split <;> rfl
  | discount aggregate =>
    simp only [step, discount]
    split <;> rfl
  | takeWaker future =>
    simp only [step, takeWaker]
    split <;> rfl
  | forward source target => rfl
  | fire label => rfl
  | follow command =>
    cases command with
    | poll name other =>
      cases named : codes.futureNames.get? name with
      | none =>
        have same : (codes.step (.follow (.poll name other))).1 = codes.noting other := by
          simp only [step, follow, named, noting]
        rw [same, wakes_noting]
        rfl
      | some future =>
        rw [codes.step_poll named, wakes_poll, wakes_noting]
        rfl
    | share name code => simp only [step, follow]; split <;> rfl
    | forward name target => simp only [step, follow]; split <;> rfl
    | await future name => simp only [step, follow]; split <;> rfl
    | _ => rfl

end Wakes

theorem Touched.length_le {codes : Codes} {task : Task} (touched : codes.Touched task) :
    codes.futures.length ≤ (codes.step task).1.futures.length := by
  cases touched with
  | spared futures => exact Nat.le_of_eq (by rw [futures])
  | added _ _ _ _ _ futures => rw [futures, List.length_append]; exact Nat.le_add_right ..
  | polled _ _ _ _ _ futures => exact Nat.le_of_eq (by rw [futures, List.length_set])
  | taken _ _ _ _ futures => exact Nat.le_of_eq (by rw [futures, List.length_set])

/-- A future stays, and stays that of its code. -/
theorem Touched.stays {codes : Codes} {task : Task} (touched : codes.Touched task)
    {future : Nat} {held : Future} (found : codes.futures[future]? = some held) :
    ∃ later, (codes.step task).1.futures[future]? = some later ∧ later.code = held.code := by
  have set : ∀ (other : Nat) (before later : Future), codes.futures[other]? = some before →
      later.code = before.code → (codes.step task).1.futures = codes.futures.set other later →
        ∃ later, (codes.step task).1.futures[future]? = some later ∧ later.code = held.code := by
    intro other before later present same futures
    rw [futures]
    by_cases apart : other = future
    · subst apart
      cases found.symm.trans present
      exact ⟨later, List.getElem?_set_self (List.getElem?_eq_some_iff.mp found).1, same⟩
    · exact ⟨held, (List.getElem?_set_ne apart).trans found, rfl⟩
  cases touched with
  | spared futures => exact ⟨held, futures ▸ found, rfl⟩
  | added label name code is named futures =>
    rw [futures, List.getElem?_append_left (List.getElem?_eq_some_iff.mp found).1]
    exact ⟨held, found, rfl⟩
  | polled other waker before present _ futures =>
    exact set other before { before with registered := true, waker := some waker } present rfl
      futures
  | taken other before _ present futures =>
    exact set other before { before with waker := none } present rfl futures

end Codes

end Metering.Completion
