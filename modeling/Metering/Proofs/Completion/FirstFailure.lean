import Mathlib.Logic.Function.Basic
import Metering.Proofs.Completion.Aggregate

/-!
Whose failure an aggregate carries. The threads are watched while they report: which child each of
them looked at last, and in which order failures reach the aggregate. The first one to arrive stays,
and the children that had failed before the aggregate was made arrive in the order of the list.
-/

namespace Metering

/-- Whether an outcome is a failure, with or without a reason. -/
def Outcome.isFailure : Outcome → Bool
  | .failed _ => true
  | _ => false

theorem Outcome.isFailure_iff (outcome : Outcome) :
    outcome.isFailure = true ↔ ∃ reason, outcome = .failed reason := by
  cases outcome <;> simp [isFailure]

namespace Completion

/-- Threads at work on an aggregate. -/
structure Gathering where
  threads : Threads
  /-- The child that each thread looked at last for a report. -/
  settling : Nat → Option CodeId := fun _ => none
  /-- The children whose failure has reached the aggregate, the first one first. -/
  reached : List CodeId := []

/-- The child, among those selected, that a task reports to an aggregate as failed. -/
def Task.blames (early : CodeId → Bool) (aggregate : CodeId) (settling : Option CodeId) :
    Task → Option CodeId
  | .register _ (.settle child target) =>
    if target = aggregate then (some child).filter early else none
  | .settle child target => if target = aggregate then (some child).filter early else none
  | .complete code (.failed _) => if code = aggregate then settling.filter early else none
  | _ => none

theorem Task.blames_congr {early : CodeId → Bool} {aggregate : CodeId} {task : Task}
    (unable : task.completes aggregate = false) (settling other : Option CodeId) :
    task.blames early aggregate settling = task.blames early aggregate other := by
  cases task with
  | complete code outcome =>
    cases outcome with
    | failed reason =>
      have apart : code ≠ aggregate := of_decide_eq_false unable
      rw [blames, blames, if_neg apart, if_neg apart]
    | _ => rfl
  | register code callback => cases callback <;> rfl
  | _ => rfl

theorem Task.blames_of_not_mem {early : CodeId → Bool} {aggregate : CodeId} {task : Task}
    (strange : aggregate ∉ task.codes) (settling : Option CodeId) :
    task.blames early aggregate settling = none := by
  cases task with
  | complete code outcome =>
    cases outcome with
    | failed reason => exact if_neg fun same : code = aggregate => by simp [codes, same] at strange
    | _ => rfl
  | register code callback =>
    cases callback with
    | settle child target =>
      exact if_neg fun same => by simp [codes, Callback.codes, same] at strange
    | _ => rfl
  | settle child target => exact if_neg fun same => by simp [codes, same] at strange
  | _ => rfl

/-- A callback that does not report a selected child leads to no such report. -/
theorem Callback.blames_eq_none {early : CodeId → Bool} {aggregate : CodeId} {callback : Callback}
    {task : Task} (unselected : ∀ child, callback = .settle child aggregate → early child = false)
    (member : task ∈ callback.tasks) (settling : Option CodeId) :
    task.blames early aggregate settling = none := by
  cases callback with
  | settle child target =>
    cases List.mem_singleton.mp member
    by_cases same : target = aggregate
    · simp [Task.blames, unselected child (by rw [same])]
    · exact if_neg same
  | forward source target =>
    cases List.mem_singleton.mp member
    rfl
  | wake future =>
    cases List.mem_singleton.mp member
    rfl
  | script label steps =>
    rcases List.mem_cons.mp member with rfl | later
    · rfl
    · obtain ⟨command, _, rfl⟩ := List.mem_map.mp later
      rfl

theorem findSome?_congr {α β : Type} {items : List α} {first second : α → Option β}
    (same : ∀ item ∈ items, first item = second item) :
    items.findSome? first = items.findSome? second := by
  induction items with
  | nil => rfl
  | cons item rest ih =>
    have later := ih fun other member => same other (List.mem_cons_of_mem _ member)
    rw [List.findSome?_cons, List.findSome?_cons, same item List.mem_cons_self, later]

theorem findSome?_registrations (early : CodeId → Bool) (aggregate : CodeId)
    (settling : Option CodeId) (children : List CodeId) :
    (children.map fun child => .register child (.settle child aggregate)).findSome?
      (Task.blames early aggregate settling) = children.find? early := by
  induction children with
  | nil => rfl
  | cons child rest ih =>
    rw [List.map_cons, List.findSome?_cons, ih, List.find?_cons]
    cases selected : early child <;> simp [Task.blames, Option.filter, selected]

namespace Gathering

def step (aggregate : CodeId) (gathering : Gathering) (thread : Nat) : Gathering where
  threads := gathering.threads.step thread
  settling := match gathering.threads.next? thread with
    | some (.settle child _) => Function.update gathering.settling thread (some child)
    | _ => gathering.settling
  reached := match gathering.threads.next? thread with
    | some (.complete code (.failed _)) =>
      if code = aggregate then gathering.reached ++ (gathering.settling thread).toList
      else gathering.reached
    | _ => gathering.reached

def run (aggregate : CodeId) (gathering : Gathering) (schedule : List Nat) : Gathering :=
  schedule.foldl (step aggregate) gathering

theorem threads_run (aggregate : CodeId) (gathering : Gathering) (schedule : List Nat) :
    (gathering.run aggregate schedule).threads = gathering.threads.run schedule := by
  induction schedule generalizing gathering with
  | nil => rfl
  | cons thread rest ih => exact ih (gathering.step aggregate thread)

section Step

variable (aggregate : CodeId) {gathering : Gathering} {thread : Nat}

theorem step_idle (nothing : gathering.threads.next? thread = none)
    (same : gathering.threads.step thread = gathering.threads) :
    gathering.step aggregate thread = gathering := by
  simp only [step, nothing, same]

theorem settling_of_ne {other : Nat} (apart : other ≠ thread) :
    (gathering.step aggregate thread).settling other = gathering.settling other := by
  simp only [step]
  cases gathering.threads.next? thread with
  | none => rfl
  | some task =>
    cases task with
    | settle child target => exact Function.update_of_ne apart _ _
    | _ => rfl

theorem settling_settle {child target : CodeId}
    (next : gathering.threads.next? thread = some (.settle child target)) :
    (gathering.step aggregate thread).settling thread = some child := by
  simp only [step, next]
  exact Function.update_self ..

theorem reached_failed {reason : Option Failure} {child : CodeId}
    (next : gathering.threads.next? thread = some (.complete aggregate (.failed reason)))
    (settling : gathering.settling thread = some child) :
    (gathering.step aggregate thread).reached = gathering.reached ++ [child] := by
  simp only [step, next, settling, if_true, Option.toList_some]

theorem reached_of_ne {task : Task} (next : gathering.threads.next? thread = some task)
    (other : ∀ reason, task ≠ .complete aggregate (.failed reason)) :
    (gathering.step aggregate thread).reached = gathering.reached := by
  simp only [step, next]
  split
  next code reason same =>
    cases same
    exact if_neg fun same => other reason (by rw [same])
  next => rfl

end Step

end Gathering

/-- An aggregate and whose failures have reached it, with the children selected that had failed
before it was made. -/
structure Traced (children : List CodeId) (aggregate : CodeId) (early : CodeId → Bool)
    (gathering : Gathering) : Prop where
  gathered : Gathered children aggregate gathering.threads
  /-- A thread that passes on a failure has just looked at the child that failed. -/
  blamed : ∀ thread reason rest,
    gathering.threads.todo[thread]? = some (.complete aggregate (.failed reason) :: rest) →
      ∃ child ∈ children, gathering.settling thread = some child ∧
        gathering.threads.codes.outcome child = .failed reason
  reached : ∀ child ∈ gathering.reached, child ∈ children ∧
    ∃ reason, gathering.threads.codes.outcome child = .failed reason
  carried : ∀ reason, gathering.threads.codes.outcome aggregate = .failed reason ↔
    ∃ first, gathering.reached.head? = some first ∧
      gathering.threads.codes.outcome first = .failed reason
  finished : ∀ child ∈ children, early child = true →
    ∃ reason, gathering.threads.codes.outcome child = .failed reason
  /-- As long as no failure has arrived, each thread reports the selected children in order. -/
  waiting : gathering.reached = [] → ∀ thread (stack : List Task),
    gathering.threads.todo[thread]? = some stack → ∀ child,
      stack.findSome? (Task.blames early aggregate (gathering.settling thread)) = some child →
        children.find? early = some child
  leading : ∀ first, gathering.reached.head? = some first → early first = true →
    children.find? early = some first

namespace Traced

variable {children : List CodeId} {aggregate : CodeId} {early : CodeId → Bool}
  {gathering : Gathering} (traced : Traced children aggregate early gathering)

include traced

theorem early_child {child : CodeId} (listed : child ∈ children)
    (pending : gathering.threads.codes.outcome child = .pending) : early child = false := by
  refine Bool.eq_false_iff.mpr fun selected => ?_
  obtain ⟨reason, failed⟩ := traced.finished child listed selected
  rw [pending] at failed
  cases failed

/-- A task that is no report to the aggregate itself leads to none about a selected child. -/
theorem blames_next {task next : Task} (member : next ∈ (gathering.threads.codes.step task).2)
    (queued : task ∈ gathering.threads.tasks)
    (spares : gathering.threads.codes.Spares aggregate task)
    (registers : ∀ child, task ≠ .register child (.settle child aggregate))
    (settles : ∀ child, task ≠ .settle child aggregate) (settling : Option CodeId) :
    next.blames early aggregate settling = none := by
  have proper := traced.gathered.queued task queued
  cases gathering.threads.codes.next_of_mem_step task next member with
  | freed code outcome pending _ callback kept task member =>
    refine callback.blames_eq_none (fun child is => ?_) member settling
    subst is
    obtain ⟨rfl, listed⟩ := traced.gathered.kept code _ kept rfl
    exact traced.early_child listed pending
  | late code inside done callback task member =>
    refine callback.blames_eq_none (fun child is => ?_) member settling
    subst is
    obtain ⟨rfl, _⟩ := proper rfl
    exact absurd rfl (registers child)
  | failed child target reason outcome =>
    exact if_neg fun same => settles child (by rw [same])
  | counted child target => rfl
  | last target inside one => rfl
  | forwarded source target =>
    cases outcome : gathering.threads.codes.outcome source with
    | failed reason => exact if_neg proper
    | _ => rfl
  | woken => rfl
  | ordered name code outcome named =>
    cases outcome with
    | failed reason => exact if_neg fun same : code = aggregate => spares (same ▸ named)
    | _ => rfl
  | linked => rfl
  | scripted => rfl
  | gathered name names child listed => exact if_neg (Nat.ne_of_gt traced.gathered.present)

/-- A task that is no report to the aggregate itself blames nobody. -/
theorem blames_eq_none {task : Task} (queued : task ∈ gathering.threads.tasks)
    (other : ∀ reason, task ≠ .complete aggregate (.failed reason))
    (registers : ∀ child, task ≠ .register child (.settle child aggregate))
    (settles : ∀ child, task ≠ .settle child aggregate) (settling : Option CodeId) :
    task.blames early aggregate settling = none := by
  have proper := traced.gathered.queued task queued
  cases task with
  | complete code outcome =>
    cases outcome with
    | failed reason => exact if_neg fun same : code = aggregate => other reason (by rw [same])
    | _ => rfl
  | register code callback =>
    cases callback with
    | settle child target =>
      refine if_neg fun same => ?_
      obtain ⟨rfl, _⟩ := proper same
      exact registers child (by rw [same])
    | _ => rfl
  | settle child target => exact if_neg fun same => settles child (by rw [same])
  | _ => rfl

/-- A thread that has asked to be told of a child blames it as before: at once if it is selected,
which has failed, and not at all if it is not. -/
theorem findSome?_register {child : CodeId} (listed : child ∈ children)
    (before after : Option CodeId) :
    (gathering.threads.codes.step (.register child (.settle child aggregate))).2.findSome?
        (Task.blames early aggregate after) =
      Task.blames early aggregate before (.register child (.settle child aggregate)) := by
  cases selected : early child with
  | true =>
    obtain ⟨reason, failed⟩ := traced.finished child listed selected
    rw [Codes.step_register_of_done (traced.gathered.known child listed) (by simp [failed])]
    simp [Task.blames, Callback.tasks, Option.filter, selected]
  | false =>
    have nothing : (gathering.threads.codes.step
        (.register child (.settle child aggregate))).2.findSome?
          (Task.blames early aggregate after) = none := by
      refine List.findSome?_eq_none_iff.mpr fun waiting member => ?_
      cases gathering.threads.codes.next_of_mem_step _ waiting member with
      | late _ _ _ _ _ member =>
        exact Callback.blames_eq_none (fun other is => by cases is; exact selected) member after
    simp [nothing, Task.blames, Option.filter, selected]

/-- A thread that has looked at a child for a report blames it as before. -/
theorem findSome?_settle {child : CodeId} (listed : child ∈ children) (before : Option CodeId) :
    (gathering.threads.codes.step (.settle child aggregate)).2.findSome?
        (Task.blames early aggregate (some child)) =
      Task.blames early aggregate before (.settle child aggregate) := by
  cases selected : early child with
  | true =>
    obtain ⟨reason, failed⟩ := traced.finished child listed selected
    simp [Codes.step, failed, Task.blames, Option.filter, selected]
  | false =>
    cases outcome : gathering.threads.codes.outcome child <;>
      simp [Codes.step, outcome, Task.blames, Option.filter, selected]

/-- What a thread goes on to report after one task is what it was to report before. -/
theorem findSome?_step {thread : Nat} {task : Task} {rest : List Task}
    (next : gathering.threads.next? thread = some task)
    (stack : gathering.threads.todo[thread]? = some (task :: rest))
    (spares : gathering.threads.codes.Spares aggregate task)
    (other : ∀ reason, task ≠ .complete aggregate (.failed reason)) :
    ((gathering.threads.codes.step task).2 ++ rest).findSome?
        (Task.blames early aggregate ((gathering.step aggregate thread).settling thread)) =
      (task :: rest).findSome? (Task.blames early aggregate (gathering.settling thread)) := by
  -- Beneath the top of a stack nothing completes the aggregate, so it does not matter there which
  -- child the thread looked at last.
  have below : ∀ settling other, rest.findSome? (Task.blames early aggregate settling) =
      rest.findSome? (Task.blames early aggregate other) := fun settling other =>
    findSome?_congr fun waiting member => Task.blames_congr
      ((traced.gathered.orderly _ (List.mem_of_getElem? stack)).beneath waiting member) _ _
  have queued : task ∈ gathering.threads.tasks :=
    List.mem_flatten.mpr ⟨_, List.mem_of_getElem? stack, List.mem_cons_self⟩
  have proper := traced.gathered.queued task queued
  have first : (gathering.threads.codes.step task).2.findSome?
        (Task.blames early aggregate ((gathering.step aggregate thread).settling thread)) =
      task.blames early aggregate (gathering.settling thread) := by
    -- Only the two tasks that report a child blame one; all others neither do nor lead to it.
    by_cases registers : ∃ child, task = .register child (.settle child aggregate)
    · obtain ⟨child, rfl⟩ := registers
      exact traced.findSome?_register (proper rfl).2 _ _
    by_cases settles : ∃ child, task = .settle child aggregate
    · obtain ⟨child, rfl⟩ := settles
      rw [Gathering.settling_settle aggregate next]
      exact traced.findSome?_settle (proper rfl).1 _
    have elsewhere : ∀ child, task ≠ .register child (.settle child aggregate) :=
      fun child is => registers ⟨child, is⟩
    have apart : ∀ child, task ≠ .settle child aggregate := fun child is => settles ⟨child, is⟩
    rw [traced.blames_eq_none queued other elsewhere apart]
    exact List.findSome?_eq_none_iff.mpr fun waiting member =>
      traced.blames_next member queued spares elsewhere apart _
  rw [List.findSome?_append, first, below _ (gathering.settling thread), List.findSome?_cons]
  cases task.blames early aggregate (gathering.settling thread) <;> rfl

section Worked

variable {thread : Nat} {task : Task} {rest others : List Task}
  (next : gathering.threads.next? thread = some task)
  (stack : gathering.threads.todo[thread]? = some (task :: rest))
  (after : (gathering.threads.step thread).todo =
    gathering.threads.todo.set thread ((gathering.threads.codes.step task).2 ++ rest))
  (work : gathering.threads.Worked task (rest ++ others) (gathering.threads.step thread))
  (spares : gathering.threads.codes.Spares aggregate task)

include next work

omit next in
theorem failed_of_reached {child : CodeId} (member : child ∈ gathering.reached) :
    (gathering.threads.step thread).codes.outcome child =
      gathering.threads.codes.outcome child := by
  obtain ⟨listed, reason, failed⟩ := traced.reached child member
  exact work.outcome_of_done (traced.gathered.known child listed) (by simp [failed])

include stack after spares

theorem blamed_step (other : Nat) (reason : Option Failure) (below : List Task)
    (head : (gathering.threads.step thread).todo[other]? =
      some (.complete aggregate (.failed reason) :: below)) :
    ∃ child ∈ children, (gathering.step aggregate thread).settling other = some child ∧
      (gathering.threads.step thread).codes.outcome child = .failed reason := by
  rw [after] at head
  by_cases same : other = thread
  · subst same
    rw [List.getElem?_set_self (List.getElem?_eq_some_iff.mp stack).1] at head
    have both := Option.some.inj head
    cases answer : (gathering.threads.codes.step task).2 with
    | nil =>
      rw [answer, List.nil_append] at both
      have never := (traced.gathered.orderly _ (List.mem_of_getElem? stack)).beneath
        (.complete aggregate (.failed reason)) (both ▸ List.mem_cons_self)
      simp [Task.completes] at never
    | cons first later =>
      rw [answer, List.cons_append, List.cons.injEq] at both
      have proper := traced.gathered.queued task work.mem
      have passed : .complete aggregate (.failed reason) ∈ (gathering.threads.codes.step task).2 :=
        both.1 ▸ answer ▸ List.mem_cons_self
      rcases Codes.complete_mem_step proper spares passed with
        ⟨child, _, rfl, ⟨⟩, failed⟩ | ⟨_, ⟨⟩, _⟩
      exact ⟨child, (proper rfl).1, Gathering.settling_settle aggregate next,
        traced.gathered.child_of_failed work (proper rfl).1 failed⟩
  · rw [List.getElem?_set_ne (Ne.symm same)] at head
    obtain ⟨child, listed, settling, failed⟩ := traced.blamed other reason below head
    exact ⟨child, listed, (Gathering.settling_of_ne aggregate same).trans settling,
      traced.gathered.child_of_failed work listed failed⟩

omit after spares in
/-- A failure that arrives is that of the child the thread looked at; it stays if it is the
first. -/
theorem arrived {reason : Option Failure} (is : task = .complete aggregate (.failed reason)) :
    ∃ child ∈ children, gathering.settling thread = some child ∧
      (gathering.threads.step thread).codes.outcome child = .failed reason ∧
      (gathering.step aggregate thread).reached = gathering.reached ++ [child] ∧
      (gathering.reached = [] →
        (gathering.threads.step thread).codes.outcome aggregate = .failed reason) := by
  subst is
  obtain ⟨child, listed, settling, failed⟩ := traced.blamed thread reason rest stack
  refine ⟨child, listed, settling, traced.gathered.child_of_failed work listed failed,
    Gathering.reached_failed aggregate next settling, fun none => ?_⟩
  have pending : gathering.threads.codes.outcome aggregate = .pending := by
    cases outcome : gathering.threads.codes.outcome aggregate with
    | pending => rfl
    | succeeded =>
      rw [traced.gathered.succeeded outcome child listed] at failed
      cases failed
    | failed other =>
      obtain ⟨first, head, _⟩ := (traced.carried other).mp outcome
      rw [none] at head
      cases head
  rw [work.codes]
  exact gathering.threads.codes.outcome_step_complete traced.gathered.present pending nofun

omit after spares in
theorem reached_step : ∀ child ∈ (gathering.step aggregate thread).reached, child ∈ children ∧
    ∃ reason, (gathering.threads.step thread).codes.outcome child = .failed reason := by
  have old : ∀ child ∈ gathering.reached, child ∈ children ∧
      ∃ reason, (gathering.threads.step thread).codes.outcome child = .failed reason := by
    intro child member
    rw [traced.failed_of_reached work member]
    exact traced.reached child member
  intro child member
  by_cases failure : ∃ reason, task = .complete aggregate (.failed reason)
  · obtain ⟨reason, is⟩ := failure
    obtain ⟨blamed, listed, _, failed, reached, _⟩ := traced.arrived next stack work is
    rw [reached] at member
    rcases List.mem_append.mp member with before | here
    · exact old child before
    · cases List.mem_singleton.mp here
      exact ⟨listed, reason, failed⟩
  · rw [Gathering.reached_of_ne aggregate next fun reason is => failure ⟨reason, is⟩] at member
    exact old child member

omit after spares in
theorem carried_step (reason : Option Failure) :
    (gathering.threads.step thread).codes.outcome aggregate = .failed reason ↔
      ∃ first, (gathering.step aggregate thread).reached.head? = some first ∧
        (gathering.threads.step thread).codes.outcome first = .failed reason := by
  have old : gathering.threads.codes.outcome aggregate = .failed reason ↔
      ∃ first, gathering.reached.head? = some first ∧
        (gathering.threads.step thread).codes.outcome first = .failed reason := by
    rw [traced.carried reason]
    refine exists_congr fun first => and_congr_right fun head => ?_
    rw [traced.failed_of_reached work (List.mem_of_head? head)]
  by_cases failure : ∃ told, task = .complete aggregate (.failed told)
  · obtain ⟨told, is⟩ := failure
    obtain ⟨blamed, listed, _, failed, reached, first⟩ := traced.arrived next stack work is
    rw [reached]
    cases before : gathering.reached with
    | nil =>
      rw [first before, List.nil_append, List.head?_cons]
      simp [failed]
    | cons leader later =>
      have done : gathering.threads.codes.outcome aggregate ≠ .pending := by
        obtain ⟨_, why, failed⟩ := traced.reached leader (before ▸ List.mem_cons_self)
        rw [(traced.carried why).mpr ⟨leader, by rw [before]; rfl, failed⟩]
        exact nofun
      rw [work.outcome_of_done traced.gathered.present done, old, before]
      rfl
  · rw [Gathering.reached_of_ne aggregate next fun told is => failure ⟨told, is⟩, ← old, work.codes]
    cases gathering.threads.codes.fate task traced.gathered.present with
    | unchanged same _ _ => rw [same]
    | completed outcome is pending _ became _ _ _ =>
      rw [became, pending]
      refine ⟨fun same => absurd ⟨reason, ?_⟩ failure, nofun⟩
      rw [is, same]
    | kept _ _ pending same _ _ => rw [same, pending]
    | counted _ same _ _ => rw [same]

theorem waiting_step (none : (gathering.step aggregate thread).reached = []) (other : Nat)
    (tasks : List Task) (present : (gathering.threads.step thread).todo[other]? = some tasks)
    (child : CodeId)
    (blamed : tasks.findSome?
      (Task.blames early aggregate ((gathering.step aggregate thread).settling other)) =
        some child) : children.find? early = some child := by
  have unfailed : ∀ reason, task ≠ .complete aggregate (.failed reason) := by
    intro reason is
    obtain ⟨_, _, _, _, reached, _⟩ := traced.arrived next stack work is
    rw [reached] at none
    exact absurd none (List.append_ne_nil_of_right_ne_nil _ (List.cons_ne_nil _ _))
  rw [Gathering.reached_of_ne aggregate next unfailed] at none
  rw [after] at present
  by_cases same : other = thread
  · subst same
    rw [List.getElem?_set_self (List.getElem?_eq_some_iff.mp stack).1] at present
    cases Option.some.inj present
    rw [traced.findSome?_step next stack spares unfailed] at blamed
    exact traced.waiting none other _ stack child blamed
  · rw [List.getElem?_set_ne (Ne.symm same)] at present
    rw [Gathering.settling_of_ne aggregate same] at blamed
    exact traced.waiting none other tasks present child blamed

omit after spares in
theorem leading_step (first : CodeId)
    (head : (gathering.step aggregate thread).reached.head? = some first)
    (selected : early first = true) : children.find? early = some first := by
  by_cases failure : ∃ told, task = .complete aggregate (.failed told)
  · obtain ⟨told, is⟩ := failure
    obtain ⟨blamed, _, settling, _, reached, _⟩ := traced.arrived next stack work is
    rw [reached] at head
    cases before : gathering.reached with
    | nil =>
      rw [before] at head
      cases Option.some.inj head
      refine traced.waiting before thread _ stack first ?_
      rw [List.findSome?_cons, is]
      simp [Task.blames, settling, Option.filter, selected]
    | cons leader later =>
      rw [before] at head
      exact traced.leading first (before ▸ head) selected
  · rw [Gathering.reached_of_ne aggregate next fun told is => failure ⟨told, is⟩] at head
    exact traced.leading first head selected

end Worked

theorem step (thread : Nat)
    (spares : ∀ task, gathering.threads.next? thread = some task →
      gathering.threads.codes.Spares aggregate task) :
    Traced children aggregate early (gathering.step aggregate thread) := by
  cases gathering.threads.stepped thread with
  | idle nothing same => rwa [Gathering.step_idle aggregate nothing same]
  | worked task rest others next stack after work =>
    have spared := spares task next
    constructor
    case gathered => exact traced.gathered.step thread spares
    case blamed => exact traced.blamed_step next stack after work spared
    case reached => exact traced.reached_step next stack work
    case carried => exact traced.carried_step next stack work
    case finished =>
      intro child listed selected
      obtain ⟨reason, failed⟩ := traced.finished child listed selected
      exact ⟨reason, traced.gathered.child_of_failed work listed failed⟩
    case waiting => exact traced.waiting_step next stack after work spared
    case leading => exact traced.leading_step next stack work

theorem run (schedule : List Nat)
    (alone : gathering.threads.LeavesAlone aggregate schedule) :
    Traced children aggregate early (gathering.run aggregate schedule) := by
  induction schedule generalizing gathering with
  | nil => exact traced
  | cons thread rest ih => exact ih (traced.step thread alone.1) alone.2

omit traced in
/-- Right after an aggregate was made, its creator is to report the children in order. -/
theorem begin {threads : Threads} (closed : threads.Closed) {thread : Nat} {name : String}
    {names : List String}
    (next : threads.next? thread = some (.follow (.gather name names))) :
    Traced (names.filterMap threads.codes.named?) threads.codes.cells.length
      (fun child => (threads.codes.outcome child).isFailure)
      { threads := threads.step thread } := by
  have gathered := Gathered.gather closed next
  cases threads.stepped thread with
  | idle nothing _ =>
    rw [nothing] at next
    cases next
  | worked task rest others found stack after work =>
    cases found.symm.trans next
    have strange : ∀ waiting ∈ threads.tasks, threads.codes.cells.length ∉ waiting.codes :=
      fun waiting member concerned => Nat.lt_irrefl _ (closed.tasks waiting member _ concerned)
    have silent : ∀ stack : List Task, stack ⊆ threads.tasks → ∀ settling, stack.findSome?
        (Task.blames (fun child => (threads.codes.outcome child).isFailure)
          threads.codes.cells.length settling) = none := fun stack within settling =>
      List.findSome?_eq_none_iff.mpr fun waiting member =>
        Task.blames_of_not_mem (strange waiting (within member)) settling
    have here : (threads.step thread).codes.cell? threads.codes.cells.length =
        some (.gathering (names.filterMap threads.codes.named?)) := by
      have cells : (threads.step thread).codes.cells = _ :=
        (congrArg Codes.cells work.codes).trans (threads.codes.gather_cells _)
      simp [Codes.cell?, cells]
    constructor
    case gathered => exact gathered
    case blamed =>
      intro other reason below head
      have member : .complete threads.codes.cells.length (.failed reason) ∈
          (threads.step thread).tasks :=
        List.mem_flatten.mpr ⟨_, List.mem_of_getElem? head, List.mem_cons_self⟩
      rcases work.next_or_old member with new | old
      · obtain ⟨child, _, is⟩ := List.mem_map.mp new
        cases is
      · exact absurd List.mem_cons_self (strange _ old)
    case reached => exact List.forall_mem_nil _
    case carried =>
      intro reason
      constructor
      · intro failed
        rw [Codes.outcome_eq here] at failed
        simp only [Cell.gathering] at failed
        split at failed <;> cases failed
      · rintro ⟨_, first, _⟩
        cases first
    case finished =>
      intro child listed selected
      obtain ⟨reason, failed⟩ := (Outcome.isFailure_iff _).mp selected
      obtain ⟨known, _, named⟩ := List.mem_filterMap.mp listed
      exact ⟨reason, (work.outcome_of_done (closed.codes.named known child named)
        (by simp [failed])).trans failed⟩
    case waiting =>
      intro _ other tasks present child blamed
      rw [after] at present
      by_cases same : other = thread
      · subst same
        rw [List.getElem?_set_self (List.getElem?_eq_some_iff.mp stack).1] at present
        cases Option.some.inj present
        have within : rest ⊆ threads.tasks := fun waiting member => List.mem_flatten.mpr
          ⟨_, List.mem_of_getElem? stack, List.mem_cons_of_mem _ member⟩
        rw [List.findSome?_append, silent rest within, Option.or_none] at blamed
        exact (findSome?_registrations _ _ _ _).symm.trans blamed
      · rw [List.getElem?_set_ne (Ne.symm same)] at present
        have within : tasks ⊆ threads.tasks := fun waiting member => List.mem_flatten.mpr
          ⟨tasks, List.mem_of_getElem? present, member⟩
        rw [silent tasks within] at blamed
        cases blamed
    case leading =>
      intro _ first
      cases first

end Traced

/-- Codes are gathered by some thread while others complete them, in any order and at any moment.
Once no thread is on its way to report to the aggregate, it has succeeded if all of its codes have,
failed if one of them has, and is pending otherwise; at no moment has it succeeded while one of
them has not. It fails with the failure that reaches it first, which among codes that had failed
before is that of the first one listed, and keeps the outcome it has. -/
theorem aggregate_outcome_exact (programs : List (List Command)) (before after : List Nat)
    (thread : Nat) (name : String) (names : List String) :
    let caller := (Threads.start programs).run before
    let children := names.filterMap caller.codes.named?
    let aggregate := caller.codes.cells.length
    let gathering := Gathering.run aggregate { threads := caller.step thread } after
    let codes := gathering.threads.codes
    caller.next? thread = some (.follow (.gather name names)) →
    (caller.step thread).LeavesAlone aggregate after →
      (gathering.threads.Settled aggregate →
        (codes.outcome aggregate = .succeeded ↔
            ∀ child ∈ children, codes.outcome child = .succeeded) ∧
          ((∃ reason, codes.outcome aggregate = .failed reason) ↔
            ∃ child ∈ children, ∃ reason, codes.outcome child = .failed reason) ∧
          (codes.outcome aggregate = .pending ↔
            (∃ child ∈ children, codes.outcome child = .pending) ∧
              ∀ child ∈ children, ∀ reason, codes.outcome child ≠ .failed reason)) ∧
        (codes.outcome aggregate = .succeeded →
          ∀ child ∈ children, codes.outcome child = .succeeded) ∧
        (∀ reason, codes.outcome aggregate = .failed reason ↔
          ∃ first, gathering.reached.head? = some first ∧ codes.outcome first = .failed reason) ∧
        (∀ first, gathering.reached.head? = some first → first ∈ children ∧
          ((caller.codes.outcome first).isFailure = true →
            children.find? (fun child => (caller.codes.outcome child).isFailure) = some first)) ∧
        (codes.outcome aggregate ≠ .pending → ∀ later,
          (gathering.threads.run later).codes.outcome aggregate = codes.outcome aggregate) := by
  intro caller children aggregate gathering codes next alone
  have traced : Traced children aggregate
      (fun child => (caller.codes.outcome child).isFailure) gathering :=
    (Traced.begin ((Threads.closed_start programs).run before) next).run after alone
  have gathered := traced.gathered
  refine ⟨fun settled => ?_, gathered.succeeded, traced.carried, fun first head => ?_,
    fun done later => ?_⟩
  · have succeeded := gathered.succeeded_iff settled
    have failed := gathered.failed_iff settled
    refine ⟨succeeded, failed, ?_, ?_⟩
    · intro pending
      have unfailed : ∀ child ∈ children, ∀ reason, codes.outcome child ≠ .failed reason := by
        intro child listed reason same
        obtain ⟨other, told⟩ := failed.mpr ⟨child, listed, reason, same⟩
        rw [pending] at told
        cases told
      refine ⟨?_, unfailed⟩
      by_contra none
      have all : codes.outcome aggregate = .succeeded := succeeded.mpr fun child listed => by
        cases outcome : codes.outcome child with
        | pending => exact absurd ⟨child, listed, outcome⟩ none
        | succeeded => rfl
        | failed reason => exact absurd outcome (unfailed child listed reason)
      rw [pending] at all
      cases all
    · rintro ⟨⟨child, listed, pending⟩, unfailed⟩
      cases outcome : codes.outcome aggregate with
      | pending => rfl
      | succeeded =>
        have same := succeeded.mp outcome child listed
        rw [pending] at same
        cases same
      | failed reason =>
        obtain ⟨other, there, told, same⟩ := failed.mp ⟨reason, outcome⟩
        exact absurd same (unfailed other there told)
  · exact ⟨(traced.reached first (List.mem_of_head? head)).1, traced.leading first head⟩
  · exact gathering.threads.outcome_run_of_done later gathered.present done

/-- One code is listed twice and another has failed before. A third one fails while the codes are
gathered; the failure from before overtakes its report. -/
theorem aggregate_outcome_exact_overtaken :
    let programs : List (List Command) :=
      [[.create "first" .pending, .create "second" .pending, .create "third" (.failed none),
          .gather "all" ["first", "second", "first", "third"]],
        [.complete "second" (.failed (some .alreadyShutdown))], [.complete "first" .succeeded]]
    let names := ["first", "second", "first", "third"]
    let after := [0, 0, 1, 1, 1, 0, 0, 0, 0, 1, 1, 0, 2, 2, 2, 2, 2, 2, 2]
    let caller := (Threads.start programs).run [0, 0, 0]
    let children := names.filterMap caller.codes.named?
    let aggregate := caller.codes.cells.length
    let gathering := Gathering.run aggregate { threads := caller.step 0 } after
    let codes := gathering.threads.codes
    caller.next? 0 = some (.follow (.gather "all" names)) ∧
      (caller.step 0).LeavesAlone aggregate after ∧ gathering.threads.Settled aggregate ∧
      children = [0, 1, 0, 2] ∧ gathering.reached = [2, 1] ∧
      ((∃ reason, codes.outcome aggregate = .failed reason) ↔
        ∃ child ∈ children, ∃ reason, codes.outcome child = .failed reason) ∧
      (codes.outcome aggregate = .failed none ↔
        ∃ first, gathering.reached.head? = some first ∧ codes.outcome first = .failed none) := by
  intro programs names after caller children aggregate gathering codes
  have next : caller.next? 0 = some (.follow (.gather "all" names)) := rfl
  have alone : (caller.step 0).LeavesAlone aggregate after := by decide +kernel
  have settled : gathering.threads.Settled aggregate := by
    have nothing : gathering.threads.tasks = [] := List.isEmpty_iff.mp (by decide +kernel)
    rw [Threads.Settled, nothing]
    exact nofun
  obtain ⟨exactly, _, carried, _⟩ :=
    aggregate_outcome_exact programs [0, 0, 0] after 0 "all" names next alone
  exact ⟨next, alone, settled, by decide +kernel, by decide +kernel, (exactly settled).2.1,
    carried none⟩

end Completion

end Metering
