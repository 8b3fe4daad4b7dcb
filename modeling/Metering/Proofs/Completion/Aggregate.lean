import Metering.Proofs.Completion.Reports

/-!
An aggregate among threads that complete codes in any order. Each of its codes either owes it a
report still or has been heard, and a failure is passed on before the report is counted. So the
last report finds either an aggregate that has failed or codes that have all succeeded.
-/

namespace Metering.Completion

/-- Whether a task completes a certain code. -/
def Task.completes (aggregate : CodeId) : Task → Bool
  | .complete code _ => code = aggregate
  | _ => false

/-- The name of the code that an instruction completes or forwards an outcome to. -/
def Task.ordered? : Task → Option String
  | .follow (.complete name _) => some name
  | .follow (.forward _ target) => some target
  | _ => none

/-- Whether a task leaves it to the reports to complete an aggregate. -/
def Codes.Spares (codes : Codes) (aggregate : CodeId) (task : Task) : Prop :=
  task.ordered?.bind codes.named? ≠ some aggregate

instance (codes : Codes) (aggregate : CodeId) (task : Task) :
    Decidable (codes.Spares aggregate task) :=
  inferInstanceAs (Decidable (_ ≠ _))

section Proper

variable (children : List CodeId) (aggregate : CodeId)

/-- A callback kept with a code reports to the aggregate about that code only. -/
def Callback.Proper (code : CodeId) : Callback → Prop
  | .settle child target => target = aggregate → child = code ∧ child ∈ children
  | .forward _ target => target ≠ aggregate
  | _ => True

/-- A thread reports to the aggregate about codes that have completed. -/
def Task.Proper (codes : Codes) : Task → Prop
  | .register code callback => callback.Proper children aggregate code
  | .settle child target => target = aggregate → child ∈ children ∧ codes.outcome child ≠ .pending
  | .forward _ target => target ≠ aggregate
  | _ => True

variable {children aggregate}

theorem Callback.Proper.task {callback : Callback} {code : CodeId} {codes : Codes} {task : Task}
    (proper : callback.Proper children aggregate code) (done : codes.outcome code ≠ .pending)
    (member : task ∈ callback.tasks) : task.Proper children aggregate codes := by
  cases callback with
  | settle child target =>
    cases List.mem_singleton.mp member
    intro same
    obtain ⟨rfl, listed⟩ := proper same
    exact ⟨listed, done⟩
  | forward source target =>
    cases List.mem_singleton.mp member
    exact proper
  | wake future =>
    cases List.mem_singleton.mp member
    trivial
  | script label steps =>
    rcases List.mem_cons.mp member with rfl | later
    · trivial
    · obtain ⟨command, _, rfl⟩ := List.mem_map.mp later
      trivial

theorem Task.Proper.step {codes : Codes} {waiting : Task}
    (proper : waiting.Proper children aggregate codes)
    (within : ∀ code ∈ waiting.codes, code < codes.cells.length) (task : Task) :
    waiting.Proper children aggregate (codes.step task).1 := by
  cases waiting with
  | settle child target =>
    intro same
    obtain ⟨listed, done⟩ := proper same
    rw [codes.outcome_step_of_done task (within child List.mem_cons_self) done]
    exact ⟨listed, done⟩
  | _ => exact proper

/-- What a proper task leaves to do is proper, as long as the aggregate is left to its reports. -/
theorem Task.Proper.next {codes : Codes} {task next : Task}
    (within : ∀ code ∈ task.codes, code < codes.cells.length)
    (inside : aggregate < codes.cells.length)
    (kept : ∀ code, ∀ callback ∈ codes.callbacks code, callback.Proper children aggregate code)
    (proper : task.Proper children aggregate codes) (spares : codes.Spares aggregate task)
    (member : next ∈ (codes.step task).2) : next.Proper children aggregate (codes.step task).1 := by
  cases codes.next_of_mem_step task next member with
  | freed code outcome pending final callback holds freed member =>
    refine (kept code callback holds).task ?_ member
    have becomes := codes.outcome_step_complete (within code List.mem_cons_self) pending final
    exact becomes.symm ▸ final
  | late code present done callback freed member =>
    refine Callback.Proper.task proper ?_ member
    rw [codes.outcome_step_of_done _ present done]
    exact done
  | failed => trivial
  | counted => trivial
  | last => trivial
  | forwarded => trivial
  | woken => trivial
  | ordered => trivial
  | linked name target source sink named other =>
    intro same
    exact spares (same ▸ other)
  | scripted => trivial
  | gathered name children child listed =>
    intro same
    exact absurd same (Nat.ne_of_gt inside)

end Proper

theorem Task.completes_iff {aggregate : CodeId} {task : Task} :
    task.completes aggregate = true ↔ ∃ outcome, task = .complete aggregate outcome := by
  cases task with
  | complete code outcome => simp [completes]
  | _ => simp [completes]

theorem Callback.not_completes {aggregate : CodeId} {callback : Callback} {task : Task}
    (member : task ∈ callback.tasks) : task.completes aggregate = false := by
  cases callback with
  | settle child target =>
    cases List.mem_singleton.mp member
    rfl
  | forward source target =>
    cases List.mem_singleton.mp member
    rfl
  | wake future =>
    cases List.mem_singleton.mp member
    rfl
  | script label steps =>
    rcases List.mem_cons.mp member with rfl | later
    · rfl
    · obtain ⟨command, _, rfl⟩ := List.mem_map.mp later
      rfl

/-- Only a report makes a thread complete the aggregate. -/
theorem Codes.complete_mem_step {children : List CodeId} {aggregate : CodeId} {codes : Codes}
    {task : Task} {outcome : Outcome} (proper : task.Proper children aggregate codes)
    (spares : codes.Spares aggregate task)
    (member : .complete aggregate outcome ∈ (codes.step task).2) :
    (∃ child reason, task = .settle child aggregate ∧ outcome = .failed reason ∧
        codes.outcome child = .failed reason) ∨
      (task = .discount aggregate ∧ outcome = .succeeded ∧ codes.awaiting aggregate = 1) := by
  have completes : Task.completes aggregate (.complete aggregate outcome) = true :=
    Task.completes_iff.mpr ⟨outcome, rfl⟩
  generalize is : Task.complete aggregate outcome = next at member completes
  cases codes.next_of_mem_step task next member with
  | freed code _ _ _ callback _ task member =>
    exact absurd completes (Bool.eq_false_iff.mp (Callback.not_completes member))
  | late code _ _ callback task member =>
    exact absurd completes (Bool.eq_false_iff.mp (Callback.not_completes member))
  | failed child target reason outcome =>
    cases is
    exact .inl ⟨child, reason, rfl, rfl, outcome⟩
  | counted => cases is
  | last target inside one =>
    cases is
    exact .inr ⟨rfl, rfl, one⟩
  | forwarded source target =>
    cases is
    exact absurd rfl proper
  | woken => cases is
  | ordered name code outcome named =>
    cases is
    exact absurd named spares
  | linked => cases is
  | scripted => cases is
  | gathered => cases is

/-- Whether a stack completes an aggregate with its first task at most, and when that passes on a
failure, goes on to count the report. -/
structure Orderly (aggregate : CodeId) (stack : List Task) : Prop where
  beneath : ∀ task ∈ stack.tail, task.completes aggregate = false
  paired : ∀ reason rest, stack = .complete aggregate (.failed reason) :: rest →
    rest.head? = some (.discount aggregate)

namespace Orderly

variable {children : List CodeId} {aggregate : CodeId} {codes : Codes}

theorem of_none {stack : List Task} (none : ∀ task ∈ stack, task.completes aggregate = false) :
    Orderly aggregate stack := by
  refine ⟨fun task member => none task (List.mem_of_mem_tail member), ?_⟩
  rintro reason rest rfl
  exact absurd (none _ List.mem_cons_self) (by simp [Task.completes])

theorem step {task : Task} {rest : List Task} (orderly : Orderly aggregate (task :: rest))
    (proper : task.Proper children aggregate codes) (spares : codes.Spares aggregate task) :
    Orderly aggregate ((codes.step task).2 ++ rest) := by
  have below : ∀ other ∈ rest, other.completes aggregate = false := orderly.beneath
  by_cases reports : (∃ child, task = .settle child aggregate) ∨ task = .discount aggregate
  · rcases reports with ⟨child, rfl⟩ | rfl
    · simp only [Codes.step]
      split
      next reason _ =>
        refine ⟨?_, ?_⟩
        · intro other member
          rcases List.mem_cons.mp member with rfl | member
          · rfl
          · exact below other member
        · rintro _ _ ⟨⟩
          rfl
      next =>
        refine of_none fun other member => ?_
        rcases List.mem_cons.mp member with rfl | member
        · rfl
        · exact below other member
    · simp only [Codes.step, Codes.discount]
      split
      next => exact of_none below
      next =>
        split
        next => exact ⟨below, fun _ _ same => by cases same⟩
        next => exact of_none below
  · refine of_none fun other member => ?_
    rcases List.mem_append.mp member with new | old
    · refine Bool.eq_false_iff.mpr fun completes => ?_
      obtain ⟨outcome, rfl⟩ := Task.completes_iff.mp completes
      rcases Codes.complete_mem_step proper spares new with ⟨child, _, is, _⟩ | ⟨is, _⟩
      · exact reports (.inl ⟨child, is⟩)
      · exact reports (.inr is)
    · exact below other old

end Orderly

namespace Threads

/-- Whether no instruction on a schedule completes an aggregate or forwards an outcome to it. -/
def LeavesAlone (aggregate : CodeId) : Threads → List Nat → Prop
  | _, [] => True
  | threads, thread :: rest =>
    (∀ task ∈ threads.next? thread, threads.codes.Spares aggregate task) ∧
      (threads.step thread).LeavesAlone aggregate rest

instance decidableLeavesAlone (aggregate : CodeId) : ∀ (threads : Threads) (schedule : List Nat),
    Decidable (threads.LeavesAlone aggregate schedule)
  | _, [] => inferInstanceAs (Decidable True)
  | threads, thread :: rest =>
    have := decidableLeavesAlone aggregate (threads.step thread) rest
    inferInstanceAs (Decidable (_ ∧ _))

/-- Whether no thread is on its way to report to an aggregate or to complete it. -/
def Settled (aggregate : CodeId) (threads : Threads) : Prop :=
  ∀ task ∈ threads.tasks, task.reportsTo aggregate = false ∧ task.completes aggregate = false

variable (threads : Threads)

/-- Whether a child has yet to report to an aggregate. -/
def Owes (child aggregate : CodeId) : Prop :=
  .settle child aggregate ∈ threads.codes.callbacks child ∨
    .register child (.settle child aggregate) ∈ threads.tasks ∨
    .settle child aggregate ∈ threads.tasks

/-- Whether what became of a child is known to an aggregate, or a thread is about to tell. -/
def Heard (child aggregate : CodeId) : Prop :=
  threads.codes.outcome child = .succeeded ∨
    ∃ reason, threads.codes.outcome child = .failed reason ∧
      (threads.codes.outcome aggregate ≠ .pending ∨
        ∃ told, .complete aggregate (.failed told) ∈ threads.tasks)

end Threads

/-- An aggregate of some codes among threads at work. -/
structure Gathered (children : List CodeId) (aggregate : CodeId) (threads : Threads) : Prop where
  closed : threads.Closed
  present : aggregate < threads.codes.cells.length
  known : ∀ child ∈ children, child < threads.codes.cells.length
  counted : threads.codes.awaiting aggregate =
    threads.codes.reports aggregate + threads.tasks.countP (·.reportsTo aggregate)
  kept : ∀ code, ∀ callback ∈ threads.codes.callbacks code,
    callback.Proper children aggregate code
  queued : ∀ task ∈ threads.tasks, task.Proper children aggregate threads.codes
  orderly : ∀ stack ∈ threads.todo, Orderly aggregate stack
  heard : ∀ child ∈ children, threads.Owes child aggregate ∨ threads.Heard child aggregate
  /-- A failure on its way to the aggregate is that of a child. -/
  failing : ∀ reason, .complete aggregate (.failed reason) ∈ threads.tasks →
    ∃ child ∈ children, threads.codes.outcome child = .failed reason
  ending : .complete aggregate .succeeded ∈ threads.tasks → threads.codes.awaiting aggregate = 0
  finished : threads.codes.awaiting aggregate = 0 →
    threads.codes.outcome aggregate ≠ .pending ∨ .complete aggregate .succeeded ∈ threads.tasks
  succeeded : threads.codes.outcome aggregate = .succeeded →
    ∀ child ∈ children, threads.codes.outcome child = .succeeded
  failed : ∀ reason, threads.codes.outcome aggregate = .failed reason →
    ∃ child ∈ children, threads.codes.outcome child = .failed reason

namespace Gathered

variable {children : List CodeId} {aggregate : CodeId} {threads : Threads}
  (gathered : Gathered children aggregate threads)

include gathered

theorem not_owes (none : threads.codes.awaiting aggregate = 0) (child : CodeId) :
    ¬ threads.Owes child aggregate := by
  have sum := gathered.counted
  have nowhere : ∀ task ∈ threads.tasks, task.reportsTo aggregate = false := by
    have : threads.tasks.countP (·.reportsTo aggregate) = 0 := by omega
    simpa [List.countP_eq_zero] using this
  rintro (kept | registered | settling)
  · have unkept := (threads.codes.reports_eq_zero_iff aggregate).mp (by omega) child _ kept
    simp [Callback.reportsTo] at unkept
  · have absent := nowhere _ registered
    simp [Task.reportsTo, Callback.reportsTo] at absent
  · have absent := nowhere _ settling
    simp [Task.reportsTo] at absent

/-- A failure on its way to the aggregate has not been counted yet. -/
theorem awaiting_of_failing {reason : Option Failure}
    (member : .complete aggregate (.failed reason) ∈ threads.tasks) :
    threads.codes.awaiting aggregate ≠ 0 := by
  obtain ⟨stack, present, inside⟩ := List.mem_flatten.mp member
  have orderly := gathered.orderly stack present
  have counting : .discount aggregate ∈ stack := by
    cases stack with
    | nil => cases inside
    | cons first rest =>
      rcases List.mem_cons.mp inside with rfl | later
      · exact List.mem_cons_of_mem _ (List.mem_of_head? (orderly.paired reason rest rfl))
      · have never := orderly.beneath _ later
        simp [Task.completes] at never
  have reports : 0 < threads.tasks.countP (·.reportsTo aggregate) :=
    List.countP_pos_iff.mpr
      ⟨_, List.mem_flatten.mpr ⟨stack, present, counting⟩, by simp [Task.reportsTo]⟩
  have sum := gathered.counted
  omega

/-- Once all reports have been counted while the aggregate is pending, nothing has failed. -/
theorem all_succeeded (none : threads.codes.awaiting aggregate = 0)
    (pending : threads.codes.outcome aggregate = .pending) :
    ∀ child ∈ children, threads.codes.outcome child = .succeeded := by
  intro child listed
  rcases (gathered.heard child listed).resolve_left (gathered.not_owes none child) with
    succeeded | ⟨reason, failed, known | ⟨told, telling⟩⟩
  · exact succeeded
  · exact absurd pending known
  · exact absurd none (gathered.awaiting_of_failing telling)

section Step

variable {task : Task} {remaining : List Task} {after : Threads}
  (work : threads.Worked task remaining after) (spares : threads.codes.Spares aggregate task)

include work

theorem child_of_succeeded {child : CodeId} (listed : child ∈ children)
    (succeeded : threads.codes.outcome child = .succeeded) :
    after.codes.outcome child = .succeeded :=
  (work.outcome_of_done (gathered.known child listed) (by simp [succeeded])).trans succeeded

theorem child_of_failed {child : CodeId} {reason : Option Failure} (listed : child ∈ children)
    (failed : threads.codes.outcome child = .failed reason) :
    after.codes.outcome child = .failed reason :=
  (work.outcome_of_done (gathered.known child listed) (by simp [failed])).trans failed

theorem counted_step :
    after.codes.awaiting aggregate =
      after.codes.reports aggregate + after.tasks.countP (·.reportsTo aggregate) := by
  have sum := gathered.counted
  have reports := threads.codes.reports_step aggregate task gathered.present
    (gathered.closed.tasks task work.mem)
  have tasks := work.countP_tasks (·.reportsTo aggregate)
  rw [work.codes, threads.codes.awaiting_step aggregate task gathered.present]
  omega

theorem kept_step : ∀ code, ∀ callback ∈ after.codes.callbacks code,
    callback.Proper children aggregate code := by
  intro code callback member
  rw [work.codes] at member
  rcases threads.codes.mem_callbacks_step task code callback member with
    before | rfl | ⟨future, rfl⟩
  · exact gathered.kept code callback before
  · exact gathered.queued _ work.mem
  · trivial

/-- A failure on its way to the aggregate arrives there. -/
theorem known_step
    (known : threads.codes.outcome aggregate ≠ .pending ∨
      ∃ told, .complete aggregate (.failed told) ∈ threads.tasks) :
    after.codes.outcome aggregate ≠ .pending ∨
      ∃ told, .complete aggregate (.failed told) ∈ after.tasks := by
  rcases known with done | ⟨told, telling⟩
  · exact .inl ((work.outcome_of_done gathered.present done).symm ▸ done)
  · rcases work.done_or_left telling with rfl | left
    · exact .inl (work.completed gathered.present (by simp))
    · exact .inr ⟨told, left⟩

omit gathered work in
theorem registering {child : CodeId}
    (work : threads.Worked (.register child (.settle child aggregate)) remaining after)
    (present : child < threads.codes.cells.length) : after.Owes child aggregate := by
  by_cases pending : threads.codes.outcome child = .pending
  · obtain ⟨cell, found⟩ := Codes.cell?_of_lt present
    have is := threads.codes.step_register_of_pending found (Codes.outcome_eq found ▸ pending)
      (.settle child aggregate)
    have changed : after.codes.cell? child = _ :=
      threads.codes.cell?_set present (by rw [work.codes, is]; rfl) child
    refine .inl ?_
    rw [Codes.callbacks_eq (changed.trans (if_pos rfl))]
    exact List.mem_append_right _ (List.mem_singleton_self _)
  · have is := Codes.step_register_of_done present pending (.settle child aggregate)
    exact .inr (.inr (work.mem_next (is ▸ List.mem_singleton_self _)))

omit work in
/-- A report about a failed child takes the failure to the aggregate. -/
theorem telling_step {child : CodeId} (listed : child ∈ children)
    (work : threads.Worked (.settle child aggregate) remaining after) :
    after.Heard child aggregate := by
  obtain ⟨_, done⟩ := gathered.queued _ work.mem rfl
  cases outcome : threads.codes.outcome child with
  | pending => exact absurd outcome done
  | succeeded => exact .inl (gathered.child_of_succeeded work listed outcome)
  | failed reason =>
    refine .inr ⟨reason, gathered.child_of_failed work listed outcome, .inr ⟨reason, ?_⟩⟩
    refine work.mem_next ?_
    simp [Codes.step, outcome]

theorem queued_step (spares : threads.codes.Spares aggregate task) :
    ∀ next ∈ after.tasks, next.Proper children aggregate after.codes := by
  intro next member
  rw [work.codes]
  rcases work.next_or_old member with new | old
  · exact (gathered.queued task work.mem).next (gathered.closed.tasks task work.mem)
      gathered.present gathered.kept spares new
  · exact (gathered.queued next old).step (gathered.closed.tasks next old) task

theorem heard_step : ∀ child ∈ children,
    after.Owes child aggregate ∨ after.Heard child aggregate := by
  intro child listed
  have present := gathered.known child listed
  rcases gathered.heard child listed with
    (kept | registered | settling) | (succeeded | ⟨reason, failed, known⟩)
  · cases threads.codes.fate task present with
    | unchanged _ callbacks _ => exact .inl (.inl (work.codes ▸ callbacks.symm ▸ kept))
    | completed _ _ _ _ _ _ _ freed =>
      refine .inl (.inr (.inr (work.mem_next (freed ▸ ?_))))
      exact List.mem_flatMap.mpr ⟨_, kept, List.mem_singleton_self _⟩
    | kept _ _ _ _ callbacks _ =>
      exact .inl (.inl (work.codes ▸ callbacks.symm ▸ List.mem_append_left _ kept))
    | counted _ _ callbacks _ => exact .inl (.inl (work.codes ▸ callbacks.symm ▸ kept))
  · rcases work.done_or_left registered with rfl | left
    · exact .inl (registering work present)
    · exact .inl (.inr (.inl left))
  · rcases work.done_or_left settling with rfl | left
    · exact .inr (gathered.telling_step listed work)
    · exact .inl (.inr (.inr left))
  · exact .inr (.inl (gathered.child_of_succeeded work listed succeeded))
  · exact .inr (.inr ⟨reason, gathered.child_of_failed work listed failed,
      gathered.known_step work known⟩)

/-- Where a completion of the aggregate on its way comes from. -/
theorem complete_step (spares : threads.codes.Spares aggregate task) {outcome : Outcome}
    (member : .complete aggregate outcome ∈ after.tasks) :
    (∃ child ∈ children, ∃ reason, outcome = .failed reason ∧
        threads.codes.outcome child = .failed reason) ∨
      (task = .discount aggregate ∧ outcome = .succeeded ∧ threads.codes.awaiting aggregate = 1) ∨
      .complete aggregate outcome ∈ threads.tasks := by
  have proper := gathered.queued task work.mem
  rcases work.next_or_old member with new | old
  · rcases Codes.complete_mem_step proper spares new with ⟨child, reason, rfl, failing⟩ | last
    · exact .inl ⟨child, (proper rfl).1, reason, failing⟩
    · exact .inr (.inl last)
  · exact .inr (.inr old)

theorem failing_step (spares : threads.codes.Spares aggregate task) :
    ∀ reason, .complete aggregate (.failed reason) ∈ after.tasks →
      ∃ child ∈ children, after.codes.outcome child = .failed reason := by
  intro reason member
  have before : ∃ child ∈ children, threads.codes.outcome child = .failed reason := by
    rcases gathered.complete_step work spares member with
      ⟨child, listed, _, ⟨⟩, failed⟩ | ⟨_, ⟨⟩, _⟩ | old
    · exact ⟨child, listed, failed⟩
    · exact gathered.failing reason old
  obtain ⟨child, listed, failed⟩ := before
  exact ⟨child, listed, gathered.child_of_failed work listed failed⟩

theorem ending_step (spares : threads.codes.Spares aggregate task)
    (member : .complete aggregate .succeeded ∈ after.tasks) :
    after.codes.awaiting aggregate = 0 := by
  rw [work.codes, threads.codes.awaiting_step aggregate task gathered.present]
  rcases gathered.complete_step work spares member with
    ⟨_, _, _, ⟨⟩, _⟩ | ⟨rfl, _, one⟩ | old
  · rw [one, Task.counts, if_pos (decide_eq_true rfl)]
  · rw [gathered.ending old, Nat.zero_sub]

theorem finished_step (none : after.codes.awaiting aggregate = 0) :
    after.codes.outcome aggregate ≠ .pending ∨
      .complete aggregate .succeeded ∈ after.tasks := by
  rw [work.codes, threads.codes.awaiting_step aggregate task gathered.present] at none
  by_cases before : threads.codes.awaiting aggregate = 0
  · rcases gathered.finished before with done | ending
    · exact .inl ((work.outcome_of_done gathered.present done).symm ▸ done)
    · rcases work.done_or_left ending with rfl | left
      · exact .inl (work.completed gathered.present nofun)
      · exact .inr left
  · -- the last report has just been counted
    cases task with
    | discount target =>
      have same : target = aggregate :=
        Decidable.byContradiction fun other => before (by simpa [Task.counts, other] using none)
      subst same
      have one : threads.codes.awaiting target = 1 := by
        simp only [Task.counts, decide_true, if_true] at none
        omega
      refine .inr (work.mem_next ?_)
      rw [threads.codes.step_discount_of_one target gathered.present one]
      exact List.mem_singleton_self _
    | _ => exact absurd none before

theorem succeeded_step (succeeded : after.codes.outcome aggregate = .succeeded) :
    ∀ child ∈ children, after.codes.outcome child = .succeeded := by
  have before : ∀ child ∈ children, threads.codes.outcome child = .succeeded := by
    rw [work.codes] at succeeded
    cases threads.codes.fate task gathered.present with
    | unchanged same _ _ => exact gathered.succeeded (same ▸ succeeded)
    | completed outcome is pending _ reached _ _ _ =>
      have ending : .complete aggregate .succeeded ∈ threads.tasks := by
        rw [← succeeded, reached, ← is]
        exact work.mem
      exact gathered.all_succeeded (gathered.ending ending) pending
    | kept _ _ _ pending _ _ =>
      rw [pending] at succeeded
      cases succeeded
    | counted _ same _ _ => exact gathered.succeeded (same ▸ succeeded)
  exact fun child listed => gathered.child_of_succeeded work listed (before child listed)

theorem failed_step (reason : Option Failure)
    (failed : after.codes.outcome aggregate = .failed reason) :
    ∃ child ∈ children, after.codes.outcome child = .failed reason := by
  have before : ∃ child ∈ children, threads.codes.outcome child = .failed reason := by
    rw [work.codes] at failed
    cases threads.codes.fate task gathered.present with
    | unchanged same _ _ => exact gathered.failed reason (same ▸ failed)
    | completed outcome is _ _ reached _ _ _ =>
      refine gathered.failing reason ?_
      rw [← failed, reached, ← is]
      exact work.mem
    | kept _ _ _ pending _ _ =>
      rw [pending] at failed
      cases failed
    | counted _ same _ _ => exact gathered.failed reason (same ▸ failed)
  obtain ⟨child, listed, failed⟩ := before
  exact ⟨child, listed, gathered.child_of_failed work listed failed⟩

end Step

theorem step (thread : Nat)
    (spares : ∀ task, threads.next? thread = some task → threads.codes.Spares aggregate task) :
    Gathered children aggregate (threads.step thread) := by
  cases threads.stepped thread with
  | idle _ same => exact same.symm ▸ gathered
  | worked task rest others next stack after work =>
    have spared := spares task next
    constructor
    case closed => exact gathered.closed.step thread
    case present => exact Nat.lt_of_lt_of_le gathered.present work.length_le
    case known =>
      exact fun child listed => Nat.lt_of_lt_of_le (gathered.known child listed) work.length_le
    case counted => exact gathered.counted_step work
    case kept => exact gathered.kept_step work
    case queued => exact gathered.queued_step work spared
    case orderly =>
      intro changed member
      rw [after] at member
      rcases List.mem_or_eq_of_mem_set member with old | rfl
      · exact gathered.orderly changed old
      · exact (gathered.orderly _ (List.mem_of_getElem? stack)).step
          (gathered.queued task work.mem) spared
    case heard => exact gathered.heard_step work
    case failing => exact gathered.failing_step work spared
    case ending => exact gathered.ending_step work spared
    case finished => exact gathered.finished_step work
    case succeeded => exact gathered.succeeded_step work
    case failed => exact gathered.failed_step work

theorem run (schedule : List Nat) (alone : threads.LeavesAlone aggregate schedule) :
    Gathered children aggregate (threads.run schedule) := by
  induction schedule generalizing threads with
  | nil => exact gathered
  | cons thread rest ih => exact ih (gathered.step thread alone.1) alone.2

section Settled

variable (settled : threads.Settled aggregate)

include settled

theorem heard_of_done {child : CodeId} (listed : child ∈ children)
    (done : threads.codes.outcome child ≠ .pending) : threads.Heard child aggregate := by
  -- A child that is done keeps no callbacks, and the threads have no report under way.
  refine (gathered.heard child listed).resolve_left ?_
  rintro (kept | registered | settling)
  · rw [gathered.closed.codes.released child done] at kept
    cases kept
  · have absent := (settled _ registered).1
    simp [Task.reportsTo, Callback.reportsTo] at absent
  · have absent := (settled _ settling).1
    simp [Task.reportsTo] at absent

/-- When all codes have completed and the threads are done with that, all reports are counted. -/
theorem awaiting_of_done (done : ∀ child ∈ children, threads.codes.outcome child ≠ .pending) :
    threads.codes.awaiting aggregate = 0 := by
  have kept : threads.codes.reports aggregate = 0 := by
    refine (threads.codes.reports_eq_zero_iff aggregate).mpr fun code callback member => ?_
    have proper := gathered.kept code callback member
    cases callback with
    | settle child target =>
      refine decide_eq_false fun same => ?_
      obtain ⟨rfl, listed⟩ := proper same
      rw [gathered.closed.codes.released child (done child listed)] at member
      cases member
    | _ => rfl
  have queued : threads.tasks.countP (·.reportsTo aggregate) = 0 := by
    rw [List.countP_eq_zero]
    exact fun task member => Bool.eq_false_iff.mp (settled task member).1
  rw [gathered.counted, kept, queued]

theorem succeeded_iff : threads.codes.outcome aggregate = .succeeded ↔
    ∀ child ∈ children, threads.codes.outcome child = .succeeded := by
  refine ⟨gathered.succeeded, fun all => ?_⟩
  have none := gathered.awaiting_of_done settled fun child listed => by simp [all child listed]
  cases outcome : threads.codes.outcome aggregate with
  | pending =>
    -- No report is awaited, so the completion would have to be on a stack still.
    rcases gathered.finished none with done | ending
    · exact absurd outcome done
    · have absent := (settled _ ending).2
      simp [Task.completes] at absent
  | succeeded => rfl
  | failed reason =>
    obtain ⟨child, listed, failed⟩ := gathered.failed reason outcome
    rw [all child listed] at failed
    cases failed

theorem failed_iff : (∃ reason, threads.codes.outcome aggregate = .failed reason) ↔
    ∃ child ∈ children, ∃ reason, threads.codes.outcome child = .failed reason := by
  constructor
  · rintro ⟨reason, failed⟩
    obtain ⟨child, listed, same⟩ := gathered.failed reason failed
    exact ⟨child, listed, reason, same⟩
  · rintro ⟨child, listed, reason, failed⟩
    rcases gathered.heard_of_done settled listed (by simp [failed]) with
      succeeded | ⟨_, _, done | ⟨told, telling⟩⟩
    · rw [failed] at succeeded
      cases succeeded
    · cases outcome : threads.codes.outcome aggregate with
      | pending => exact absurd outcome done
      | succeeded =>
        rw [gathered.succeeded outcome child listed] at failed
        cases failed
      | failed reason => exact ⟨reason, rfl⟩
    · have absent := (settled _ telling).2
      simp [Task.completes] at absent

end Settled

end Gathered

section Begin

variable {children : List CodeId} {aggregate : CodeId}

theorem Callback.Proper.of_not_mem {callback : Callback} (strange : aggregate ∉ callback.codes)
    (code : CodeId) : callback.Proper children aggregate code := by
  cases callback with
  | settle child target =>
    intro same
    simp [Callback.codes, same] at strange
  | forward source target =>
    intro same
    simp [Callback.codes, same] at strange
  | _ => trivial

theorem Callback.reportsTo_of_not_mem {callback : Callback}
    (strange : aggregate ∉ callback.codes) : callback.reportsTo aggregate = false := by
  cases callback with
  | settle child target =>
    refine decide_eq_false fun same => ?_
    simp [Callback.codes, same] at strange
  | _ => rfl

theorem Task.of_not_mem (children : List CodeId) {task : Task}
    (strange : aggregate ∉ task.codes) (codes : Codes) :
    task.Proper children aggregate codes ∧ task.reportsTo aggregate = false ∧
      task.completes aggregate = false := by
  cases task with
  | complete code outcome =>
    refine ⟨trivial, rfl, decide_eq_false fun same => ?_⟩
    simp [Task.codes, same] at strange
  | register code callback =>
    have apart : aggregate ∉ callback.codes := fun inside => strange (List.mem_cons_of_mem _ inside)
    exact ⟨Callback.Proper.of_not_mem apart code, Callback.reportsTo_of_not_mem apart, rfl⟩
  | settle child target =>
    have other : target ≠ aggregate := fun same => by simp [Task.codes, same] at strange
    exact ⟨fun same => absurd same other, decide_eq_false other, rfl⟩
  | discount target =>
    have other : target ≠ aggregate := fun same => by simp [Task.codes, same] at strange
    exact ⟨trivial, decide_eq_false other, rfl⟩
  | forward source target =>
    have other : target ≠ aggregate := fun same => by simp [Task.codes, same] at strange
    exact ⟨other, rfl, rfl⟩
  | takeWaker future => exact ⟨trivial, rfl, rfl⟩
  | wake waker => exact ⟨trivial, rfl, rfl⟩
  | fire label => exact ⟨trivial, rfl, rfl⟩
  | follow command => exact ⟨trivial, rfl, rfl⟩

/-- The code that gathering adds. -/
def Cell.gathering (children : List CodeId) : Cell where
  outcome := if children.isEmpty then .succeeded else .pending
  callbacks := []
  awaiting := children.length

theorem Codes.gather_cells (codes : Codes) (children : List CodeId) :
    (codes.gather children).1.cells = codes.cells ++ [.gathering children] := by
  cases children <;> rfl

/-- A new aggregate waits for one report from each of its codes. -/
theorem Gathered.begin {codes : Codes} {after : Threads} {old : List Task}
    (before : codes.Closed) (closed : after.Closed)
    (within : ∀ child ∈ children, child < codes.cells.length)
    (cells : after.codes.cells = codes.cells ++ [.gathering children])
    (tasks : after.tasks.Perm
      (children.map (fun child => .register child (.settle child codes.cells.length)) ++ old))
    (apart : ∀ task ∈ old, codes.cells.length ∉ task.codes) :
    Gathered children codes.cells.length after := by
  have callbacks : ∀ code, after.codes.callbacks code = codes.callbacks code :=
    Codes.callbacks_push rfl cells
  have strange : ∀ code, ∀ callback ∈ codes.callbacks code,
      codes.cells.length ∉ callback.codes := fun code callback kept concerned =>
    Nat.lt_irrefl _ (before.within code callback kept _ concerned)
  have here : after.codes.cell? codes.cells.length = some (.gathering children) := by
    simp [Codes.cell?, cells]
  have task_cases : ∀ task ∈ after.tasks,
      (∃ child ∈ children, task = .register child (.settle child codes.cells.length)) ∨
        task ∈ old := by
    intro task member
    rcases List.mem_append.mp (tasks.mem_iff.mp member) with new | past
    · obtain ⟨child, listed, rfl⟩ := List.mem_map.mp new
      exact .inl ⟨child, listed, rfl⟩
    · exact .inr past
  have no_completion : ∀ task ∈ after.tasks, task.completes codes.cells.length = false := by
    intro task member
    rcases task_cases task member with ⟨child, listed, rfl⟩ | past
    · rfl
    · exact (Task.of_not_mem children (apart task past) codes).2.2
  have not_completing : ∀ outcome, .complete codes.cells.length outcome ∉ after.tasks :=
    fun outcome member => by simpa [Task.completes] using no_completion _ member
  constructor
  case closed => exact closed
  case present => simp [cells]
  case known =>
    intro child listed
    rw [cells, List.length_append]
    exact Nat.lt_add_right 1 (within child listed)
  case counted =>
    have kept : after.codes.reports codes.cells.length = 0 := by
      refine (after.codes.reports_eq_zero_iff _).mpr fun code callback member => ?_
      rw [callbacks] at member
      exact Callback.reportsTo_of_not_mem (strange code callback member)
    have new : (children.map fun child =>
        Task.register child (.settle child codes.cells.length)).countP
          (·.reportsTo codes.cells.length) = children.length := by
      rw [List.countP_eq_length.mpr, List.length_map]
      intro task member
      obtain ⟨child, _, rfl⟩ := List.mem_map.mp member
      exact decide_eq_true rfl
    have past : old.countP (·.reportsTo codes.cells.length) = 0 := by
      rw [List.countP_eq_zero]
      exact fun task member =>
        Bool.eq_false_iff.mp (Task.of_not_mem children (apart task member) codes).2.1
    rw [Codes.awaiting_eq here, kept, tasks.countP_eq, List.countP_append, new, past]
    exact (Nat.zero_add _).symm
  case kept =>
    intro code callback member
    rw [callbacks] at member
    exact Callback.Proper.of_not_mem (strange code callback member) code
  case queued =>
    intro task member
    rcases task_cases task member with ⟨child, listed, rfl⟩ | past
    · exact fun _ => ⟨rfl, listed⟩
    · exact (Task.of_not_mem children (apart task past) after.codes).1
  case orderly =>
    exact fun stack present => .of_none fun task member =>
      no_completion task (List.mem_flatten.mpr ⟨stack, present, member⟩)
  case heard =>
    intro child listed
    refine .inl (.inr (.inl (tasks.mem_iff.mpr (List.mem_append_left _ ?_))))
    exact List.mem_map.mpr ⟨child, listed, rfl⟩
  case failing => exact fun reason member => absurd member (not_completing _)
  case ending => exact fun member => absurd member (not_completing _)
  case finished =>
    intro none
    rw [Codes.awaiting_eq here] at none
    rw [Codes.outcome_eq here]
    have empty : children = [] := List.eq_nil_of_length_eq_zero none
    subst empty
    refine .inl fun pending => ?_
    cases pending
  case succeeded =>
    intro succeeded child listed
    rw [Codes.outcome_eq here] at succeeded
    cases children with
    | nil => cases listed
    | cons first rest => cases succeeded
  case failed =>
    intro reason failed
    rw [Codes.outcome_eq here] at failed
    cases children <;> cases failed

/-- An instruction to gather named codes adds such an aggregate. -/
theorem Gathered.gather {threads : Threads} (closed : threads.Closed) {thread : Nat}
    {name : String} {names : List String}
    (next : threads.next? thread = some (.follow (.gather name names))) :
    Gathered (names.filterMap threads.codes.named?) threads.codes.cells.length
      (threads.step thread) := by
  cases threads.stepped thread with
  | idle nothing _ =>
    rw [nothing] at next
    cases next
  | worked task rest others found stack after work =>
    cases found.symm.trans next
    refine .begin closed.codes (closed.step thread) ?_ ?_ work.after_tasks ?_
    · intro child listed
      obtain ⟨known, _, named⟩ := List.mem_filterMap.mp listed
      exact closed.codes.named known child named
    · rw [work.codes]
      exact threads.codes.gather_cells _
    · intro task member concerned
      have past := work.before_tasks.mem_iff.mpr (List.mem_cons_of_mem _ member)
      exact Nat.lt_irrefl _ (closed.tasks task past _ concerned)

end Begin

end Metering.Completion
