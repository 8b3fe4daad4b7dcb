import Metering.Proofs.Completion.Calls

/-!
Cascades. Codes that pass their outcomes on and aggregates that follow codes may be linked in any
way, to each other and to themselves, and completed in any order by any threads. Each call returns,
each code changes its outcome at most once, and when no call is under way every link has done what
it is for: a code that is done has passed its outcome on, and an aggregate has failed if one of its
codes has failed and has succeeded if all of them have, unless something else has completed it.
-/

namespace Metering.Completion

/-- Whether what became of a child is known to an aggregate, or a thread is about to tell and then
to count the report. -/
def Threads.Informed (threads : Threads) (child aggregate : CodeId) : Prop :=
  threads.codes.outcome child = .succeeded ∨
    ∃ reason, threads.codes.outcome child = .failed reason ∧
      (threads.codes.outcome aggregate ≠ .pending ∨ ∃ (thread : Nat) (told : Option Failure)
        (rest : List Task), threads.todo[thread]? =
          some (.complete aggregate (.failed told) :: .discount aggregate :: rest))

namespace Network

/-- Whether something else than its own reports has completed an aggregate. -/
def Usurped (network : Network) (aggregate : CodeId) : Prop :=
  ∃ call ∈ network.calls, call.code = aggregate ∧ call.found = .pending ∧ call.given ≠ .pending ∧
    call.cause ≠ .report aggregate

/-- An aggregate that follows some codes, unless something else completes it. -/
structure Follows (network : Network) (children : List CodeId) (aggregate : CodeId) : Prop where
  present : aggregate < network.codes.cells.length
  known : ∀ child ∈ children, child < network.codes.cells.length
  counted : network.codes.awaiting aggregate = network.codes.reports aggregate +
    network.roster.threads.tasks.countP (·.reportsTo aggregate)
  kept : ∀ code child, .settle child aggregate ∈ network.codes.callbacks code →
    child = code ∧ child ∈ children
  registered : ∀ code child, .register code (.settle child aggregate) ∈
    network.roster.threads.tasks → child = code ∧ child ∈ children
  settling : ∀ child, .settle child aggregate ∈ network.roster.threads.tasks →
    child ∈ children ∧ network.codes.outcome child ≠ .pending
  informed : ∀ child ∈ children, network.roster.threads.Owes child aggregate ∨
    network.roster.threads.Informed child aggregate
  /-- What the reports make of the aggregate. -/
  reported : ∀ (thread : Nat) outcome rest, network.hands[thread]? = some [.report aggregate] →
    network.roster.threads.todo[thread]? = some (.complete aggregate outcome :: rest) →
      (outcome = .succeeded ∧ network.codes.awaiting aggregate = 0) ∨
        ∃ child ∈ children, ∃ reason, outcome = .failed reason ∧
          network.codes.outcome child = .failed reason
  finished : network.codes.awaiting aggregate = 0 → network.codes.outcome aggregate ≠ .pending ∨
    .complete aggregate .succeeded ∈ network.roster.threads.tasks
  concluded : network.codes.outcome aggregate ≠ .pending → network.Usurped aggregate ∨
    (network.codes.outcome aggregate = .succeeded ∧
      ∀ child ∈ children, network.codes.outcome child = .succeeded) ∨
    ∃ child ∈ children, ∃ reason, network.codes.outcome aggregate = .failed reason ∧
      network.codes.outcome child = .failed reason

namespace Follows

variable {network : Network} {children : List CodeId} {aggregate : CodeId}
  (follows : network.Follows children aggregate)

include follows

theorem not_reporting (none : network.codes.awaiting aggregate = 0) :
    network.codes.reports aggregate = 0 ∧
      ∀ task ∈ network.roster.threads.tasks, task.reportsTo aggregate = false := by
  have sum := follows.counted
  have nowhere : network.roster.threads.tasks.countP (·.reportsTo aggregate) = 0 := by omega
  exact ⟨by omega, by simpa [List.countP_eq_zero] using nowhere⟩

/-- Once all reports have been counted while the aggregate is pending, nothing has failed. -/
theorem all_succeeded (none : network.codes.awaiting aggregate = 0)
    (pending : network.codes.outcome aggregate = .pending) :
    ∀ child ∈ children, network.codes.outcome child = .succeeded := by
  intro child listed
  obtain ⟨unkept, unqueued⟩ := follows.not_reporting none
  -- A child whose report is still to come would be kept or queued, and its report counted.
  have silent : ∀ task : Task, task.reportsTo aggregate = true →
      task ∉ network.roster.threads.tasks := fun task reports member => by
    rw [unqueued task member] at reports
    cases reports
  rcases follows.informed child listed with
    (kept | registered | settling) | (succeeded | ⟨reason, _, done | ⟨thread, told, rest, stack⟩⟩)
  · have never := (network.codes.reports_eq_zero_iff aggregate).mp unkept child _ kept
    simp [Callback.reportsTo] at never
  · exact absurd registered (silent _ (decide_eq_true rfl))
  · exact absurd settling (silent _ (decide_eq_true rfl))
  · exact succeeded
  · exact absurd pending done
  · refine absurd (List.mem_flatten.mpr ⟨_, List.mem_of_getElem? stack, ?_⟩)
      (silent (.discount aggregate) (decide_eq_true rfl))
    exact List.mem_cons_of_mem _ List.mem_cons_self

section Turn

variable {thread : Nat} {task : Task} {rest : List Task} {mine : List Registration}
  {hand : List Cause} (turn : network.Turn thread task rest mine hand)

include turn

omit follows in
theorem outcome_turn {code : CodeId} {outcome : Outcome}
    (known : network.codes.outcome code = outcome) (final : outcome ≠ .pending) :
    (network.step thread).codes.outcome code = outcome := by
  have done := known.symm ▸ final
  rw [Faithful.codes_turn turn,
    network.codes.outcome_step_of_done task (Codes.lt_of_done done) done, known]

omit follows in
theorem succeeded_turn {code : CodeId} (succeeded : network.codes.outcome code = .succeeded) :
    (network.step thread).codes.outcome code = .succeeded :=
  outcome_turn turn succeeded (by simp)

omit follows in
theorem failed_turn {code : CodeId} {reason : Option Failure}
    (failed : network.codes.outcome code = .failed reason) :
    (network.step thread).codes.outcome code = .failed reason :=
  outcome_turn turn failed (by simp)

omit follows in
theorem length_turn : network.codes.cells.length ≤ (network.step thread).codes.cells.length :=
  Faithful.codes_turn turn ▸ network.codes.length_le_step task

theorem awaiting_turn : (network.step thread).codes.awaiting aggregate =
    network.codes.awaiting aggregate - if task.counts aggregate then 1 else 0 := by
  rw [Faithful.codes_turn turn]
  exact network.codes.awaiting_step aggregate task follows.present

theorem counted_turn (closed : network.roster.threads.Closed) :
    (network.step thread).codes.awaiting aggregate = (network.step thread).codes.reports aggregate +
      (network.step thread).roster.threads.tasks.countP (·.reportsTo aggregate) := by
  obtain ⟨_, work⟩ := turn.work
  have sum := follows.counted
  have reports := network.codes.reports_step aggregate task follows.present
    (closed.tasks task work.mem)
  have tasks := work.countP_tasks (·.reportsTo aggregate)
  rw [follows.awaiting_turn turn, Faithful.codes_turn turn]
  change _ = _ + List.countP _ (network.codes.step task).2 at tasks
  omega

theorem kept_turn (code child : CodeId)
    (member : .settle child aggregate ∈ (network.step thread).codes.callbacks code) :
    child = code ∧ child ∈ children := by
  obtain ⟨_, work⟩ := turn.work
  rw [Faithful.codes_turn turn] at member
  rcases network.codes.mem_callbacks_step task code _ member with before | rfl | ⟨_, ⟨⟩⟩
  · exact follows.kept code child before
  · exact follows.registered code child work.mem

theorem registered_turn (code child : CodeId) (member : .register code (.settle child aggregate) ∈
    (network.step thread).roster.threads.tasks) : child = code ∧ child ∈ children := by
  obtain ⟨_, work⟩ := turn.work
  have never : ∀ {callback : Callback}, .register code (.settle child aggregate) ∉ callback.tasks :=
    fun inside => (Callback.begins_or_follows inside).elim nofun nofun
  rcases work.next_or_old member with new | old
  · generalize is : Task.register code (.settle child aggregate) = next at new
    cases network.codes.next_of_mem_step task next new with
    | freed _ _ _ _ callback _ _ inside => exact absurd (is ▸ inside) never
    | late _ _ _ callback _ inside => exact absurd (is ▸ inside) never
    | gathered name names other listed =>
      cases is
      exact absurd follows.present (Nat.lt_irrefl _)
    | _ => cases is
  · exact follows.registered code child old

theorem settling_turn (child : CodeId)
    (member : .settle child aggregate ∈ (network.step thread).roster.threads.tasks) :
    child ∈ children ∧ (network.step thread).codes.outcome child ≠ .pending := by
  obtain ⟨_, work⟩ := turn.work
  have only : ∀ {callback : Callback}, .settle child aggregate ∈ callback.tasks →
      callback = .settle child aggregate := by
    intro callback inside
    cases callback with
    | settle other target => cases List.mem_singleton.mp inside; rfl
    | script label steps =>
      rcases List.mem_cons.mp inside with same | later
      · cases same
      · obtain ⟨command, _, same⟩ := List.mem_map.mp later
        cases same
    | _ => cases List.mem_singleton.mp inside
  rcases work.next_or_old member with new | old
  · generalize is : Task.settle child aggregate = next at new
    cases network.codes.next_of_mem_step task next new with
    | freed code outcome pending final callback kept _ inside =>
      obtain ⟨rfl, listed⟩ := follows.kept code child (only (is ▸ inside) ▸ kept)
      refine ⟨listed, ?_⟩
      rw [Faithful.codes_turn turn,
        network.codes.outcome_step_complete (follows.known child listed) pending final]
      exact final
    | late code _ done callback _ inside =>
      cases only (is ▸ inside)
      obtain ⟨rfl, listed⟩ := follows.registered code child work.mem
      exact ⟨listed, (outcome_turn turn rfl done).symm ▸ done⟩
    | _ => cases is
  · obtain ⟨listed, done⟩ := follows.settling child old
    exact ⟨listed, (outcome_turn turn rfl done).symm ▸ done⟩

/-- A failure that a thread is about to tell arrives at the aggregate. -/
theorem telling_turn (known : network.codes.outcome aggregate ≠ .pending ∨
      ∃ (other : Nat) (told : Option Failure) (rest : List Task),
        network.roster.threads.todo[other]? =
          some (.complete aggregate (.failed told) :: .discount aggregate :: rest)) :
    (network.step thread).codes.outcome aggregate ≠ .pending ∨
      ∃ (other : Nat) (told : Option Failure) (rest : List Task),
        (network.step thread).roster.threads.todo[other]? =
          some (.complete aggregate (.failed told) :: .discount aggregate :: rest) := by
  obtain ⟨_, work⟩ := turn.work
  rcases known with done | ⟨other, told, more, stack⟩
  · exact .inl ((outcome_turn turn rfl done).symm ▸ done)
  · by_cases same : thread = other
    · subst same
      cases turn.stack.symm.trans stack
      exact .inl (work.completed follows.present nofun)
    · refine .inr ⟨other, told, more, ?_⟩
      rw [turn.todo, List.getElem?_set_ne same, stack]

theorem informed_turn (child : CodeId) (listed : child ∈ children) :
    (network.step thread).roster.threads.Owes child aggregate ∨
      (network.step thread).roster.threads.Informed child aggregate := by
  obtain ⟨_, work⟩ := turn.work
  have inside := follows.known child listed
  rcases follows.informed child listed with
    (kept | registered | settling) | (succeeded | ⟨reason, failed, known⟩)
  · cases network.codes.fate task inside with
    | unchanged _ callbacks _ => exact .inl (.inl (work.codes ▸ callbacks.symm ▸ kept))
    | completed _ _ _ _ _ _ _ freed =>
      refine .inl (.inr (.inr (work.mem_next (freed ▸ ?_))))
      exact List.mem_flatMap.mpr ⟨_, kept, List.mem_singleton_self _⟩
    | kept _ _ _ _ callbacks _ =>
      exact .inl (.inl (work.codes ▸ callbacks.symm ▸ List.mem_append_left _ kept))
    | counted _ _ callbacks _ => exact .inl (.inl (work.codes ▸ callbacks.symm ▸ kept))
  · rcases work.done_or_left registered with rfl | left
    · exact .inl (Gathered.registering work inside)
    · exact .inl (.inr (.inl left))
  · rcases work.done_or_left settling with rfl | left
    · have done := (follows.settling child settling).2
      cases outcome : network.codes.outcome child with
      | pending => exact absurd outcome done
      | succeeded => exact .inr (.inl (succeeded_turn turn outcome))
      | failed reason =>
        refine .inr (.inr ⟨reason, failed_turn turn outcome, .inr ⟨thread, reason, rest, ?_⟩⟩)
        rw [turn.todo, List.getElem?_set_self (List.getElem?_eq_some_iff.mp turn.stack).1]
        simp only [Codes.step, outcome]
        rfl
    · exact .inl (.inr (.inr left))
  · exact .inr (.inl (succeeded_turn turn succeeded))
  · exact .inr (.inr ⟨reason, failed_turn turn failed, follows.telling_turn turn known⟩)

theorem reported_turn (faithful : network.Faithful) (other : Nat) (outcome : Outcome)
    (more : List Task) (holds : (network.step thread).hands[other]? = some [.report aggregate])
    (stack : (network.step thread).roster.threads.todo[other]? =
      some (.complete aggregate outcome :: more)) :
    (outcome = .succeeded ∧ (network.step thread).codes.awaiting aggregate = 0) ∨
      ∃ child ∈ children, ∃ reason, outcome = .failed reason ∧
        (network.step thread).codes.outcome child = .failed reason := by
  have inside := (List.getElem?_eq_some_iff.mp turn.stack).1
  obtain ⟨_, work⟩ := turn.work
  rw [turn.hands] at holds
  rw [turn.todo] at stack
  by_cases same : thread = other
  · subst same
    rw [List.getElem?_set_self (faithful.width ▸ inside), Option.some_inj, Codes.hand] at holds
    rw [List.getElem?_set_self inside, Option.some_inj] at stack
    split at holds
    next called =>
      obtain ⟨⟨code, given⟩, calls⟩ := Option.isSome_iff_exists.mp called
      obtain ⟨tail, is, _⟩ := network.codes.step_of_call? calls
      rw [is, List.cons_append] at stack
      cases stack
      cases task with
      | settle child target =>
        cases holds
        have listed := (follows.settling child work.mem).1
        cases failed : network.codes.outcome child with
        | failed reason =>
          simp only [Codes.call?, failed, Option.some_inj, Prod.mk.injEq] at calls
          exact .inr ⟨child, listed, reason, calls.2.symm, failed_turn turn failed⟩
        | _ => simp [Codes.call?, failed] at calls
      | discount target =>
        cases holds
        rw [follows.awaiting_turn turn]
        simp only [Codes.call?] at calls
        split at calls
        next one =>
          cases calls
          rw [one, Task.counts, if_pos (decide_eq_true rfl)]
          exact .inl ⟨rfl, rfl⟩
        next => cases calls
      | forward source target =>
        obtain ⟨link, _, rfl, _⟩ := faithful.link_of_forward turn rfl
        cases holds
      | _ => cases holds
    next => cases holds
  · rw [List.getElem?_set_ne same] at holds stack
    rcases follows.reported other outcome more holds stack with
      ⟨is, none⟩ | ⟨child, listed, reason, is, failed⟩
    · refine .inl ⟨is, ?_⟩
      rw [follows.awaiting_turn turn, none, Nat.zero_sub]
    · exact .inr ⟨child, listed, reason, is, failed_turn turn failed⟩

theorem finished_turn (none : (network.step thread).codes.awaiting aggregate = 0) :
    (network.step thread).codes.outcome aggregate ≠ .pending ∨
      .complete aggregate .succeeded ∈ (network.step thread).roster.threads.tasks := by
  obtain ⟨_, work⟩ := turn.work
  rw [follows.awaiting_turn turn] at none
  by_cases before : network.codes.awaiting aggregate = 0
  · rcases follows.finished before with done | ending
    · exact .inl ((outcome_turn turn rfl done).symm ▸ done)
    · rcases work.done_or_left ending with rfl | left
      · exact .inl (work.completed follows.present nofun)
      · exact .inr left
  · -- The last report has just been counted.
    have counts : task.counts aggregate = true := by
      refine Decidable.byContradiction fun other => before ?_
      rwa [if_neg other] at none
    rw [counts, if_pos rfl] at none
    obtain rfl : task = .discount aggregate := by
      cases task <;> simp_all [Task.counts]
    refine .inr (work.mem_next ?_)
    change _ ∈ (network.codes.step (.discount aggregate)).2
    rw [network.codes.step_discount_of_one aggregate follows.present (by omega)]
    exact List.mem_singleton_self _

theorem concluded_turn (faithful : network.Faithful)
    (done : (network.step thread).codes.outcome aggregate ≠ .pending) :
    (network.step thread).Usurped aggregate ∨
      ((network.step thread).codes.outcome aggregate = .succeeded ∧
        ∀ child ∈ children, (network.step thread).codes.outcome child = .succeeded) ∨
      ∃ child ∈ children, ∃ reason,
        (network.step thread).codes.outcome aggregate = .failed reason ∧
          (network.step thread).codes.outcome child = .failed reason := by
  by_cases pending : network.codes.outcome aggregate = .pending
  -- It is completed just now, so by a call: one of its own reports, or it has been usurped.
  · rw [Faithful.codes_turn turn] at done
    cases network.codes.fate task follows.present with
    | unchanged same => exact absurd (same.trans pending) done
    | kept _ _ _ same => exact absurd same done
    | counted _ same => exact absurd (same.trans pending) done
    | completed outcome is _ final reached =>
      subst is
      have now := (congrArg (·.outcome aggregate) (Faithful.codes_turn turn)).trans reached
      obtain ⟨cause, rfl, _⟩ := (faithful.fits thread _ hand turn.stack turn.holds).of_call
      by_cases own : cause = .report aggregate
      · subst own
        rcases follows.reported thread outcome rest turn.holds turn.stack with
          ⟨rfl, none⟩ | ⟨child, listed, reason, rfl, failed⟩
        · refine .inr (.inl ⟨now, fun child listed => ?_⟩)
          exact succeeded_turn turn (follows.all_succeeded none pending child listed)
        · exact .inr (.inr ⟨child, listed, reason, now, failed_turn turn failed⟩)
      · refine .inl ⟨⟨cause, aggregate, outcome, .pending⟩, ?_, rfl, rfl, final, own⟩
        rw [turn.calls, Codes.met, pending]
        exact List.mem_append_right _ (List.mem_singleton_self _)
  · rcases follows.concluded pending with
      ⟨call, met, usurps⟩ | ⟨succeeded, all⟩ | ⟨child, listed, reason, failed, known⟩
    · exact .inl ⟨call, turn.calls ▸ List.mem_append_left _ met, usurps⟩
    · exact .inr (.inl ⟨succeeded_turn turn succeeded,
        fun child listed => succeeded_turn turn (all child listed)⟩)
    · exact .inr (.inr ⟨child, listed, reason, failed_turn turn failed,
        failed_turn turn known⟩)

theorem after_turn (faithful : network.Faithful) :
    (network.step thread).Follows children aggregate where
  present := Nat.lt_of_lt_of_le follows.present (length_turn turn)
  known := fun child listed => Nat.lt_of_lt_of_le (follows.known child listed) (length_turn turn)
  counted := follows.counted_turn turn faithful.roster.closed
  kept := follows.kept_turn turn
  registered := follows.registered_turn turn
  settling := follows.settling_turn turn
  informed := follows.informed_turn turn
  reported := follows.reported_turn turn faithful
  finished := follows.finished_turn turn
  concluded := follows.concluded_turn turn faithful

end Turn

section Resting

variable (closed : network.codes.Closed) (resting : network.roster.threads.Resting)

include resting

omit follows in
theorem absent_of_resting {task : Task} (other : ∀ command, task ≠ .follow command) :
    task ∉ network.roster.threads.tasks := fun member =>
  (resting.follow member).elim other

include closed

theorem failed_of_resting {child : CodeId} {reason : Option Failure} (listed : child ∈ children)
    (failed : network.codes.outcome child = .failed reason) : network.Usurped aggregate ∨
      ∃ reason, network.codes.outcome aggregate = .failed reason := by
  have done : network.codes.outcome aggregate ≠ .pending := by
    rcases follows.informed child listed with
      (kept | registered | settling) | (succeeded | ⟨_, _, done | ⟨thread, told, rest, stack⟩⟩)
    · have released := closed.released child (by rw [failed]; exact nofun)
      change _ ∈ network.codes.callbacks child at kept
      rw [released] at kept
      cases kept
    · exact absurd registered (absent_of_resting resting nofun)
    · exact absurd settling (absent_of_resting resting nofun)
    · cases failed.symm.trans succeeded
    · exact done
    · have member := List.mem_flatten.mpr ⟨_, List.mem_of_getElem? stack, List.mem_cons_self⟩
      exact absurd member (absent_of_resting resting nofun)
  rcases follows.concluded done with usurped | ⟨_, all⟩ | ⟨_, _, reason, failed, _⟩
  · exact .inl usurped
  · cases failed.symm.trans (all child listed)
  · exact .inr ⟨reason, failed⟩

theorem succeeded_of_resting
    (all : ∀ child ∈ children, network.codes.outcome child = .succeeded) :
    network.Usurped aggregate ∨ network.codes.outcome aggregate = .succeeded := by
  have unkept : network.codes.reports aggregate = 0 := by
    refine (network.codes.reports_eq_zero_iff aggregate).mpr fun code callback member => ?_
    cases callback with
    | settle child target =>
      refine decide_eq_false fun same => ?_
      subst same
      obtain ⟨rfl, listed⟩ := follows.kept code child member
      rw [closed.released child (by rw [all child listed]; exact nofun)] at member
      cases member
    | _ => rfl
  have unqueued : network.roster.threads.tasks.countP (·.reportsTo aggregate) = 0 := by
    refine List.countP_eq_zero.mpr fun task member => ?_
    obtain ⟨command, rfl⟩ := resting.follow member
    exact Bool.false_ne_true
  have none : network.codes.awaiting aggregate = 0 := by rw [follows.counted, unkept, unqueued]
  have done := (follows.finished none).resolve_right (absent_of_resting resting nofun)
  rcases follows.concluded done with usurped | ⟨succeeded, _⟩ | ⟨child, listed, _, _, failed⟩
  · exact .inl usurped
  · exact .inr succeeded
  · cases failed.symm.trans (all child listed)

end Resting

end Follows

/-- A new aggregate follows its codes. -/
theorem Faithful.follows_new {network : Network} (faithful : network.Faithful) {thread : Nat}
    {name : String} {names : List String} {rest : List Task} {mine : List Registration}
    {hand : List Cause}
    (turn : network.Turn thread (.follow (.gather name names)) rest mine hand) :
    (network.step thread).Follows (names.filterMap network.codes.named?)
      network.codes.cells.length := by
  obtain ⟨_, work⟩ := turn.work
  have threads : (network.step thread).roster.threads = network.roster.threads.step thread := by
    rw [roster_step, Roster.threads_step]
  have gathered := Gathered.gather faithful.roster.closed turn.next
  rw [← threads] at gathered
  have uncalled : ∀ outcome, .complete network.codes.cells.length outcome ∉
      (network.step thread).roster.threads.tasks := by
    intro outcome member
    rcases work.next_or_old member with new | old
    · generalize is : Task.complete network.codes.cells.length outcome = next at new
      cases network.codes.next_of_mem_step _ next new
      cases is
    · exact Nat.lt_irrefl _ (faithful.roster.closed.tasks _ old _ List.mem_cons_self)
  constructor
  case present => exact gathered.present
  case known => exact gathered.known
  case counted => exact gathered.counted
  case kept => exact fun code child member => gathered.kept code _ member rfl
  case registered => exact fun code child member => gathered.queued _ member rfl
  case settling => exact fun child member => gathered.queued _ member rfl
  case informed =>
    intro child listed
    rcases gathered.heard child listed with
      owes | succeeded | ⟨reason, failed, done | ⟨told, member⟩⟩
    · exact .inl owes
    · exact .inr (.inl succeeded)
    · exact .inr (.inr ⟨reason, failed, .inl done⟩)
    · exact absurd member (uncalled _)
  case reported =>
    intro other outcome more _ stack
    exact absurd (List.mem_flatten.mpr ⟨_, List.mem_of_getElem? stack, List.mem_cons_self⟩)
      (uncalled outcome)
  case finished => exact gathered.finished
  case concluded =>
    intro done
    cases outcome : (network.step thread).codes.outcome network.codes.cells.length with
    | pending => exact absurd outcome done
    | succeeded => exact .inr (.inl ⟨rfl, gathered.succeeded outcome⟩)
    | failed reason =>
      obtain ⟨child, listed, failed⟩ := gathered.failed reason outcome
      exact .inr (.inr ⟨child, listed, reason, rfl, failed⟩)

/-- What holds of a network at any time. -/
structure Sound (network : Network) : Prop extends Faithful network where
  follows : ∀ entry ∈ network.aggregates, network.Follows entry.2 entry.1

theorem sound_start (programs : List (List Command)) : (start programs).Sound :=
  { faithful_start programs with follows := nofun }

theorem Sound.step {network : Network} (sound : network.Sound) (thread : Nat) :
    (network.step thread).Sound := by
  have faithful := sound.toFaithful
  refine { faithful.step thread with follows := fun entry member => ?_ }
  rcases faithful.turn_or_idle thread with same | ⟨task, rest, mine, hand, turn⟩
  · rw [same] at member ⊢
    exact sound.follows entry member
  · rw [turn.aggregates] at member
    rcases List.mem_append.mp member with old | new
    · exact (sound.follows entry old).after_turn turn faithful
    · cases task with
      | follow command =>
        cases command with
        | gather name names =>
          cases List.mem_singleton.mp new
          exact faithful.follows_new turn
        | _ => cases new
      | _ => cases new

theorem Sound.run {network : Network} (sound : network.Sound) (schedule : List Nat) :
    (network.run schedule).Sound := by
  induction schedule generalizing network with
  | nil => exact sound
  | cons thread rest ih => exact ih (sound.step thread)

/-- What the links between codes have done when no call is under way. -/
structure Settled (network : Network) : Prop where
  /-- A code that is done has passed its outcome on, once for each time it was told to. -/
  forwards : ∀ link ∈ network.roster.passed, ∀ source target,
    link.callback = .forward source target → network.codes.outcome source ≠ .pending →
      link.code = source ∧ network.codes.outcome target ≠ .pending ∧
        ∃ call, network.told link.number = [call] ∧ call.code = target ∧
          call.given = network.codes.outcome source ∧
            (call.found = .pending → network.codes.outcome target = network.codes.outcome source)
  failed : ∀ entry ∈ network.aggregates, (∃ child ∈ entry.2, ∃ reason,
    network.codes.outcome child = .failed reason) → network.Usurped entry.1 ∨
      ∃ reason, network.codes.outcome entry.1 = .failed reason
  succeeded : ∀ entry ∈ network.aggregates,
    (∀ child ∈ entry.2, network.codes.outcome child = .succeeded) →
      network.Usurped entry.1 ∨ network.codes.outcome entry.1 = .succeeded

theorem Sound.settled {network : Network} (sound : network.Sound)
    (resting : network.roster.threads.Resting) : network.Settled where
  forwards := fun link passed source target callback done => by
    obtain ⟨call, told, cause⟩ := sound.told_eq resting passed callback done
    have met : call ∈ network.calls :=
      (List.mem_filter.mp (told ▸ List.mem_singleton_self call : call ∈ network.told _)).1
    have same := sound.linked link passed source target callback
    obtain ⟨links, given, final⟩ := sound.notices call met link cause
    rw [callback, same] at links
    rw [same] at given
    obtain rfl : call.code = target := by cases links; rfl
    have outcome := sound.outcomes call met final
    refine ⟨same, ?_, call, told, rfl, given.symm, fun pending => ?_⟩
    · rw [outcome]
      split
      · exact final
      · assumption
    · rw [outcome, if_pos pending, given]
  failed := fun entry member => fun ⟨child, listed, _, failed⟩ =>
    (sound.follows entry member).failed_of_resting sound.roster.closed.codes resting listed failed
  succeeded := fun entry member =>
    (sound.follows entry member).succeeded_of_resting sound.roster.closed.codes resting

/-- However codes are linked and completed, each call returns, each code changes its outcome at
most once, and the links have done what they are for whenever no call is under way, as is so once
each thread has had its turns. -/
theorem cascades_settle (programs : List (List Command)) (schedule : List Nat) :
    let network := (start programs).run schedule
    let threads := network.roster.threads
    threads = (Threads.start programs).run schedule ∧ threads.Returning ∧
      (∀ code, (Threads.start programs).changes code schedule ≤ 1) ∧
      (∀ source target, .register source (.forward source target) ∈
        (Threads.start programs).carried schedule → ∃ link ∈ network.roster.passed,
          link.code = source ∧ link.callback = .forward source target) ∧
      (threads.Resting → network.Settled) ∧
      ∀ later : List Nat, (∀ thread < programs.length, threads.weight ≤ later.count thread) →
        (network.run later).roster.threads.Resting ∧ (network.run later).Settled := by
  intro network threads
  have sound : network.Sound := (sound_start programs).run schedule
  have same : threads = (Threads.start programs).run schedule := by
    change ((start programs).run schedule).roster.threads = _
    rw [roster_run, Roster.threads_run]
    rfl
  refine ⟨same, threads.returning, fun code => ?_, fun source target carried => ?_, sound.settled,
    fun later turns => ?_⟩
  · refine Nat.le_trans (Threads.changes_le_one _ code schedule) ?_
    split
    · exact Nat.le_refl 1
    · exact Nat.zero_le 1
  · have kept : network.roster = (Roster.start programs).run schedule :=
      roster_run (start programs) schedule
    rw [kept]
    exact (Roster.sound_start programs).passed_of_carried schedule carried
  · have resting : (network.run later).roster.threads.Resting := by
      rw [roster_run, Roster.threads_run, Threads.Resting, Threads.tasks_eq_nil]
      · exact List.forall_mem_nil _
      · intro thread reaches
        rw [Threads.length_todo_run] at reaches
        refine Threads.idle_of_turns _ thread later (turns thread ?_)
        have length := congrArg (·.todo.length) same
        rw [Threads.length_todo_run] at length
        simpa [Threads.start] using Nat.lt_of_lt_of_eq reaches length
    exact ⟨resting, (sound.run later).settled resting⟩

/-- Two codes that follow each other and themselves, one of them listed twice in an aggregate that
is linked back to it. The failure of the other one reaches them all. -/
theorem cascades_settle_cyclic :
    let programs : List (List Command) :=
      [[.create "a" .pending, .create "b" .pending, .gather "all" ["a", "a", "b"],
          .forward "a" "b", .forward "b" "a", .forward "a" "a", .forward "all" "a"],
        [.complete "b" (.failed none)]]
    let network := (start programs).run (List.replicate 20 0)
    let later := network.run (List.replicate 60 [0, 1]).flatten
    network.Settled ∧ later.Settled ∧
      [0, 1, 2].map network.codes.outcome = [.pending, .pending, .pending] ∧
      [0, 1, 2].map later.codes.outcome = [.failed none, .failed none, .failed none] := by
  intro programs network later
  obtain ⟨_, _, _, _, settled, goes_on⟩ := cascades_settle programs (List.replicate 20 0)
  refine ⟨settled (by decide +kernel), (goes_on _ (by decide +kernel)).2, by decide +kernel,
    by decide +kernel⟩

end Network

end Metering.Completion
