import Metering.Proofs.Completion.Actions

/-!
Completing calls. A call returns when all that it has set off on its thread is done, which takes a
bounded number of steps however the codes follow each other. Every completing call is made for one
of three reasons: an instruction, the reports of an aggregate, or an outcome that is passed on. A
code that has been told to pass its outcome on does so once for each time it was told.
-/

namespace Metering.Completion

theorem Codes.lt_of_done {codes : Codes} {code : CodeId} (done : codes.outcome code ≠ .pending) :
    code < codes.cells.length := by
  refine Nat.lt_of_not_le fun outside => done ?_
  rw [outcome, cell?_eq_none_iff.mpr outside]
  rfl

namespace Threads

/-- A thread gets through what it has on top of other things to do, however the other threads go
on: every step makes less of what there is to do. -/
theorem returns_of_turns {threads : Threads} {thread : Nat} {front rest : List Task}
    (stack : threads.todo[thread]? = some (front ++ rest)) (schedule : List Nat)
    (turns : threads.weight ≤ schedule.count thread) :
    ∃ before after, schedule = before ++ after ∧
      (threads.run before).todo[thread]? = some rest := by
  induction schedule generalizing threads front with
  | nil =>
    cases front with
    | nil => exact ⟨[], [], rfl, stack⟩
    | cons task front =>
      have busy : threads.next? thread ≠ none := by
        rw [next?, stack]
        exact Option.some_ne_none task
      exact absurd (Nat.lt_of_lt_of_le (weight_step_lt busy) turns) (Nat.not_lt_zero _)
  | cons first later ih =>
    cases front with
    | nil => exact ⟨[], first :: later, rfl, stack⟩
    | cons task front =>
      have goes_on : ∀ front, (threads.step first).todo[thread]? = some (front ++ rest) →
          (threads.step first).weight ≤ later.count thread →
            ∃ before after, first :: later = before ++ after ∧
              (threads.run before).todo[thread]? = some rest := by
        intro front stack turns
        obtain ⟨before, after, rfl, done⟩ := ih stack turns
        exact ⟨first :: before, after, rfl, done⟩
      by_cases same : first = thread
      · subst same
        have next : threads.next? first = some task := by rw [next?, stack]; rfl
        have less := weight_step_lt (next ▸ Option.some_ne_none task)
        rw [List.count_cons_self] at turns
        cases threads.stepped first with
        | idle nothing _ => cases nothing.symm.trans next
        | worked other _ _ _ found after _ =>
          rw [List.cons_append] at stack
          cases stack.symm.trans found
          refine goes_on ((threads.codes.step task).2 ++ front) ?_ (by omega)
          rw [after, List.getElem?_set_self (List.getElem?_eq_some_iff.mp stack).1,
            List.append_assoc]
      · rw [List.count_cons_of_ne same] at turns
        refine goes_on (task :: front) ?_ (Nat.le_trans (threads.weight_step_le first) turns)
        cases threads.stepped first with
        | idle _ unchanged => rw [unchanged, stack]
        | worked _ _ _ _ _ after => rw [after, List.getElem?_set_ne same, stack]

/-- A thread that is left alone gets through it as a single thread does. -/
theorem run_alone {threads : Threads} {thread : Nat} {front rest : List Task}
    (stack : threads.todo[thread]? = some (front ++ rest)) :
    ∃ turns, threads.run (List.replicate turns thread) =
      { codes := threads.codes.drain front, todo := threads.todo.set thread rest } := by
  have inside := (List.getElem?_eq_some_iff.mp stack).1
  refine threads.codes.drain_induct (fun now tasks => ∃ turns,
      threads.run (List.replicate turns thread) =
        { codes := now, todo := threads.todo.set thread (tasks ++ rest) }) ?_ front ⟨0, ?_⟩
  · rintro now task tasks ⟨turns, there⟩
    refine ⟨turns + 1, ?_⟩
    rw [List.replicate_succ', run, List.foldl_append]
    change (threads.run (List.replicate turns thread)).step thread = _
    rw [there, step]
    simp only [List.getElem?_set_self inside, List.cons_append, List.set_set, List.append_assoc]
  · obtain ⟨_, same⟩ := List.getElem?_eq_some_iff.mp stack
    rw [← same, List.set_getElem_self]
    rfl

/-- Each call that a thread has yet to make comes to its end. -/
structure Returning (threads : Threads) : Prop where
  /-- A thread that is left alone works a call off as a single thread does. -/
  alone : ∀ (thread : Nat) task rest, threads.todo[thread]? = some (task :: rest) →
    ∃ turns, threads.run (List.replicate turns thread) =
      { codes := threads.codes.drain [task], todo := threads.todo.set thread rest }
  /-- However the other threads go on, a call returns within the turns that all threads need. -/
  returns : ∀ (thread : Nat) task rest, threads.todo[thread]? = some (task :: rest) →
    ∀ schedule : List Nat, threads.weight ≤ schedule.count thread →
      ∃ before after, schedule = before ++ after ∧
        (threads.run before).todo[thread]? = some rest

theorem returning (threads : Threads) : threads.Returning where
  alone := fun thread task rest stack => by
    change threads.todo[thread]? = some ([task] ++ rest) at stack
    exact run_alone stack
  returns := fun thread task rest stack => by
    change threads.todo[thread]? = some ([task] ++ rest) at stack
    exact returns_of_turns stack

/-- How often the outcome of a code changes while threads take steps. -/
def changes (threads : Threads) (code : CodeId) : List Nat → Nat
  | [] => 0
  | thread :: rest =>
    (if (threads.step thread).codes.outcome code = threads.codes.outcome code then 0 else 1) +
      (threads.step thread).changes code rest

theorem changes_le_one (threads : Threads) (code : CodeId) (schedule : List Nat) :
    threads.changes code schedule ≤ if threads.codes.outcome code = .pending then 1 else 0 := by
  induction schedule generalizing threads with
  | nil => exact Nat.zero_le _
  | cons thread rest ih =>
    have later := ih (threads.step thread)
    rw [changes]
    by_cases pending : threads.codes.outcome code = .pending
    · rw [if_pos pending]
      split
      next same =>
        rw [same, if_pos pending] at later
        omega
      next other =>
        rw [if_neg (pending ▸ other)] at later
        omega
    · have same := threads.outcome_run_of_done [thread] (Codes.lt_of_done pending) pending
      change (threads.step thread).codes.outcome code = _ at same
      rw [same, if_neg pending] at later
      rw [if_pos same, if_neg pending]
      omega

end Threads

/-- Whether a task is a completing call. -/
def Task.isCall : Task → Bool
  | .complete _ _ => true
  | _ => false

/-- Whether a task passes an outcome on. -/
def Task.forwards : Task → Bool
  | .forward _ _ => true
  | _ => false

theorem Callback.not_call {callback : Callback} {task : Task} (member : task ∈ callback.tasks) :
    task.isCall = false := by
  rcases Callback.begins_or_follows member with begins | ⟨command, rfl⟩
  · cases task <;> first | rfl | cases begins
  · rfl

namespace Codes

variable (codes : Codes)

/-- An action is passed to a code by registering it, or when a future is polled. -/
theorem passed_cases {task : Task} {code : CodeId} {callback : Callback}
    (passes : codes.handling task = .passes code callback) :
    task = .register code callback ∨ ∃ future, callback = .wake future := by
  cases task with
  | complete code outcome =>
    simp only [handling] at passes
    split at passes <;> cases passes
  | register code callback =>
    simp only [handling] at passes
    split at passes
    next => cases passes; exact .inl rfl
    next => cases passes
  | follow command =>
    cases command with
    | poll name waker =>
      simp only [handling] at passes
      split at passes
      next => cases passes
      next => cases passes; exact .inr ⟨_, rfl⟩
    | _ => cases passes
  | _ => cases passes

/-- The completing call that a thread makes right after a task. -/
def call? : Task → Option (CodeId × Outcome)
  | .settle child aggregate =>
    match codes.outcome child with
    | .failed reason => some (aggregate, .failed reason)
    | _ => none
  | .discount aggregate =>
    if codes.awaiting aggregate = 1 then some (aggregate, .succeeded) else none
  | .forward source target => some (target, codes.outcome source)
  | .follow (.complete name outcome) => (codes.named? name).map (·, outcome)
  | _ => none

theorem quiet_of_call? {task : Task} (none : codes.call? task = none) :
    ∀ next ∈ (codes.step task).2, next.isCall = false := by
  intro next member
  cases codes.next_of_mem_step task next member with
  | freed _ _ _ _ callback _ task inside => exact Callback.not_call inside
  | late _ _ _ callback task inside => exact Callback.not_call inside
  | failed child aggregate reason failed => simp [call?, failed] at none
  | last aggregate inside one => simp [call?, one] at none
  | forwarded source target => cases none
  | ordered name code outcome named => simp [call?, named] at none
  | _ => rfl

theorem step_of_call? {task : Task} {code : CodeId} {outcome : Outcome}
    (calls : codes.call? task = some (code, outcome)) :
    ∃ rest, (codes.step task).2 = .complete code outcome :: rest ∧
      ∀ next ∈ rest, next.isCall = false := by
  cases task with
  | settle child aggregate =>
    cases outcomes : codes.outcome child with
    | failed reason =>
      simp only [call?, outcomes, Option.some_inj] at calls
      cases calls
      refine ⟨[.discount code], by simp only [step, outcomes], fun next member => ?_⟩
      cases List.mem_singleton.mp member
      rfl
    | _ => simp [call?, outcomes] at calls
  | discount aggregate =>
    simp only [call?] at calls
    split at calls
    next one =>
      cases calls
      have inside : code < codes.cells.length := by
        refine Nat.lt_of_not_le fun outside => ?_
        rw [awaiting, cell?_eq_none_iff.mpr outside] at one
        cases one
      exact ⟨[], codes.step_discount_of_one code inside one, List.forall_mem_nil _⟩
    next => cases calls
  | forward source target =>
    cases calls
    exact ⟨[], rfl, List.forall_mem_nil _⟩
  | follow command =>
    cases command with
    | complete name given =>
      obtain ⟨found, named, same⟩ := Option.map_eq_some_iff.mp calls
      cases same
      exact ⟨[], by simp only [step, follow, named]; rfl, List.forall_mem_nil _⟩
    | _ => cases calls
  | _ => cases calls

end Codes

/-- Whether an action passes an outcome on. -/
def Registration.forwards (held : Registration) : Bool := held.callback.first.forwards

/-- What a thread makes a completing call for. -/
inductive Cause where
  /-- A report that the aggregate has had. -/
  | report (aggregate : CodeId)
  /-- An outcome that is passed on. -/
  | notice (link : Registration)
  | order

def Cause.link? : Cause → Option Registration
  | .notice link => some link
  | _ => none

/-- What a task makes its thread call for, given the actions that the thread has to run. -/
def Task.cause? (mine : List Registration) : Task → Option Cause
  | .settle _ aggregate => some (.report aggregate)
  | .discount aggregate => some (.report aggregate)
  | .forward _ _ => mine.head?.map .notice
  | .follow _ => some .order
  | _ => none

/-- A completing call that has come to a code. -/
structure Call where
  cause : Cause
  code : CodeId
  given : Outcome
  /-- The outcome that the code had when the call came to it. -/
  found : Outcome

/-- Whether a call passes on an outcome for the action of a number. -/
def Call.tells (number : Nat) (call : Call) : Bool :=
  match call.cause with
  | .notice link => link.number = number
  | _ => false

/-- The call that a task is, with the cause that its thread has for one. -/
def Codes.met (codes : Codes) (hand : List Cause) : Task → List Call
  | .complete code given => hand.map fun cause => ⟨cause, code, given, codes.outcome code⟩
  | _ => []

/-- What a thread has a cause for after a task. -/
def Codes.hand (codes : Codes) (mine : List Registration) (task : Task) : List Cause :=
  if (codes.call? task).isSome then (task.cause? mine).toList else []

/-- The aggregate that a task makes. -/
def Codes.gathers (codes : Codes) : Task → List (CodeId × List CodeId)
  | .follow (.gather _ names) => [(codes.cells.length, names.filterMap codes.named?)]
  | _ => []

/-- Threads at work on codes, with the completing calls that have come to codes and the aggregates
that have been made. -/
structure Network where
  roster : Roster
  /-- What each thread is about to make a completing call for, if it is about to make one. -/
  hands : List (List Cause)
  calls : List Call := []
  aggregates : List (CodeId × List CodeId) := []

namespace Network

def start (programs : List (List Command)) : Network :=
  { roster := .start programs, hands := programs.map fun _ => [] }

def codes (network : Network) : Codes := network.roster.threads.codes

def step (network : Network) (thread : Nat) : Network :=
  match network.roster.threads.next? thread with
  | none => network
  | some task =>
    let codes := network.codes
    let mine := (network.roster.waiting[thread]?).getD []
    let hand := (network.hands[thread]?).getD []
    { roster := network.roster.step thread
      hands := network.hands.set thread (codes.hand mine task)
      calls := network.calls ++ codes.met hand task
      aggregates := network.aggregates ++ codes.gathers task }

def run (network : Network) (schedule : List Nat) : Network := schedule.foldl step network

/-- The calls that have passed on an outcome for the action of a number. -/
def told (network : Network) (number : Nat) : List Call := network.calls.filter (·.tells number)

/-- Keeping account of calls changes nothing of what the threads do. -/
theorem roster_step (network : Network) (thread : Nat) :
    (network.step thread).roster = network.roster.step thread := by
  unfold step
  split
  next nothing => simp only [Roster.step, nothing]
  next => rfl

theorem roster_run (network : Network) (schedule : List Nat) :
    (network.run schedule).roster = network.roster.run schedule := by
  induction schedule generalizing network with
  | nil => rfl
  | cons thread rest ih => exact (ih (network.step thread)).trans (by rw [roster_step]; rfl)

end Network

/-- A thread is about to make a completing call just when it has a cause for one, and passes on the
outcome that the source of a link keeps. -/
inductive Codes.Fits (codes : Codes) : List Task → List Cause → Prop where
  | calls (cause : Cause) (code : CodeId) (outcome : Outcome) (rest : List Task)
      (quiet : ∀ task ∈ rest, task.isCall = false)
      (told : ∀ link, cause = .notice link → link.callback = .forward link.code code ∧
        codes.outcome link.code = outcome ∧ outcome ≠ .pending) :
      codes.Fits (.complete code outcome :: rest) [cause]
  | free (stack : List Task) (quiet : ∀ task ∈ stack, task.isCall = false) : codes.Fits stack []

namespace Codes.Fits

variable {codes : Codes} {stack rest : List Task} {hand : List Cause} {task : Task}

theorem step (fits : codes.Fits stack hand) (task : Task) :
    (codes.step task).1.Fits stack hand := by
  cases fits with
  | calls cause code outcome rest quiet told =>
    refine .calls cause code outcome rest quiet fun link is => ?_
    obtain ⟨links, same, final⟩ := told link is
    have done := same.symm ▸ final
    exact ⟨links, (codes.outcome_step_of_done task (lt_of_done done) done).trans same, final⟩
  | free _ quiet => exact .free stack quiet

theorem beneath (fits : codes.Fits (task :: rest) hand) : ∀ other ∈ rest, other.isCall = false := by
  cases fits with
  | calls _ _ _ _ quiet => exact quiet
  | free _ quiet => exact fun other member => quiet other (List.mem_cons_of_mem _ member)

theorem of_call {code : CodeId} {outcome : Outcome}
    (fits : codes.Fits (.complete code outcome :: rest) hand) : ∃ cause, hand = [cause] ∧
      ∀ link, cause = .notice link → link.callback = .forward link.code code ∧
        codes.outcome link.code = outcome ∧ outcome ≠ .pending := by
  cases fits with
  | calls cause _ _ _ _ told => exact ⟨cause, rfl, told⟩
  | free _ quiet => cases quiet _ List.mem_cons_self

theorem of_other (fits : codes.Fits (task :: rest) hand) (other : task.isCall = false) :
    hand = [] := by
  cases fits with
  | calls => cases other
  | free => rfl

theorem of_quiet (fits : codes.Fits stack hand) (quiet : ∀ task ∈ stack, task.isCall = false) :
    hand = [] := by
  cases fits with
  | calls => cases quiet _ List.mem_cons_self
  | free => rfl

end Codes.Fits

namespace Network

/-- A step of a thread that has something to do. -/
structure Turn (network : Network) (thread : Nat) (task : Task) (rest : List Task)
    (mine : List Registration) (hand : List Cause) : Prop where
  next : network.roster.threads.next? thread = some task
  stack : network.roster.threads.todo[thread]? = some (task :: rest)
  own : network.roster.waiting[thread]? = some mine
  holds : network.hands[thread]? = some hand
  work : ∃ others, network.roster.threads.Worked task (rest ++ others)
    (network.step thread).roster.threads
  todo : (network.step thread).roster.threads.todo =
    network.roster.threads.todo.set thread ((network.codes.step task).2 ++ rest)
  hands : (network.step thread).hands =
    network.hands.set thread (network.codes.hand mine task)
  calls : (network.step thread).calls = network.calls ++ network.codes.met hand task
  aggregates : (network.step thread).aggregates =
    network.aggregates ++ network.codes.gathers task

/-- What holds of the account of calls at any time. -/
structure Faithful (network : Network) : Prop where
  roster : network.roster.Sound
  width : network.hands.length = network.roster.threads.todo.length
  fits : ∀ (thread : Nat) stack hand, network.roster.threads.todo[thread]? = some stack →
    network.hands[thread]? = some hand → network.codes.Fits stack hand
  queued : ∀ task ∈ network.roster.threads.tasks, ∀ code source target,
    task = .register code (.forward source target) → code = source
  linked : ∀ link ∈ network.roster.passed, ∀ source target,
    link.callback = .forward source target → link.code = source
  /-- An outcome is passed on once for each action that has begun to do so. -/
  told : ((network.calls.map Call.cause ++ network.hands.flatten).filterMap Cause.link?).Perm
    ((network.roster.ran.map Prod.fst).filter Registration.forwards)
  outcomes : ∀ call ∈ network.calls, call.given ≠ .pending →
    network.codes.outcome call.code = if call.found = .pending then call.given else call.found
  notices : ∀ call ∈ network.calls, ∀ link, call.cause = .notice link →
    link.callback = .forward link.code call.code ∧
      network.codes.outcome link.code = call.given ∧ call.given ≠ .pending

namespace Faithful

variable {network : Network} (faithful : network.Faithful)

include faithful

theorem turn_or_idle (thread : Nat) : network.step thread = network ∨
    ∃ task rest mine hand, network.Turn thread task rest mine hand := by
  cases network.roster.threads.stepped thread with
  | idle nothing _ => exact .inl (by simp only [Network.step, nothing])
  | worked task rest others next stack after work =>
    have reaches := (List.getElem?_eq_some_iff.mp stack).1
    have waits : thread < network.roster.waiting.length := faithful.roster.width ▸ reaches
    have inside : thread < network.hands.length := faithful.width ▸ reaches
    have own := List.getElem?_eq_getElem waits
    have holds := List.getElem?_eq_getElem inside
    have threads : (network.step thread).roster.threads = network.roster.threads.step thread := by
      rw [roster_step, Roster.threads_step]
    refine .inr ⟨task, rest, _, _, next, stack, own, holds, ⟨others, threads ▸ work⟩,
      threads ▸ after, ?_, ?_, ?_⟩
    · simp only [Network.step, next, own, Option.getD_some]
    · simp only [Network.step, next, holds, Option.getD_some]
    · simp only [Network.step, next]

section Turn

variable {thread : Nat} {task : Task} {rest : List Task} {mine : List Registration}
  {hand : List Cause} (turn : network.Turn thread task rest mine hand)

include turn

omit faithful in
theorem codes_turn : (network.step thread).codes = (network.codes.step task).1 := by
  obtain ⟨_, work⟩ := turn.work
  exact work.codes

/-- A task that passes an outcome on is that of the thread's next action. -/
theorem link_of_forward {source target : CodeId} (is : task = .forward source target) :
    ∃ link more, mine = link :: more ∧ link.callback = .forward source target ∧
      link.code = source ∧ network.codes.outcome source ≠ .pending := by
  subst is
  obtain ⟨link, more, rfl, first, _⟩ :=
    faithful.roster.next_action turn.stack turn.own rfl
  have callback : link.callback = .forward source target := by
    cases is : link.callback with
    | forward other sink => rw [is] at first; cases first; rfl
    | _ => rw [is] at first; cases first
  have waits : link ∈ network.roster.waiting.flatten :=
    List.mem_flatten.mpr ⟨_, List.mem_of_getElem? turn.own, List.mem_cons_self⟩
  have passed := faithful.roster.mem_passed
    (List.mem_append_right _ (List.mem_append_left _ waits))
  have same := faithful.linked link passed source target callback
  exact ⟨link, more, rfl, callback, same, same ▸ faithful.roster.freed link waits⟩

theorem fits_turn : (network.codes.step task).1.Fits ((network.codes.step task).2 ++ rest)
    (network.codes.hand mine task) := by
  have below := (faithful.fits thread _ hand turn.stack turn.holds).beneath
  rw [Codes.hand]
  cases called : network.codes.call? task with
  | none =>
    refine .free _ fun other member => ?_
    exact (List.mem_append.mp member).elim (network.codes.quiet_of_call? called other) (below other)
  | some pair =>
    obtain ⟨code, outcome⟩ := pair
    obtain ⟨more, is, quiet⟩ := network.codes.step_of_call? called
    have under : ∀ other ∈ more ++ rest, other.isCall = false := fun other member =>
      (List.mem_append.mp member).elim (quiet other) (below other)
    rw [is, Option.isSome_some, if_pos rfl, List.cons_append]
    cases task with
    | settle child aggregate => exact .calls (.report aggregate) code outcome _ under nofun
    | discount aggregate => exact .calls (.report aggregate) code outcome _ under nofun
    | forward source target =>
      obtain ⟨link, others, rfl, callback, rfl, done⟩ := faithful.link_of_forward turn rfl
      cases called
      refine .calls (.notice link) code _ _ under ?_
      rintro _ ⟨⟩
      exact ⟨callback, rfl, done⟩
    | follow command => exact .calls .order code outcome _ under nofun
    | _ => cases called

/-- An action that passes an outcome on is on record as begun when the thread has it for a cause. -/
theorem ran_turn : ((network.step thread).roster.ran.map Prod.fst).filter Registration.forwards =
    (network.roster.ran.map Prod.fst).filter Registration.forwards ++
      (network.codes.hand mine task).filterMap Cause.link? := by
  obtain ⟨_, _, dealt⟩ := network.roster.dealt turn.next turn.own
  rw [roster_step]
  rcases dealt.ran_step with ⟨same, quiet⟩ | ⟨loud, more⟩
  · have none : (network.codes.hand mine task).filterMap Cause.link? = [] := by
      rw [Codes.hand]
      split
      · cases task <;> first | rfl | cases quiet
      · rfl
    rw [same, none, List.append_nil]
  · obtain ⟨first, others, rfl, begins, _⟩ :=
      faithful.roster.next_action turn.stack turn.own loud
    rw [more, List.map_append, List.filter_append, List.append_cancel_left_eq]
    have forwards : first.forwards = task.forwards := congrArg Task.forwards begins
    change List.filter Registration.forwards [first] = _
    rw [List.filter_singleton, forwards, Codes.hand]
    cases task with
    | forward source target => rfl
    | _ => split <;> rfl

theorem told_turn : (((network.step thread).calls.map Call.cause ++
      (network.step thread).hands.flatten).filterMap Cause.link?).Perm
    (((network.step thread).roster.ran.map Prod.fst).filter Registration.forwards) := by
  obtain ⟨others, before, after⟩ := Threads.perm_flatten network.hands thread hand turn.holds
  have fits := faithful.fits thread _ hand turn.stack turn.holds
  have told := ((before.append_left _).filterMap Cause.link?).symm.trans faithful.told
  rw [turn.hands, turn.calls, faithful.ran_turn turn, List.map_append]
  refine (((after _).append_left _).filterMap _).trans ?_
  cases call : task.isCall with
  | true =>
    obtain ⟨code, given, rfl⟩ : ∃ code given, task = .complete code given := by
      cases task <;> first | exact ⟨_, _, rfl⟩ | cases call
    have cause : (network.codes.met hand (.complete code given)).map Call.cause = hand := by
      rw [Codes.met, List.map_map]
      exact List.map_id hand
    have none : network.codes.hand mine (.complete code given) = [] := rfl
    rw [cause, none, List.nil_append, List.filterMap_nil, List.append_nil, List.append_assoc]
    exact told
  | false =>
    have empty := fits.of_other call
    have none : network.codes.met hand task = [] := by
      cases task <;> first | rfl | cases call
    rw [none, List.map_nil, List.append_nil]
    rw [empty, List.nil_append] at told
    rw [List.filterMap_append, List.filterMap_append] at *
    -- Nothing was in the thread's hand, so what is there now stands for what has begun.
    calc
      List.Perm _ (List.filterMap Cause.link? (network.codes.hand mine task) ++
          (List.filterMap Cause.link? (List.map Call.cause network.calls) ++
            List.filterMap Cause.link? others)) := List.perm_append_comm_assoc ..
      List.Perm _ ((List.filterMap Cause.link? (List.map Call.cause network.calls) ++
          List.filterMap Cause.link? others) ++
            List.filterMap Cause.link? (network.codes.hand mine task)) := List.perm_append_comm
      List.Perm _ _ := told.append_right _

theorem mem_met {call : Call} (member : call ∈ network.codes.met hand task) :
    task = .complete call.code call.given ∧ call.found = network.codes.outcome call.code ∧
      hand = [call.cause] := by
  cases task with
  | complete code given =>
    obtain ⟨cause, rfl, _⟩ := (faithful.fits thread _ hand turn.stack turn.holds).of_call
    cases List.mem_singleton.mp member
    exact ⟨rfl, rfl, rfl⟩
  | _ => cases member

theorem outcomes_turn : ∀ call ∈ (network.step thread).calls, call.given ≠ .pending →
    (network.step thread).codes.outcome call.code =
      if call.found = .pending then call.given else call.found := by
  intro call member final
  rw [turn.calls] at member
  rw [codes_turn turn]
  have stays : ∀ code, network.codes.outcome code ≠ .pending →
      (network.codes.step task).1.outcome code = network.codes.outcome code :=
    fun code done => network.codes.outcome_step_of_done task (Codes.lt_of_done done) done
  rcases List.mem_append.mp member with old | new
  · have before := faithful.outcomes call old final
    rw [stays _ ?_, before]
    rw [before]
    split
    · exact final
    · assumption
  · obtain ⟨rfl, found, _⟩ := faithful.mem_met turn new
    obtain ⟨_, work⟩ := turn.work
    have inside := faithful.roster.closed.tasks _ work.mem call.code List.mem_cons_self
    split
    next pending =>
      exact network.codes.outcome_step_complete inside (found.symm.trans pending) final
    next done => rw [found] at done ⊢; exact stays _ done

theorem notices_turn : ∀ call ∈ (network.step thread).calls, ∀ link, call.cause = .notice link →
    link.callback = .forward link.code call.code ∧
      (network.step thread).codes.outcome link.code = call.given ∧ call.given ≠ .pending := by
  intro call member link cause
  have before : link.callback = .forward link.code call.code ∧
      network.codes.outcome link.code = call.given ∧ call.given ≠ .pending := by
    rw [turn.calls] at member
    rcases List.mem_append.mp member with old | new
    · exact faithful.notices call old link cause
    · obtain ⟨rfl, _, rfl⟩ := faithful.mem_met turn new
      obtain ⟨_, same, told⟩ := (faithful.fits thread _ _ turn.stack turn.holds).of_call
      cases same
      exact told link cause
  obtain ⟨callback, same, final⟩ := before
  have done := same.symm ▸ final
  rw [codes_turn turn, network.codes.outcome_step_of_done task (Codes.lt_of_done done) done]
  exact ⟨callback, same, final⟩

theorem queued_turn : ∀ next ∈ (network.step thread).roster.threads.tasks,
    ∀ code source target, next = .register code (.forward source target) → code = source := by
  rintro next member code source target rfl
  obtain ⟨_, work⟩ := turn.work
  have never : ∀ {callback : Callback}, .register code (.forward source target) ∉ callback.tasks :=
    fun inside => (Callback.begins_or_follows inside).elim nofun nofun
  rcases work.next_or_old member with new | old
  · generalize is : Task.register code (.forward source target) = next at new
    cases network.codes.next_of_mem_step task next new with
    | freed _ _ _ _ callback _ _ inside => exact absurd (is ▸ inside) never
    | late _ _ _ callback _ inside => exact absurd (is ▸ inside) never
    | linked => cases is; rfl
    | _ => cases is
  · exact faithful.queued _ old code source target rfl

theorem linked_turn : ∀ link ∈ (network.step thread).roster.passed, ∀ source target,
    link.callback = .forward source target → link.code = source := by
  intro link member source target callback
  rw [roster_step, network.roster.passed_step turn.next] at member
  rcases List.mem_append.mp member with old | new
  · exact faithful.linked link old source target callback
  · obtain ⟨_, work⟩ := turn.work
    split at new
    next code given passes =>
      cases List.mem_singleton.mp new
      cases callback
      rcases network.codes.passed_cases passes with rfl | ⟨future, is⟩
      · exact faithful.queued _ work.mem _ _ _ rfl
      · cases is
    next => cases new

end Turn

theorem step (thread : Nat) : (network.step thread).Faithful := by
  rcases faithful.turn_or_idle thread with same | ⟨task, rest, mine, hand, turn⟩
  · exact same.symm ▸ faithful
  · have inside := (List.getElem?_eq_some_iff.mp turn.stack).1
    constructor
    case roster => exact roster_step network thread ▸ faithful.roster.step thread
    case width => rw [turn.hands, turn.todo, List.length_set, List.length_set, faithful.width]
    case fits =>
      intro other stack held there holds
      rw [codes_turn turn]
      rw [turn.todo] at there
      rw [turn.hands] at holds
      by_cases same : thread = other
      · subst same
        rw [List.getElem?_set_self inside] at there
        rw [List.getElem?_set_self (faithful.width ▸ inside)] at holds
        cases there
        cases holds
        exact faithful.fits_turn turn
      · rw [List.getElem?_set_ne same] at there holds
        exact (faithful.fits other stack held there holds).step task
    case queued => exact faithful.queued_turn turn
    case linked => exact faithful.linked_turn turn
    case told => exact faithful.told_turn turn
    case outcomes => exact faithful.outcomes_turn turn
    case notices => exact faithful.notices_turn turn

section Resting

variable (resting : network.roster.threads.Resting)

include resting

theorem hands_of_resting : network.hands.flatten = [] := by
  refine List.flatten_eq_nil_iff.mpr fun hand member => ?_
  obtain ⟨thread, holds⟩ := List.getElem?_of_mem member
  have inside : thread < network.roster.threads.todo.length :=
    faithful.width ▸ (List.getElem?_eq_some_iff.mp holds).1
  refine (faithful.fits thread _ hand (List.getElem?_eq_getElem inside) holds).of_quiet ?_
  intro task queued
  obtain ⟨command, rfl⟩ := resting.follow
    (List.mem_flatten.mpr ⟨_, List.getElem_mem inside, queued⟩)
  rfl

/-- At rest, an action that passes an outcome on has done so as often as it has begun. -/
theorem told_of_resting : ((network.calls.map Call.cause).filterMap Cause.link?).Perm
    ((network.roster.ran.map Prod.fst).filter Registration.forwards) := by
  have told := faithful.told
  rwa [faithful.hands_of_resting resting, List.append_nil] at told

theorem told_eq {link : Registration} {source target : CodeId}
    (passed : link ∈ network.roster.passed) (callback : link.callback = .forward source target)
    (done : network.codes.outcome source ≠ .pending) :
    ∃ call, network.told link.number = [call] ∧ call.cause = .notice link := by
  have same := faithful.linked link passed source target callback
  have forwards : link.forwards = true := by rw [Registration.forwards, callback]; rfl
  have told := faithful.told_of_resting resting
  obtain ⟨outcome, ran⟩ := faithful.roster.ran_of_done passed (same ▸ done) fun queued => by
    obtain ⟨command, is⟩ := resting.follow queued
    rw [callback] at is
    cases is
  have counted : network.calls.countP (·.tells link.number) =
      ((network.roster.ran.map Prod.fst).filter Registration.forwards).countP
        fun held => held.number = link.number := by
    rw [← told.countP_eq, List.countP_filterMap, List.countP_map]
    refine List.countP_congr fun call _ => ?_
    cases cause : call.cause <;> simp [Call.tells, Cause.link?, cause]
  -- An action runs at most once, and this one has begun.
  have once : network.calls.countP (·.tells link.number) = 1 := by
    rw [counted]
    refine Nat.le_antisymm ?_ (List.countP_pos_iff.mpr ⟨link, ?_, decide_eq_true rfl⟩)
    · refine Nat.le_trans List.filter_sublist.countP_le ?_
      rw [List.countP_map]
      exact faithful.roster.runs_le_one link.number
    · exact List.mem_filter.mpr ⟨List.mem_map_of_mem ran, forwards⟩
  rw [List.countP_eq_length_filter, List.length_eq_one_iff] at once
  obtain ⟨call, only⟩ := once
  refine ⟨call, only, ?_⟩
  have member : call ∈ network.calls.filter (·.tells link.number) :=
    only ▸ List.mem_singleton_self call
  obtain ⟨there, tells⟩ := List.mem_filter.mp member
  cases cause : call.cause with
  | notice other =>
    have known : other ∈ (network.calls.map Call.cause).filterMap Cause.link? :=
      List.mem_filterMap.mpr ⟨_, List.mem_map_of_mem there, by rw [cause]; rfl⟩
    have began := (List.mem_filter.mp (told.mem_iff.mp known)).1
    have registered := faithful.roster.mem_passed (List.mem_append_left _ began)
    have number : other.number = link.number := by simpa [Call.tells, cause] using tells
    rw [List.inj_on_of_nodup_map faithful.roster.nodup_numbers registered passed number]
  | _ => simp [Call.tells, cause] at tells

end Resting

end Faithful

theorem faithful_start (programs : List (List Command)) : (start programs).Faithful := by
  constructor
  case roster => exact Roster.sound_start programs
  case width => simp [start, Roster.start, Threads.start]
  case fits =>
    intro thread stack hand there holds
    obtain ⟨_, _, rfl⟩ := List.mem_map.mp (List.mem_of_getElem? holds)
    refine .free stack fun task member => ?_
    obtain ⟨command, rfl⟩ := (Threads.resting_start programs).follow
      (List.mem_flatten.mpr ⟨stack, List.mem_of_getElem? there, member⟩)
    rfl
  case queued =>
    rintro task member code source target rfl
    obtain ⟨command, same⟩ := (Threads.resting_start programs).follow member
    cases same
  case linked => exact List.forall_mem_nil _
  case told =>
    have none : (start programs).hands.flatten = [] := by simp [start]
    rw [none]
    exact .refl _
  case outcomes => exact List.forall_mem_nil _
  case notices => exact List.forall_mem_nil _

end Network

end Metering.Completion
