import Metering.Proofs.Completion.Drain

/-!
Outcomes that are passed on. A code that heeds another one completes with the outcome of that one,
if it completes at all; one that heeds none stays pending whatever other codes do. An aggregate
whose first code has failed before fails with the reason of that code, not with one of those listed
behind it.
-/

namespace Metering.Completion

/-- The code that a callback may complete in the end. -/
def Callback.aim? : Callback → Option CodeId
  | .settle _ aggregate => some aggregate
  | .forward _ target => some target
  | _ => none

/-- The code that a task may complete in the end, but for those that an instruction names. -/
def Task.aim? : Task → Option CodeId
  | .complete code _ => some code
  | .register _ callback => callback.aim?
  | .settle _ aggregate => some aggregate
  | .discount aggregate => some aggregate
  | .forward _ target => some target
  | _ => none

theorem Callback.aim?_of_mem_tasks {callback : Callback} {task : Task}
    (member : task ∈ callback.tasks) {target : CodeId} (aims : task.aim? = some target) :
    callback.aim? = some target := by
  cases callback with
  | settle child aggregate =>
    cases List.mem_singleton.mp member
    exact aims
  | forward source sink =>
    cases List.mem_singleton.mp member
    exact aims
  | wake future =>
    cases List.mem_singleton.mp member
    cases aims
  | script label steps =>
    rcases List.mem_cons.mp member with rfl | later
    · cases aims
    · obtain ⟨command, _, rfl⟩ := List.mem_map.mp later
      cases aims

namespace Codes

/-- The tasks that pass the outcome of `source` on to `target`. -/
inductive Passes (codes : Codes) (source target : CodeId) : Task → Prop where
  | registering : codes.Passes source target (.register source (.forward source target))
  | forwarding : codes.Passes source target (.forward source target)
  | completing (outcome : Outcome) (same : outcome = .pending ∨ outcome = codes.outcome source) :
      codes.Passes source target (.complete target outcome)

/-- A code that nothing completes but by passing the outcome of `source` on to it, if there is such
a source. -/
structure Heeds (codes : Codes) (tasks : List Task) (source : Option CodeId) (target : CodeId) :
    Prop where
  present : target < codes.cells.length
  within : ∀ code, source = some code → code < codes.cells.length
  anonymous : codes.Anonymous target
  kept : ∀ other, ∀ callback ∈ codes.callbacks other, callback.aim? = some target →
    ∃ code, source = some code ∧ callback = .forward code target
  queued : ∀ task ∈ tasks, task.aim? = some target →
    ∃ code, source = some code ∧ codes.Passes code target task
  outcome : codes.outcome target ≠ .pending →
    ∃ code, source = some code ∧ codes.outcome target = codes.outcome code

namespace Heeds

variable {codes : Codes} {source : Option CodeId} {target : CodeId}

theorem pending {tasks : List Task} (heeds : codes.Heeds tasks none target) :
    codes.outcome target = .pending := by
  refine Decidable.byContradiction fun done => ?_
  obtain ⟨code, none, _⟩ := heeds.outcome done
  cases none

/-- What passes an outcome on still does so after a step, since outcomes that are there stay. -/
theorem passes_step {task waiting : Task} {code : CodeId} (inside : code < codes.cells.length)
    (passes : codes.Passes code target waiting) :
    (codes.step task).1.Passes code target waiting := by
  cases passes with
  | registering => exact .registering
  | forwarding => exact .forwarding
  | completing outcome same =>
    refine .completing outcome ?_
    by_cases pending : outcome = .pending
    · exact .inl pending
    · have from_source := same.resolve_left pending
      refine .inr (from_source.trans (codes.outcome_step_of_done task inside ?_).symm)
      exact from_source ▸ pending

section Step

variable {task : Task} {rest : List Task} (heeds : codes.Heeds (task :: rest) source target)

include heeds

theorem outcome_step (done : (codes.step task).1.outcome target ≠ .pending) :
    ∃ code, source = some code ∧
      (codes.step task).1.outcome target = (codes.step task).1.outcome code := by
  have still : ∀ code, source = some code → codes.outcome code ≠ .pending →
      (codes.step task).1.outcome code = codes.outcome code := fun code is known =>
    codes.outcome_step_of_done task (heeds.within code is) known
  by_cases pending : codes.outcome target = .pending
  · cases codes.fate task heeds.present with
    | unchanged same _ _ => exact absurd (same.trans pending) done
    | completed outcome is _ final reached _ _ _ =>
      subst is
      obtain ⟨code, is, passes⟩ := heeds.queued _ List.mem_cons_self rfl
      cases passes with
      | completing _ same =>
        have told := same.resolve_left final
        exact ⟨code, is, reached.trans (told.trans (still code is (told ▸ final)).symm)⟩
    | kept _ _ _ same _ _ => exact absurd same done
    | counted _ same _ _ => exact absurd (same.trans pending) done
  · obtain ⟨code, is, same⟩ := heeds.outcome pending
    refine ⟨code, is, ?_⟩
    rw [codes.outcome_step_of_done task heeds.present pending, same,
      still code is (same ▸ pending)]

/-- A task that a step leaves to do passes the outcome on if it may complete the code. -/
theorem next {next : Task} (member : next ∈ (codes.step task).2)
    (aims : next.aim? = some target) :
    ∃ code, source = some code ∧ (codes.step task).1.Passes code target next := by
  have here := heeds.queued task List.mem_cons_self
  cases codes.next_of_mem_step task next member with
  | freed freeing outcome pending final callback kept task freed =>
    obtain ⟨code, is, rfl⟩ := heeds.kept freeing callback kept
      (Callback.aim?_of_mem_tasks freed aims)
    cases List.mem_singleton.mp freed
    exact ⟨code, is, .forwarding⟩
  | late registering inside done callback task freed =>
    obtain ⟨code, is, passes⟩ := here (Callback.aim?_of_mem_tasks freed aims)
    cases passes with
    | registering =>
      cases List.mem_singleton.mp freed
      exact ⟨_, is, .forwarding⟩
  | failed child aggregate reason outcome =>
    obtain ⟨code, _, passes⟩ := here aims
    cases passes
  | counted child aggregate =>
    obtain ⟨code, _, passes⟩ := here aims
    cases passes
  | last aggregate inside one =>
    obtain ⟨code, _, passes⟩ := here aims
    cases passes
  | forwarded passing sink =>
    obtain ⟨code, is, passes⟩ := here aims
    cases passes with
    | forwarding => exact ⟨_, is, .completing _ (.inr rfl)⟩
  | woken future waker => cases aims
  | ordered name code outcome named =>
    cases aims
    exact absurd named (heeds.anonymous name)
  | linked name other passing sink named there =>
    cases aims
    exact absurd there (heeds.anonymous other)
  | scripted name label steps code named => cases aims
  | gathered name children child listed =>
    cases aims
    exact absurd heeds.present (Nat.lt_irrefl _)

theorem step : (codes.step task).1.Heeds ((codes.step task).2 ++ rest) source target := by
  have grows := codes.length_le_step task
  constructor
  case present => exact Nat.lt_of_lt_of_le heeds.present grows
  case within => exact fun code is => Nat.lt_of_lt_of_le (heeds.within code is) grows
  case anonymous => exact heeds.anonymous.step heeds.present task
  case kept =>
    intro other callback member aims
    rcases codes.mem_callbacks_step task other callback member with before | rfl | ⟨future, rfl⟩
    · exact heeds.kept other callback before aims
    · obtain ⟨code, is, passes⟩ := heeds.queued _ List.mem_cons_self aims
      cases passes
      exact ⟨_, is, rfl⟩
    · cases aims
  case queued =>
    intro waiting member aims
    rcases List.mem_append.mp member with new | old
    · exact heeds.next new aims
    · obtain ⟨code, is, passes⟩ := heeds.queued waiting (List.mem_cons_of_mem _ old) aims
      exact ⟨code, is, passes_step (heeds.within code is) passes⟩
  case outcome => exact heeds.outcome_step

end Step

/-- Tasks that have nothing to pass on to a code leave it to its source. -/
theorem drain (heeds : codes.Heeds [] source target) {tasks : List Task}
    (passes : ∀ task ∈ tasks, task.aim? = some target →
      ∃ code, source = some code ∧ codes.Passes code target task) :
    (codes.drain tasks).Heeds [] source target :=
  codes.drain_induct (fun now tasks => now.Heeds tasks source target)
    (fun _ _ _ before => before.step) tasks { heeds with queued := passes }

theorem push {next : Codes} {cell : Cell} (heeds : codes.Heeds [] source target)
    (fresh : cell.callbacks = []) (cells : next.cells = codes.cells ++ [cell])
    (names : next.names = codes.names) : next.Heeds [] source target := by
  have longer := length_push cells
  constructor
  case present => exact longer ▸ Nat.lt_succ_of_lt heeds.present
  case within => exact fun code is => longer ▸ Nat.lt_succ_of_lt (heeds.within code is)
  case anonymous => exact fun name named => heeds.anonymous name (by rwa [named?, names] at named)
  case kept =>
    intro other callback member
    rw [callbacks_push fresh cells] at member
    exact heeds.kept other callback member
  case queued => exact List.forall_mem_nil _
  case outcome =>
    intro done
    rw [outcome_push cells heeds.present] at done ⊢
    obtain ⟨code, is, same⟩ := heeds.outcome done
    exact ⟨code, is, same.trans (outcome_push cells (heeds.within code is)).symm⟩

theorem create (heeds : codes.Heeds [] source target) (outcome : Outcome) :
    (codes.create outcome).1.Heeds [] source target :=
  heeds.push rfl rfl rfl

theorem settle (heeds : codes.Heeds [] source target) {code : CodeId} (other : code ≠ target)
    (outcome : Outcome) : (codes.settle code outcome).Heeds [] source target :=
  heeds.drain fun task member aims => by
    cases List.mem_singleton.mp member
    exact absurd (Option.some.inj aims) other

theorem allOf (heeds : codes.Heeds [] source target) (children : List CodeId) :
    (codes.allOf children).1.Heeds [] source target := by
  have pushed : (codes.gather children).1.Heeds [] source target :=
    heeds.push rfl (codes.gather_cells children) rfl
  refine pushed.drain fun task member aims => ?_
  obtain ⟨child, _, rfl⟩ := List.mem_map.mp member
  cases aims
  exact absurd heeds.present (Nat.lt_irrefl _)

theorem forwardTo (heeds : codes.Heeds [] source target) (passing : CodeId) {sink : CodeId}
    (other : sink ≠ target) : (codes.forwardTo passing sink).Heeds [] source target :=
  heeds.drain fun task member aims => by
    cases List.mem_singleton.mp member
    exact absurd (Option.some.inj aims) other

/-- A code that heeded none heeds the one that is forwarded to it. -/
theorem forwarded (heeds : codes.Heeds [] none target) {passing : CodeId}
    (inside : passing < codes.cells.length) :
    (codes.forwardTo passing target).Heeds [] (some passing) target := by
  have begun : codes.Heeds [] (some passing) target := { heeds with
    within := fun code is => Option.some.inj is ▸ inside
    kept := fun other callback member aims => by
      obtain ⟨code, is, _⟩ := heeds.kept other callback member aims
      cases is
    queued := List.forall_mem_nil _
    outcome := fun done => absurd heeds.pending done }
  refine begun.drain fun task member _ => ?_
  cases List.mem_singleton.mp member
  exact ⟨passing, rfl, .registering⟩

end Heeds

/-- A code that is passed on has the same outcome as its source. -/
theorem Links.outcome_eq {codes : Codes} {source target : CodeId}
    (links : codes.Links [] source target) (closed : codes.Closed)
    (heeds : codes.Heeds [] (some source) target) :
    codes.outcome target = codes.outcome source := by
  by_cases pending : codes.outcome target = .pending
  · refine pending.trans (Eq.symm (Decidable.byContradiction fun done => ?_))
    exact links.target_done closed done pending
  · obtain ⟨code, is, same⟩ := heeds.outcome pending
    cases is
    exact same

/-- A new code heeds none. -/
theorem Closed.heeds_create {codes : Codes} (closed : codes.Closed) :
    (codes.create .pending).1.Heeds [] none codes.cells.length := by
  have untouched := closed.untouched_create
  constructor
  case present => exact untouched.present
  case within => exact nofun
  case anonymous => exact untouched.anonymous
  case kept =>
    intro other callback member aims
    refine absurd ?_ (untouched.kept other callback member)
    cases callback with
    | settle child aggregate =>
      cases aims
      exact List.mem_cons_of_mem _ List.mem_cons_self
    | forward source sink =>
      cases aims
      exact List.mem_cons_of_mem _ List.mem_cons_self
    | wake future => cases aims
    | script label steps => cases aims
  case queued => exact List.forall_mem_nil _
  case outcome => exact fun done => absurd untouched.pending done

/-- The tasks of an aggregate about codes that have not failed. -/
inductive Harmless (codes : Codes) (aggregate : CodeId) : Task → Prop where
  | registering (child : CodeId) (inside : child < codes.cells.length)
      (unfailed : ∀ reason, codes.outcome child ≠ .failed reason) :
      codes.Harmless aggregate (.register child (.settle child aggregate))
  | settling (child : CodeId) (inside : child < codes.cells.length)
      (unfailed : ∀ reason, codes.outcome child ≠ .failed reason) :
      codes.Harmless aggregate (.settle child aggregate)
  | discounting : codes.Harmless aggregate (.discount aggregate)

namespace Harmless

variable {codes : Codes} {aggregate : CodeId} {task : Task}
  (harmless : codes.Harmless aggregate task)

include harmless

theorem outcome_step {code : CodeId} (inside : code < codes.cells.length) :
    (codes.step task).1.outcome code = codes.outcome code := by
  cases codes.fate task inside with
  | unchanged same _ _ => exact same
  | completed outcome is =>
    subst is
    cases harmless
  | kept _ _ pending same _ _ => exact same.trans pending.symm
  | counted _ same _ _ => exact same

/-- The tasks about other codes stay harmless. -/
theorem still {waiting : Task} (other : codes.Harmless aggregate waiting) :
    (codes.step task).1.Harmless aggregate waiting := by
  have grows := codes.length_le_step task
  cases other with
  | registering child inside unfailed =>
    exact .registering child (Nat.lt_of_lt_of_le inside grows)
      (harmless.outcome_step inside ▸ unfailed)
  | settling child inside unfailed =>
    exact .settling child (Nat.lt_of_lt_of_le inside grows)
      (harmless.outcome_step inside ▸ unfailed)
  | discounting => exact .discounting

/-- A step leaves harmless tasks, and each report that has been counted is one task less. -/
theorem next (present : aggregate < codes.cells.length) (enough : 1 < codes.awaiting aggregate) :
    (∀ next ∈ (codes.step task).2, (codes.step task).1.Harmless aggregate next) ∧
      (codes.step task).2.length + codes.awaiting aggregate ≤
        (codes.step task).1.awaiting aggregate + 1 := by
  have counted := codes.awaiting_step aggregate task present
  cases harmless with
  | registering child inside unfailed =>
    have same : (codes.step (.register child (.settle child aggregate))).1.awaiting aggregate =
        codes.awaiting aggregate := counted
    by_cases pending : codes.outcome child = .pending
    · obtain ⟨cell, found⟩ := cell?_of_lt inside
      have nothing : (codes.step (.register child (.settle child aggregate))).2 = [] := by
        rw [codes.step_register_of_pending found (outcome_eq found ▸ pending)]
      rw [nothing, same]
      exact ⟨nofun, by rw [List.length_nil]; omega⟩
    · rw [step_register_of_done inside pending]
      refine ⟨fun next member => ?_, Nat.le_of_eq (Nat.add_comm 1 _)⟩
      exact List.mem_singleton.mp member ▸ .settling child inside unfailed
  | settling child inside unfailed =>
    have told : codes.step (.settle child aggregate) = (codes, [.discount aggregate]) := by
      simp only [Codes.step]
    rw [told]
    refine ⟨fun next member => ?_, Nat.le_of_eq (Nat.add_comm 1 _)⟩
    rw [List.mem_singleton.mp member]
    exact .discounting
  | discounting =>
    have fewer : (codes.step (.discount aggregate)).1.awaiting aggregate =
        codes.awaiting aggregate - 1 := by
      simpa [Task.counts] using counted
    rw [codes.step_discount_of_ne aggregate (Nat.ne_of_gt enough), fewer]
    exact ⟨nofun, by rw [List.length_nil]; omega⟩

end Harmless

/-- How far the registration of a code that has failed has come in making its aggregate fail. The
codes listed before it have not failed, and more reports are awaited than those about them. -/
inductive Blames (codes : Codes) (first aggregate : CodeId) (reason : Option Failure) :
    List Task → Prop where
  | registering (early below : List Task)
      (harmless : ∀ task ∈ early, codes.Harmless aggregate task)
      (enough : early.length < codes.awaiting aggregate)
      (pending : codes.outcome aggregate = .pending) :
      codes.Blames first aggregate reason
        (early ++ .register first (.settle first aggregate) :: below)
  | settling (below : List Task) (pending : codes.outcome aggregate = .pending) :
      codes.Blames first aggregate reason (.settle first aggregate :: below)
  | completing (below : List Task) (pending : codes.outcome aggregate = .pending) :
      codes.Blames first aggregate reason (.complete aggregate (.failed reason) :: below)
  | failed (tasks : List Task) (failed : codes.outcome aggregate = .failed reason) :
      codes.Blames first aggregate reason tasks

theorem Blames.step {codes : Codes} {first aggregate : CodeId} {reason : Option Failure}
    {tasks rest : List Task} {task : Task} (blames : codes.Blames first aggregate reason tasks)
    (queue : tasks = task :: rest) (inside : first < codes.cells.length)
    (present : aggregate < codes.cells.length) (failed : codes.outcome first = .failed reason) :
    (codes.step task).1.Blames first aggregate reason ((codes.step task).2 ++ rest) := by
  cases blames with
  | registering early below harmless enough pending =>
    cases early with
    | nil =>
      cases queue
      rw [step_register_of_done inside (failed ▸ nofun)]
      exact .settling _ pending
    | cons _ later =>
      cases queue
      have here := harmless task List.mem_cons_self
      rw [List.length_cons] at enough
      obtain ⟨made, fewer⟩ := here.next present (by omega)
      have queue : (codes.step task).2 ++ later.append (.register first
          (.settle first aggregate) :: below) = ((codes.step task).2 ++ later) ++
            .register first (.settle first aggregate) :: below := (List.append_assoc ..).symm
      rw [queue]
      refine .registering _ below (fun waiting member => ?_) ?_
        ((here.outcome_step present).trans pending)
      · exact (List.mem_append.mp member).elim (made waiting) fun old =>
          here.still (harmless waiting (List.mem_cons_of_mem _ old))
      · rw [List.length_append]
        omega
  | settling below pending =>
    cases queue
    simp only [Codes.step, failed]
    exact .completing _ pending
  | completing below pending =>
    cases queue
    exact .failed _ (codes.outcome_step_complete present pending nofun)
  | failed _ done =>
    exact .failed _ ((codes.outcome_step_of_done task present (done ▸ nofun)).trans done)

section Gather

variable {codes : Codes} (early : List CodeId) {first : CodeId} (rest : List CodeId)
  {reason : Option Failure}
  (unfailed : ∀ child ∈ early, child < codes.cells.length ∧
    ∀ reason, codes.outcome child ≠ .failed reason)

include unfailed

/-- An aggregate is about to heed the first one listed of its codes that had failed. -/
theorem blames_gather : (codes.gather (early ++ first :: rest)).1.Blames first codes.cells.length
    reason (codes.gather (early ++ first :: rest)).2.2 := by
  have cells := codes.gather_cells (early ++ first :: rest)
  have longer := length_push cells
  have made : (codes.gather (early ++ first :: rest)).1.cell? codes.cells.length =
      some (.gathering (early ++ first :: rest)) := by
    simp [cell?, cells]
  have harmless : ∀ task ∈ early.map fun child =>
      Task.register child (.settle child codes.cells.length),
      (codes.gather (early ++ first :: rest)).1.Harmless codes.cells.length task := by
    intro task member
    obtain ⟨child, listed, rfl⟩ := List.mem_map.mp member
    obtain ⟨within, fine⟩ := unfailed child listed
    exact .registering child (longer ▸ Nat.lt_succ_of_lt within)
      (outcome_push cells within ▸ fine)
  have queue : (codes.gather (early ++ first :: rest)).2.2 =
      (early.map fun child => Task.register child (.settle child codes.cells.length)) ++
        .register first (.settle first codes.cells.length) ::
          rest.map fun child => .register child (.settle child codes.cells.length) :=
    List.map_append
  rw [queue]
  refine .registering _ _ harmless ?_ ?_
  · rw [awaiting_eq made, List.length_map]
    have more : early.length < (early ++ first :: rest).length := by
      rw [List.length_append, List.length_cons]
      omega
    exact more
  · rw [outcome_eq made]
    simp [Cell.gathering]

/-- An aggregate fails with the reason of the first one listed of its codes that had failed. -/
theorem outcome_allOf_of_failed (inside : first < codes.cells.length)
    (failed : codes.outcome first = .failed reason) :
    (codes.allOf (early ++ first :: rest)).1.outcome codes.cells.length = .failed reason := by
  have cells := codes.gather_cells (early ++ first :: rest)
  have longer := length_push cells
  have kept := (codes.gather (early ++ first :: rest)).1.drain_induct
    (fun now tasks => now.Blames first codes.cells.length reason tasks ∧
      first < now.cells.length ∧ codes.cells.length < now.cells.length ∧
      now.outcome first = .failed reason)
    (fun now task below before => by
      obtain ⟨blames, within, present, still⟩ := before
      have grows := now.length_le_step task
      exact ⟨blames.step rfl within present still, Nat.lt_of_lt_of_le within grows,
        Nat.lt_of_lt_of_le present grows,
        (now.outcome_step_of_done task within (still ▸ nofun)).trans still⟩)
    (codes.gather (early ++ first :: rest)).2.2
    ⟨blames_gather early rest unfailed, longer ▸ Nat.lt_succ_of_lt inside,
      longer ▸ Nat.lt_succ_self _, (outcome_push cells inside).trans failed⟩
  generalize none : ([] : List Task) = tasks at kept
  cases kept.1 with
  | failed _ done => exact done
  | registering early => cases early <;> cases none
  | settling => cases none
  | completing => cases none

end Gather

end Codes

end Metering.Completion
