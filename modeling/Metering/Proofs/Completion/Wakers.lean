import Metering.Proofs.Completion.Futures

/-!
Wakers. Of all the wakers that polls have left with a future the last one is woken, once, when its
code has completed and the actions of the code have run, whichever way polls and completing calls
interleave. The others are never woken by that future.
-/

namespace Metering.Completion

/-- The wakers that stand for a future in a list. -/
def wakersOf (future : FutureId) (pairs : List (FutureId × String)) : List String :=
  (pairs.filter fun pair => pair.1 = future).map Prod.snd

section WakersOf

variable {future : FutureId} (pairs : List (FutureId × String))

theorem wakersOf_concat (waker : String) :
    wakersOf future (pairs ++ [(future, waker)]) = wakersOf future pairs ++ [waker] := by
  simp [wakersOf]

theorem wakersOf_append_of_ne {more : List (FutureId × String)}
    (apart : ∀ pair ∈ more, pair.1 ≠ future) :
    wakersOf future (pairs ++ more) = wakersOf future pairs := by
  have none : more.filter (fun pair => decide (pair.1 = future)) = [] :=
    List.filter_eq_nil_iff.mpr fun pair member => by simpa using apart pair member
  rw [wakersOf, List.filter_append, none, List.append_nil, wakersOf]

end WakersOf

/-- Threads at work on codes, with the wakers left with futures, taken from them and woken. -/
structure Watch where
  roster : Roster
  /-- The wakers left by polls that found no result, the first one first. -/
  left : List (FutureId × String) := []
  /-- The waker that each thread has taken from a future and not woken yet. -/
  taken : Nat → Option (FutureId × String) := fun _ => none
  woken : List (FutureId × String) := []

namespace Watch

def start (programs : List (List Command)) : Watch := { roster := .start programs }

def step (watch : Watch) (thread : Nat) : Watch :=
  match watch.roster.threads.next? thread with
  | none => watch
  | some task =>
    let codes := watch.roster.threads.codes
    { roster := watch.roster.step thread
      left := watch.left ++ (codes.leaves? task).toList
      taken := fun other => if other = thread then codes.takes? task else watch.taken other
      woken := watch.woken ++ (task.waker?.bind fun waker =>
        (watch.taken thread).map fun pair => (pair.1, waker)).toList }

def run (watch : Watch) (schedule : List Nat) : Watch := schedule.foldl step watch

def codes (watch : Watch) : Codes := watch.roster.threads.codes

/-- The waker of the last poll of a future, among those that found no result. -/
def latest? (watch : Watch) (future : FutureId) : Option String :=
  (wakersOf future watch.left).getLast?

/-- The wakers that a future has woken. -/
def wokenBy (watch : Watch) (future : FutureId) : List String := wakersOf future watch.woken

/-- How often a future has registered with a code. -/
def registrations (watch : Watch) (future : FutureId) : Nat :=
  watch.roster.passed.countP fun held => held.callback.wakes future

/-- How often the action of a future has run. -/
def takings (watch : Watch) (future : FutureId) : Nat :=
  watch.roster.ran.countP fun entry => entry.1.callback.wakes future

/-- Whether the actions of a future have all run. -/
def Settled (watch : Watch) (future : FutureId) : Prop :=
  (∀ task ∈ watch.roster.threads.tasks, task.takes future = false) ∧
    ∀ thread waker, watch.taken thread ≠ some (future, waker)

/-- Keeping watch changes nothing of what the threads do. -/
theorem roster_step (watch : Watch) (thread : Nat) :
    (watch.step thread).roster = watch.roster.step thread := by
  unfold step
  split
  next nothing => simp only [Roster.step, nothing]
  next => rfl

theorem roster_run (watch : Watch) (schedule : List Nat) :
    (watch.run schedule).roster = watch.roster.run schedule := by
  induction schedule generalizing watch with
  | nil => rfl
  | cons thread rest ih => exact (ih (watch.step thread)).trans (by rw [roster_step]; rfl)

/-- What a thread has taken from a future is what it wakes next. -/
inductive Hand : Option (FutureId × String) → List Task → Prop where
  | holds (future : FutureId) (waker : String) (rest : List Task)
      (quiet : ∀ task ∈ rest, task.waker? = none) :
      Hand (some (future, waker)) (.wake waker :: rest)
  | free (stack : List Task) (quiet : ∀ task ∈ stack, task.waker? = none) : Hand none stack

/-- How a future that is there stands to what has happened around it. -/
inductive Stage (watch : Watch) (future : FutureId) (held : Future) : Prop where
  | waits (takings : watch.takings future = 0) (waker : held.waker = watch.latest? future)
      (woken : watch.wokenBy future = [])
      (idle : ∀ thread waker, watch.taken thread ≠ some (future, waker))
  | taken (thread : Nat) (waker : String) (takings : watch.takings future = 1)
      (done : watch.codes.outcome held.code ≠ .pending)
      (latest : watch.latest? future = some waker) (woken : watch.wokenBy future = [])
      (taken : ∀ other given, watch.taken other = some (future, given) ↔
        other = thread ∧ given = waker)
  | woken (waker : String) (takings : watch.takings future = 1)
      (done : watch.codes.outcome held.code ≠ .pending)
      (latest : watch.latest? future = some waker) (woken : watch.wokenBy future = [waker])
      (idle : ∀ thread waker, watch.taken thread ≠ some (future, waker))

/-- What a step is for a future that was there. -/
inductive Happens (watch after : Watch) (future : FutureId) (held later : Future) : Prop where
  | rests (same : later = held)
      (registrations : after.registrations future = watch.registrations future)
      (takings : after.takings future = watch.takings future)
      (latest : after.latest? future = watch.latest? future)
      (woken : after.wokenBy future = watch.wokenBy future)
      (taken : ∀ other given, after.taken other = some (future, given) ↔
        watch.taken other = some (future, given))
  | polled (waker : String) (pending : watch.codes.outcome held.code = .pending)
      (same : later = { held with registered := true, waker := some waker })
      (registrations : after.registrations future =
        watch.registrations future + if held.registered then 0 else 1)
      (takings : after.takings future = watch.takings future)
      (latest : after.latest? future = some waker)
      (woken : after.wokenBy future = watch.wokenBy future)
      (taken : ∀ other given, after.taken other = some (future, given) ↔
        watch.taken other = some (future, given))
  | taken (thread : Nat) (same : later = { held with waker := none })
      (registrations : after.registrations future = watch.registrations future)
      (takings : after.takings future = watch.takings future + 1)
      (latest : after.latest? future = watch.latest? future)
      (woken : after.wokenBy future = watch.wokenBy future)
      (taken : ∀ other given, after.taken other = some (future, given) ↔
        (other = thread ∧ held.waker = some given) ∨
          (other ≠ thread ∧ watch.taken other = some (future, given)))
  | woken (thread : Nat) (waker : String) (before : watch.taken thread = some (future, waker))
      (same : later = held)
      (registrations : after.registrations future = watch.registrations future)
      (takings : after.takings future = watch.takings future)
      (latest : after.latest? future = watch.latest? future)
      (woken : after.wokenBy future = watch.wokenBy future ++ [waker])
      (taken : ∀ other given, after.taken other = some (future, given) ↔
        other ≠ thread ∧ watch.taken other = some (future, given))

/-- A future is still there after a step, and the step is one of few things for it. -/
def GoesOn (watch after : Watch) (future : FutureId) (held : Future) : Prop :=
  ∃ later, after.codes.futures[future]? = some later ∧ later.code = held.code ∧
    watch.Happens after future held later

section Stage

variable {watch after : Watch} {future : FutureId} {held later : Future}
  (stage : watch.Stage future held) (happens : watch.Happens after future held later)
  (done : watch.codes.outcome held.code ≠ .pending → after.codes.outcome held.code ≠ .pending)
  (single : after.takings future ≤ 1)
  (begun : after.takings future = 1 →
    after.codes.outcome held.code ≠ .pending ∧ ∃ waker, after.latest? future = some waker)

include stage happens done single begun

/-- The stages of a future follow each other. -/
theorem Stage.step : after.Stage future later := by
  -- Once the code is done no poll leaves a waker, and the action runs once, so stages only go on.
  cases stage with
  | waits none waker quiet idle =>
    cases happens with
    | rests same _ takings latest woken taken =>
      subst same
      exact .waits (takings.trans none) (waker.trans latest.symm) (woken.trans quiet)
        fun thread given holds => idle thread given ((taken thread given).mp holds)
    | polled waker _ same _ takings latest woken taken =>
      subst same
      exact .waits (takings.trans none) latest.symm (woken.trans quiet)
        fun thread given holds => idle thread given ((taken thread given).mp holds)
    | taken thread same _ takings latest woken taken =>
      subst same
      have one : after.takings future = 1 := by rw [takings, none]
      obtain ⟨finished, last, left⟩ := begun one
      refine .taken thread last one finished left (woken.trans quiet) fun other given => ?_
      rw [taken, waker, ← latest, left, Option.some_inj, eq_comm (a := last)]
      refine or_iff_left_of_imp fun holds => ?_
      exact absurd holds.2 (idle other given)
    | woken thread waker before => exact absurd before (idle thread waker)
  | taken thread waker one finished last quiet holds =>
    cases happens with
    | rests same _ takings latest woken taken =>
      subst same
      exact .taken thread waker (takings.trans one) (done finished) (latest.trans last)
        (woken.trans quiet) fun other given => (taken other given).trans (holds other given)
    | polled _ pending => exact absurd pending finished
    | taken _ _ _ takings =>
      rw [takings, one] at single
      cases Nat.not_succ_le_self 1 single
    | woken other given before same _ takings latest woken taken =>
      subst same
      obtain ⟨rfl, rfl⟩ := (holds other given).mp before
      refine .woken given (takings.trans one) (done finished) (latest.trans last)
        (by rw [woken, quiet, List.nil_append]) fun thread waker still => ?_
      obtain ⟨apart, held⟩ := (taken thread waker).mp still
      exact apart ((holds thread waker).mp held).1
  | woken waker one finished last quiet idle =>
    cases happens with
    | rests same _ takings latest woken taken =>
      subst same
      exact .woken waker (takings.trans one) (done finished) (latest.trans last)
        (woken.trans quiet) fun thread given holds =>
          idle thread given ((taken thread given).mp holds)
    | polled _ pending => exact absurd pending finished
    | taken _ _ _ takings =>
      rw [takings, one] at single
      cases Nat.not_succ_le_self 1 single
    | woken thread given before => exact absurd before (idle thread given)

end Stage

/-- Nothing has happened around a future. -/
structure Unused (watch : Watch) (future : FutureId) : Prop where
  registrations : watch.registrations future = 0
  takings : watch.takings future = 0
  latest : watch.latest? future = none
  woken : watch.wokenBy future = []
  idle : ∀ thread waker, watch.taken thread ≠ some (future, waker)

/-- What holds of a watch at any time, but for the stages of futures. -/
structure Tidy (watch : Watch) : Prop where
  roster : watch.roster.Sound
  plain : ∀ task ∈ watch.roster.threads.tasks, ∀ code future, task ≠ .register code (.wake future)
  hands : ∀ (thread : Nat) stack, watch.roster.threads.todo[thread]? = some stack →
    Hand (watch.taken thread) stack
  resting : ∀ thread : Nat, watch.roster.threads.todo[thread]? = none →
    watch.taken thread = none
  within : ∀ (future : Nat) held, watch.codes.futures[future]? = some held →
    held.code < watch.codes.cells.length
  passed : ∀ entry ∈ watch.roster.passed, ∀ future : Nat, entry.callback = .wake future →
    ∃ held, watch.codes.futures[future]? = some held ∧ held.code = entry.code
  left_known : ∀ pair ∈ watch.left, pair.1 < watch.codes.futures.length
  woken_known : ∀ pair ∈ watch.woken, pair.1 < watch.codes.futures.length
  taken_known : ∀ thread pair, watch.taken thread = some pair →
    pair.1 < watch.codes.futures.length
  registered : ∀ (future : Nat) held, watch.codes.futures[future]? = some held →
    watch.registrations future = (if held.registered then 1 else 0) ∧
      (watch.latest? future).isSome = held.registered
  counted : ∀ waker, (watch.codes.wakes.get? waker).getD 0 =
    watch.woken.countP fun pair => pair.2 = waker

theorem tidy_start (programs : List (List Command)) : (start programs).Tidy := by
  constructor
  case roster => exact Roster.sound_start programs
  case plain =>
    rintro task member code future rfl
    obtain ⟨command, same⟩ := (Threads.resting_start programs).follow member
    cases same
  case hands =>
    intro thread stack found
    refine .free stack fun task member => ?_
    obtain ⟨command, rfl⟩ := (Threads.resting_start programs).follow
      (List.mem_flatten.mpr ⟨stack, List.mem_of_getElem? found, member⟩)
    rfl
  case resting => exact fun _ _ => rfl
  case within => exact nofun
  case passed => exact nofun
  case left_known => exact nofun
  case woken_known => exact nofun
  case taken_known => exact nofun
  case registered => exact nofun
  case counted => exact fun _ => rfl

section Tidy

variable {watch : Watch} (tidy : watch.Tidy)

include tidy

/-- No action runs that has not been passed to a code. -/
theorem Tidy.takings_le (future : FutureId) :
    watch.takings future ≤ watch.registrations future := by
  have everywhere := tidy.roster.placed.countP_eq fun held => held.callback.wakes future
  rw [List.countP_append, List.countP_map] at everywhere
  change watch.takings future + _ = watch.registrations future at everywhere
  omega

theorem Tidy.registrations_le_one (future : FutureId) : watch.registrations future ≤ 1 := by
  cases found : watch.codes.futures[future]? with
  | none =>
    refine Nat.le_trans (Nat.le_of_eq (List.countP_eq_zero.mpr fun entry member wakes => ?_))
      (Nat.zero_le 1)
    obtain ⟨held, there, _⟩ := tidy.passed entry member future (Callback.wakes_iff.mp wakes)
    cases found.symm.trans there
  | some held =>
    rw [(tidy.registered future held found).1]
    split
    · exact Nat.le_refl 1
    · exact Nat.zero_le 1

/-- When the action of a future runs, its code is done and a waker has been left. -/
theorem Tidy.begun {future : FutureId} {held : Future}
    (found : watch.codes.futures[future]? = some held) (one : watch.takings future = 1) :
    watch.codes.outcome held.code ≠ .pending ∧ ∃ waker, watch.latest? future = some waker := by
  constructor
  · obtain ⟨⟨entry, outcome⟩, ran, wakes⟩ :=
      List.countP_pos_iff.mp (Nat.lt_of_lt_of_eq Nat.one_pos one.symm)
    obtain ⟨final, same⟩ := tidy.roster.seen entry outcome ran
    have passed := tidy.roster.mem_passed (List.mem_append_left _ (List.mem_map_of_mem ran))
    obtain ⟨other, there, code⟩ := tidy.passed entry passed future (Callback.wakes_iff.mp wakes)
    cases found.symm.trans there
    rw [code]
    exact same.symm ▸ final
  · obtain ⟨registrations, left⟩ := tidy.registered future held found
    have some := tidy.takings_le future
    rw [one, registrations] at some
    refine Option.isSome_iff_exists.mp (left.trans ?_)
    by_contra unregistered
    rw [if_neg unregistered] at some
    cases some

end Tidy

section Work

variable {watch : Watch} {thread : Nat} {task : Task}
  (next : watch.roster.threads.next? thread = some task)

include next

theorem codes_step : (watch.step thread).codes = (watch.codes.step task).1 := by
  rw [codes, roster_step, Roster.threads_step]
  cases watch.roster.threads.stepped thread with
  | idle nothing _ => cases nothing.symm.trans next
  | worked other _ _ there _ _ work =>
    cases next.symm.trans there
    exact work.codes

theorem left_step :
    (watch.step thread).left = watch.left ++ (watch.codes.leaves? task).toList := by
  simp only [step, next, codes]

theorem taken_step (other : Nat) : (watch.step thread).taken other =
    if other = thread then watch.codes.takes? task else watch.taken other := by
  simp only [step, next, codes]

theorem woken_step : (watch.step thread).woken = watch.woken ++
    (task.waker?.bind fun waker =>
      (watch.taken thread).map fun pair => (pair.1, waker)).toList := by
  simp only [step, next]

theorem passed_step : (watch.step thread).roster.passed = watch.roster.passed ++
    match watch.codes.handling task with
    | .passes code callback => [⟨watch.roster.passed.length, code, callback⟩]
    | _ => [] := by
  rw [roster_step]
  exact watch.roster.passed_step next

theorem registrations_of_passes {code : CodeId} {future : FutureId}
    (passes : watch.codes.handling task = .passes code (.wake future)) :
    (watch.step thread).registrations future = watch.registrations future + 1 := by
  rw [registrations, passed_step next, passes, List.countP_append, registrations]
  simp [Callback.wakes]

theorem registrations_of_apart {future : FutureId}
    (apart : (watch.codes.handling task).future? ≠ some future) :
    (watch.step thread).registrations future = watch.registrations future := by
  rw [registrations, passed_step next, List.countP_append, registrations, Nat.add_eq_left]
  refine List.countP_eq_zero.mpr fun entry member wakes => ?_
  split at member
  next code callback passes =>
    cases List.mem_singleton.mp member
    cases Callback.wakes_iff.mp wakes
    exact apart (congrArg Handling.future? passes)
  next => cases member

/-- The action of a future runs when a thread carries out the task that takes its waker. -/
theorem takings_step (sound : watch.roster.Sound) (future : FutureId) :
    (watch.step thread).takings future =
      watch.takings future + if task.takes future then 1 else 0 := by
  have counted : ∀ other : Watch, other.takings future =
      (other.roster.ran.map (·.1.callback.first)).countP (Task.takes future) := fun other => by
    simp only [takings, List.countP_map, Function.comp_def, Callback.takes_first]
  have began := sound.began_run [thread]
  rw [Threads.carried, next, Threads.carried, List.append_nil, Option.toList_some] at began
  rw [counted, counted, roster_step]
  change List.countP _ (List.map _ (watch.roster.run [thread]).ran) = _
  rw [began, List.countP_append, Nat.add_left_cancel_iff, List.countP_filter,
    List.countP_singleton]
  cases task <;> simp [Task.begins, Task.takes]

theorem latest?_of_leaves {future : FutureId} {waker : String}
    (leaves : watch.codes.leaves? task = some (future, waker)) :
    (watch.step thread).latest? future = some waker := by
  rw [latest?, left_step next, leaves, Option.toList_some, wakersOf_concat,
    List.getLast?_concat]

theorem latest?_of_apart {future : FutureId}
    (apart : (watch.codes.leaves? task).map Prod.fst ≠ some future) :
    (watch.step thread).latest? future = watch.latest? future := by
  rw [latest?, left_step next, wakersOf_append_of_ne, latest?]
  intro pair member same
  exact apart (Option.map_eq_some_iff.mpr ⟨pair, Option.mem_toList.mp member, same⟩)

theorem wokenBy_of_quiet (quiet : task.waker? = none) (future : FutureId) :
    (watch.step thread).wokenBy future = watch.wokenBy future := by
  rw [wokenBy, woken_step next, quiet, Option.bind_none, Option.toList_none, List.append_nil,
    wokenBy]

theorem Tidy.touched (tidy : watch.Tidy) : watch.codes.Touched task := by
  refine watch.codes.touched_step (tidy.plain task ?_) tidy.within
  cases watch.roster.threads.stepped thread with
  | idle nothing _ => cases nothing.symm.trans next
  | worked other _ _ there _ _ work =>
    cases next.symm.trans there
    exact work.mem

/-- A thread that is about to wake a waker has taken it, and no other has. -/
theorem Tidy.waking_or_free (tidy : watch.Tidy) :
    (∃ owner waker, task = .wake waker ∧ watch.taken thread = some (owner, waker)) ∨
      task.waker? = none ∧ watch.taken thread = none := by
  cases watch.roster.threads.stepped thread with
  | idle nothing _ => cases nothing.symm.trans next
  | worked other rest _ there stack =>
    cases next.symm.trans there
    have hand := tidy.hands thread _ stack
    generalize watch.taken thread = taken at hand
    cases hand with
    | holds owner waker _ _ => exact .inl ⟨owner, waker, rfl, rfl⟩
    | free _ quiet => exact .inr ⟨quiet task List.mem_cons_self, rfl⟩

section Future

variable (tidy : watch.Tidy) {future : Nat} {held : Future}
  (found : watch.codes.futures[future]? = some held)

include tidy found

theorem Tidy.goesOn_of_waking {owner : FutureId} {waker : String} (is : task = .wake waker)
    (holds : watch.taken thread = some (owner, waker)) :
    watch.GoesOn (watch.step thread) future held := by
  subst is
  have never : none ≠ some future := (Option.some_ne_none future).symm
  have futures : (watch.step thread).codes.futures[future]? = some held := codes_step next ▸ found
  have registrations : (watch.step thread).registrations future = _ :=
    registrations_of_apart next never
  have takings := takings_step next tidy.roster future
  have latest : (watch.step thread).latest? future = _ := latest?_of_apart next never
  have woken : (watch.step thread).woken = watch.woken ++ [(owner, waker)] := by
    rw [woken_step next, holds]
    rfl
  have taken : ∀ other given, (watch.step thread).taken other = some (future, given) ↔
      other ≠ thread ∧ watch.taken other = some (future, given) := by
    intro other given
    rw [taken_step next]
    by_cases own : other = thread <;> simp [own, Codes.takes?]
  refine ⟨held, futures, rfl, ?_⟩
  by_cases same : owner = future
  · subst same
    refine .woken thread waker holds rfl registrations takings latest ?_ taken
    rw [wokenBy, woken, wakersOf_concat, wokenBy]
  · refine .rests rfl registrations takings latest ?_ fun other given => ?_
    · rw [wokenBy, woken, wakersOf_append_of_ne, wokenBy]
      rintro pair member
      rwa [List.mem_singleton.mp member]
    · rw [taken]
      refine and_iff_right_of_imp fun still own => ?_
      rw [own, holds] at still
      cases still
      exact same rfl

variable (silent : task.waker? = none) (free : watch.taken thread = none)

include silent free

omit tidy found silent in
theorem taken_of_avoids (avoids : task.takes future = false) (other : Nat) (given : String) :
    (watch.step thread).taken other = some (future, given) ↔
      watch.taken other = some (future, given) := by
  rw [taken_step next]
  split
  next own =>
    rw [own, free]
    refine iff_of_false (fun takes => ?_) (Option.some_ne_none _).symm
    rw [watch.codes.takes_of_takes? takes] at avoids
    cases avoids
  next => exact Iff.rfl

omit found in
theorem Tidy.goesOn_of_sparing
    (futures : (watch.step thread).codes.futures[future]? = some held)
    (leaves : (watch.codes.leaves? task).map Prod.fst ≠ some future)
    (avoids : task.takes future = false)
    (passes : (watch.codes.handling task).future? ≠ some future) :
    watch.GoesOn (watch.step thread) future held := by
  refine ⟨held, futures, rfl, .rests rfl (registrations_of_apart next passes) ?_
    (latest?_of_apart next leaves) (wokenBy_of_quiet next silent future)
    (taken_of_avoids next free avoids)⟩
  rw [takings_step next tidy.roster, avoids]
  rfl

theorem Tidy.goesOn_of_poll {waker : String} (pending : watch.codes.outcome held.code = .pending)
    (futures : (watch.codes.step task).1.futures = watch.codes.futures.set future
      { held with registered := true, waker := some waker })
    (leaves : watch.codes.leaves? task = some (future, waker))
    (avoids : task.takes future = false)
    (passes : watch.codes.handling task =
      if held.registered then .nothing else .passes held.code (.wake future)) :
    watch.GoesOn (watch.step thread) future held := by
  refine ⟨{ held with registered := true, waker := some waker }, ?_, rfl,
    .polled waker pending rfl ?_ ?_ (latest?_of_leaves next leaves)
      (wokenBy_of_quiet next silent future) (taken_of_avoids next free avoids)⟩
  · rw [codes_step next, futures, List.getElem?_set_self (List.getElem?_eq_some_iff.mp found).1]
  · split at passes
    next old =>
      rw [if_pos old]
      exact registrations_of_apart next (by simp [passes, Handling.future?])
    next new =>
      rw [if_neg new]
      exact registrations_of_passes next passes
  · rw [takings_step next tidy.roster, avoids]
    rfl

omit free in
theorem Tidy.goesOn_of_taking (is : task = .takeWaker future)
    (futures : (watch.codes.step task).1.futures =
      watch.codes.futures.set future { held with waker := none })
    (takes : watch.codes.takes? task = held.waker.map (future, ·)) :
    watch.GoesOn (watch.step thread) future held := by
  subst is
  have never : none ≠ some future := (Option.some_ne_none future).symm
  refine ⟨{ held with waker := none }, ?_, rfl, .taken thread rfl
    (registrations_of_apart next never) ?_ (latest?_of_apart next never)
    (wokenBy_of_quiet next silent future) fun other given => ?_⟩
  · rw [codes_step next, futures, List.getElem?_set_self (List.getElem?_eq_some_iff.mp found).1]
  · rw [takings_step next tidy.roster, Task.takes, decide_eq_true rfl, if_pos rfl]
  · rw [taken_step next, takes]
    by_cases own : other = thread <;> simp [own]

omit silent free in
/-- Every step is one of few things for a future that is there. -/
theorem Tidy.goesOn : watch.GoesOn (watch.step thread) future held := by
  have inside : future < watch.codes.futures.length := (List.getElem?_eq_some_iff.mp found).1
  have never : none ≠ some future := (Option.some_ne_none future).symm
  rcases tidy.waking_or_free next with ⟨owner, waker, is, holds⟩ | ⟨silent, free⟩
  · exact tidy.goesOn_of_waking next found is holds
  · cases tidy.touched next with
    | spared futures leaves avoids passes =>
      refine tidy.goesOn_of_sparing next silent free ?_ (by simp [leaves]) (avoids future inside)
        (by simp [passes])
      rw [codes_step next, futures, found]
    | added label name code is named futures =>
      subst is
      refine tidy.goesOn_of_sparing next silent free ?_ never rfl never
      rw [codes_step next, futures, List.getElem?_append_left inside, found]
    | polled other waker before present pending futures leaves avoids passes =>
      by_cases apart : other = future
      · subst apart
        cases found.symm.trans present
        exact tidy.goesOn_of_poll next found silent free pending futures leaves (avoids other)
          passes
      · refine tidy.goesOn_of_sparing next silent free ?_ (by simpa [leaves] using apart)
          (avoids future) ?_
        · rw [codes_step next, futures, List.getElem?_set_ne apart, found]
        · rw [passes]
          split
          · exact never
          · simpa [Handling.future?] using apart
    | taken other before is present futures leaves takes =>
      by_cases apart : other = future
      · subst apart
        cases found.symm.trans present
        exact tidy.goesOn_of_taking next found silent is futures takes
      · subst is
        refine tidy.goesOn_of_sparing next silent free ?_ never (decide_eq_false apart) never
        rw [codes_step next, futures, List.getElem?_set_ne apart, found]

end Future

end Work

section Step

variable {watch : Watch} (tidy : watch.Tidy)

include tidy

theorem Tidy.unused {future : Nat} (outside : watch.codes.futures.length ≤ future) :
    watch.Unused future := by
  have nowhere : ∀ {pairs : List (FutureId × String)},
      (∀ pair ∈ pairs, pair.1 < watch.codes.futures.length) → wakersOf future pairs = [] := by
    intro pairs known
    refine (wakersOf_append_of_ne [] fun pair member same => ?_ :)
    exact Nat.not_lt_of_le outside (same ▸ known pair member)
  have unregistered : watch.registrations future = 0 := by
    refine List.countP_eq_zero.mpr fun entry member wakes => ?_
    obtain ⟨held, found, _⟩ := tidy.passed entry member future (Callback.wakes_iff.mp wakes)
    exact Nat.not_lt_of_le outside (List.getElem?_eq_some_iff.mp found).1
  constructor
  case registrations => exact unregistered
  case takings => exact Nat.le_zero.mp (unregistered ▸ tidy.takings_le future)
  case latest => rw [latest?, nowhere tidy.left_known, List.getLast?_nil]
  case woken => exact nowhere tidy.woken_known
  case idle =>
    exact fun thread waker holds => Nat.not_lt_of_le outside (tidy.taken_known thread _ holds)

/-- A future that is there after a step was there before it, or has been added by it. -/
theorem Tidy.known_or_new {thread : Nat} {task : Task}
    (next : watch.roster.threads.next? thread = some task) {future : Nat} {later : Future}
    (found : (watch.step thread).codes.futures[future]? = some later) :
    (∃ held, watch.codes.futures[future]? = some held ∧ later.code = held.code ∧
        watch.Happens (watch.step thread) future held later) ∨
      (later.code < watch.codes.cells.length ∧ later.registered = false ∧ later.waker = none ∧
        (watch.step thread).Unused future) := by
  cases before : watch.codes.futures[future]? with
  | some held =>
    obtain ⟨other, there, code, happens⟩ := tidy.goesOn next before
    cases found.symm.trans there
    exact .inl ⟨held, rfl, code, happens⟩
  | none =>
    have outside : watch.codes.futures.length ≤ future := List.getElem?_eq_none_iff.mp before
    obtain ⟨registrations, takings, latest, woken, idle⟩ := tidy.unused outside
    rw [codes_step next] at found
    have absent : ∀ (other : Nat) (held : Future),
        (watch.codes.step task).1.futures ≠ watch.codes.futures.set other held := by
      intro other held futures
      rw [futures, List.getElem?_eq_none (by rwa [List.length_set])] at found
      cases found
    cases tidy.touched next with
    | spared futures =>
      rw [futures, before] at found
      cases found
    | added label name code is named futures =>
      subst is
      rw [futures, List.getElem?_append_right outside] at found
      cases List.mem_singleton.mp (List.mem_of_getElem? found)
      have never : none ≠ some future := (Option.some_ne_none future).symm
      refine .inr ⟨tidy.roster.closed.codes.named name code named, rfl, rfl, ?_⟩
      constructor
      case registrations => rw [registrations_of_apart next never, registrations]
      case takings => rw [takings_step next tidy.roster, takings]; rfl
      case latest => rw [latest?_of_apart next never, latest]
      case woken => rw [wokenBy_of_quiet next rfl, woken]
      case idle =>
        intro other waker
        rw [taken_step next]
        split
        · exact (Option.some_ne_none _).symm
        · exact idle other waker
    | polled other waker held _ _ futures => exact absurd futures (absent other _)
    | taken other held _ _ futures => exact absurd futures (absent other _)

/-- A thread's hand is full just when it has taken a waker. -/
theorem Tidy.hands_step {thread : Nat} {task : Task} {rest : List Task}
    (next : watch.roster.threads.next? thread = some task)
    (stack : watch.roster.threads.todo[thread]? = some (task :: rest)) :
    Hand ((watch.step thread).taken thread) ((watch.codes.step task).2 ++ rest) := by
  have quiet : ∀ other ∈ rest, other.waker? = none := by
    have hand := tidy.hands thread _ stack
    generalize watch.taken thread = taken at hand
    cases hand with
    | holds _ _ _ quiet => exact quiet
    | free _ quiet => exact fun other member => quiet other (List.mem_cons_of_mem _ member)
  rw [taken_step next, if_pos rfl]
  cases takes : watch.codes.takes? task with
  | none =>
    refine .free _ fun other member => ?_
    exact (List.mem_append.mp member).elim (watch.codes.quiet_of_takes takes other) (quiet other)
  | some pair =>
    rw [watch.codes.step_of_takes takes]
    exact .holds pair.1 pair.2 rest quiet

/-- A thread wakes a waker just when it has taken it. -/
theorem Tidy.counted_step {thread : Nat} {task : Task}
    (next : watch.roster.threads.next? thread = some task) (waker : String) :
    ((watch.step thread).codes.wakes.get? waker).getD 0 =
      (watch.step thread).woken.countP fun pair => pair.2 = waker := by
  rw [codes_step next, Codes.wakes_step, tidy.counted, woken_step next, List.countP_append,
    Nat.add_left_cancel_iff]
  rcases tidy.waking_or_free next with ⟨owner, given, rfl, holds⟩ | ⟨silent, _⟩
  · simp [Task.waker?, holds]
  · rw [silent]
    rfl

theorem Tidy.passed_known {thread : Nat} {task : Task}
    (next : watch.roster.threads.next? thread = some task) :
    ∀ entry ∈ (watch.step thread).roster.passed, ∀ future : Nat, entry.callback = .wake future →
      ∃ held, (watch.step thread).codes.futures[future]? = some held ∧
        held.code = entry.code := by
  intro entry member future wakes
  have touched := tidy.touched next
  have old : ∀ held, watch.codes.futures[future]? = some held → held.code = entry.code →
      ∃ held, (watch.step thread).codes.futures[future]? = some held ∧
        held.code = entry.code := by
    intro held found code
    obtain ⟨later, there, same⟩ := touched.stays found
    exact ⟨later, codes_step next ▸ there, same.trans code⟩
  rw [passed_step next] at member
  rcases List.mem_append.mp member with before | new
  · obtain ⟨held, found, code⟩ := tidy.passed entry before future wakes
    exact old held found code
  · split at new
    next code callback passes =>
      cases List.mem_singleton.mp new
      cases wakes
      cases touched with
      | spared _ _ _ never => rw [passes] at never; cases never
      | added _ _ _ is => rw [is] at passes; cases passes
      | polled other waker held found pending futures leaves avoids handled =>
        rw [handled] at passes
        split at passes
        next => cases passes
        next =>
          cases passes
          exact old held found rfl
      | taken _ _ is => rw [is] at passes; cases passes
    next => cases new

/-- A future registers with the first of the polls that leave a waker with it. -/
theorem Tidy.registered_step {thread : Nat} {task : Task}
    (next : watch.roster.threads.next? thread = some task) {future : Nat} {later : Future}
    (found : (watch.step thread).codes.futures[future]? = some later) :
    (watch.step thread).registrations future = (if later.registered then 1 else 0) ∧
      ((watch.step thread).latest? future).isSome = later.registered := by
  rcases tidy.known_or_new next found with ⟨held, before, _, happens⟩ | new
  · obtain ⟨registrations, left⟩ := tidy.registered future held before
    cases happens with
    | rests same passed _ latest => rw [passed, latest, same]; exact ⟨registrations, left⟩
    | polled waker _ same passed _ latest =>
      rw [passed, registrations, latest, same]
      cases held.registered <;> exact ⟨rfl, rfl⟩
    | taken _ same passed _ latest => rw [passed, latest, same]; exact ⟨registrations, left⟩
    | woken _ _ _ same passed _ latest =>
      rw [passed, latest, same]
      exact ⟨registrations, left⟩
  · obtain ⟨_, unregistered, _, unused⟩ := new
    rw [unused.registrations, unused.latest, unregistered]
    exact ⟨rfl, rfl⟩

theorem Tidy.step (thread : Nat) : (watch.step thread).Tidy := by
  cases watch.roster.threads.stepped thread with
  | idle nothing _ =>
    have same : watch.step thread = watch := by simp only [Watch.step, nothing]
    exact same.symm ▸ tidy
  | worked task rest others next stack after work =>
    have touched := tidy.touched next
    have longer : watch.codes.futures.length ≤ (watch.step thread).codes.futures.length :=
      codes_step next ▸ touched.length_le
    have known : ∀ {pairs more : List (FutureId × String)},
        (∀ pair ∈ pairs, pair.1 < watch.codes.futures.length) →
          (∀ pair ∈ more, pair.1 < watch.codes.futures.length) →
            ∀ pair ∈ pairs ++ more, pair.1 < (watch.step thread).codes.futures.length :=
      fun before new pair member => Nat.lt_of_lt_of_le
        ((List.mem_append.mp member).elim (before pair) (new pair)) longer
    have inside := (List.getElem?_eq_some_iff.mp stack).1
    constructor
    case roster => exact roster_step watch thread ▸ tidy.roster.step thread
    case plain =>
      intro other member
      rw [roster_step, Roster.threads_step] at member
      exact (work.next_or_old member).elim (watch.codes.plain_step task other) (tidy.plain other)
    case hands =>
      intro other tasks there
      rw [roster_step, Roster.threads_step, after] at there
      by_cases same : thread = other
      · subst same
        rw [List.getElem?_set_self inside] at there
        cases there
        exact tidy.hands_step next stack
      · rw [List.getElem?_set_ne same] at there
        rw [taken_step next, if_neg (Ne.symm same)]
        exact tidy.hands other tasks there
    case resting =>
      intro other absent
      rw [roster_step, Roster.threads_step, after] at absent
      have apart : thread ≠ other := by
        rintro rfl
        rw [List.getElem?_set_self inside] at absent
        cases absent
      rw [List.getElem?_set_ne apart] at absent
      rw [taken_step next, if_neg (Ne.symm apart)]
      exact tidy.resting other absent
    case within =>
      intro future later found
      rw [codes_step next]
      refine Nat.lt_of_lt_of_le ?_ (watch.codes.length_le_step task)
      rcases tidy.known_or_new next found with ⟨held, before, code, _⟩ | ⟨new, _⟩
      · exact code ▸ tidy.within future held before
      · exact new
    case passed => exact tidy.passed_known next
    case left_known =>
      rw [left_step next]
      exact known tidy.left_known fun pair member =>
        Codes.lt_of_leaves? (Option.mem_toList.mp member)
    case woken_known =>
      rw [woken_step next]
      refine known tidy.woken_known fun pair member => ?_
      obtain ⟨waker, _, given⟩ := Option.bind_eq_some_iff.mp (Option.mem_toList.mp member)
      obtain ⟨taken, holds, same⟩ := Option.map_eq_some_iff.mp given
      cases same
      exact tidy.taken_known thread taken holds
    case taken_known =>
      intro other pair holds
      rw [taken_step next] at holds
      refine Nat.lt_of_lt_of_le ?_ longer
      split at holds
      next => exact Codes.lt_of_takes? holds
      next => exact tidy.taken_known other pair holds
    case registered => exact fun future later found => tidy.registered_step next found
    case counted => exact tidy.counted_step next

end Step

/-- What holds of a watch at any time. -/
structure Sound (watch : Watch) : Prop extends Tidy watch where
  stages : ∀ (future : Nat) held, watch.codes.futures[future]? = some held →
    watch.Stage future held

theorem sound_start (programs : List (List Command)) : (start programs).Sound :=
  { tidy_start programs with stages := nofun }

namespace Sound

variable {watch : Watch} (sound : watch.Sound)

include sound

theorem step (thread : Nat) : (watch.step thread).Sound := by
  have tidy := sound.toTidy.step thread
  refine { tidy with stages := fun future later found => ?_ }
  cases watch.roster.threads.stepped thread with
  | idle nothing _ =>
    have same : watch.step thread = watch := by simp only [Watch.step, nothing]
    rw [same] at found ⊢
    exact sound.stages future later found
  | worked task _ _ next =>
    rcases sound.known_or_new next found with ⟨held, before, code, happens⟩ | new
    · refine (sound.stages future held before).step happens (fun done => ?_) ?_ fun one => ?_
      · have inside := sound.within future held before
        rw [codes_step next, watch.codes.outcome_step_of_done task inside done]
        exact done
      · exact Nat.le_trans (tidy.takings_le future) (tidy.registrations_le_one future)
      · exact code ▸ tidy.begun found one
    · obtain ⟨_, _, empty, unused⟩ := new
      exact .waits unused.takings (empty.trans unused.latest.symm) unused.woken unused.idle

theorem run (schedule : List Nat) : (watch.run schedule).Sound := by
  induction schedule generalizing watch with
  | nil => exact sound
  | cons thread rest ih => exact ih (sound.step thread)

/-- The action of a future has run once its code is done and no thread is left to run it. -/
theorem takings_eq_one {future : FutureId} {held : Future}
    (found : watch.codes.futures[future]? = some held) (registered : held.registered = true)
    (done : watch.codes.outcome held.code ≠ .pending) (settled : watch.Settled future) :
    watch.takings future = 1 := by
  have once := (sound.registered future held found).1
  rw [if_pos registered] at once
  refine Nat.le_antisymm (once ▸ sound.takings_le future) ?_
  obtain ⟨entry, passed, wakes⟩ :=
    List.countP_pos_iff.mp (Nat.lt_of_lt_of_eq Nat.one_pos once.symm)
  have is := Callback.wakes_iff.mp wakes
  obtain ⟨other, there, code⟩ := sound.passed entry passed future is
  cases found.symm.trans there
  -- The action begins with its first task: if that is not queued any more, it has run.
  have none_left : entry.callback.first ∉ watch.roster.threads.tasks := fun queued => by
    have takes := settled.1 _ queued
    rw [entry.callback.takes_first, wakes] at takes
    cases takes
  obtain ⟨outcome, ran⟩ := sound.roster.ran_of_done passed (code ▸ done) none_left
  exact List.countP_pos_iff.mpr ⟨(entry, outcome), ran, wakes⟩

/-- The waker of the last poll is woken, and no other. -/
theorem wokenBy_eq {future : FutureId} {held : Future}
    (found : watch.codes.futures[future]? = some held)
    (done : watch.codes.outcome held.code ≠ .pending) (settled : watch.Settled future) :
    watch.wokenBy future = (watch.latest? future).toList := by
  have left := (sound.registered future held found).2
  cases sound.stages future held found with
  | waits none _ woken =>
    cases registered : held.registered with
    | true =>
      have one := sound.takings_eq_one found registered done settled
      cases none.symm.trans one
    | false =>
      rw [registered, Option.isSome_eq_false_iff, Option.isNone_iff_eq_none] at left
      rw [woken, left]
      rfl
  | taken thread waker _ _ _ _ taken =>
    exact absurd ((taken thread waker).mpr ⟨rfl, rfl⟩) (settled.2 thread waker)
  | woken waker _ _ latest woken => rw [woken, latest]; rfl

/-- A future keeps at most one action with its code. -/
theorem kept_le_one (code : CodeId) (future : FutureId) :
    (watch.codes.callbacks code).countP (Callback.wakes future) ≤ 1 := by
  have everywhere := sound.roster.placed.countP_eq fun held => held.callback.wakes future
  rw [List.countP_append, List.countP_append] at everywhere
  have once := sound.registrations_le_one future
  rw [registrations] at once
  rw [codes, sound.roster.callbacks, List.countP_map, Function.comp_def]
  have fewer : (watch.roster.kept.filter fun held => held.code = code).countP
      (fun held => held.callback.wakes future) ≤
        watch.roster.kept.countP fun held => held.callback.wakes future :=
    List.filter_sublist.countP_le
  omega

end Sound

/-- What holds of the wakers left with futures at any time. -/
structure NoneLost (watch : Watch) : Prop where
  /-- However often it is polled, a future registers once. -/
  once : ∀ future, watch.registrations future ≤ 1
  kept : ∀ code future, (watch.codes.callbacks code).countP (Callback.wakes future) ≤ 1
  counted : ∀ waker, (watch.codes.wakes.get? waker).getD 0 =
    watch.woken.countP fun pair => pair.2 = waker
  waits : ∀ (future : Nat) held, watch.codes.futures[future]? = some held →
    watch.codes.outcome held.code = .pending → watch.wokenBy future = []
  /-- A future never wakes a waker that has been replaced, nor any waker twice. -/
  last : ∀ (future : Nat) held, watch.codes.futures[future]? = some held →
    watch.wokenBy future = [] ∨ watch.wokenBy future = (watch.latest? future).toList
  woken : ∀ (future : Nat) held, watch.codes.futures[future]? = some held →
    watch.codes.outcome held.code ≠ .pending → watch.Settled future →
      watch.wokenBy future = (watch.latest? future).toList
  ready : ∀ (future : Nat) held result, watch.codes.futures[future]? = some held →
    (watch.codes.outcome held.code).result? = some result →
      ∀ waker, watch.codes.poll future waker = (watch.codes, some result)
  /-- Polling a future whose code is done leaves nothing to be done, and wakes nobody. -/
  silent : ∀ name (future : Nat) held, watch.codes.futureNames.get? name = some future →
    watch.codes.futures[future]? = some held → watch.codes.outcome held.code ≠ .pending →
      ∀ waker, watch.codes.step (.follow (.poll name waker)) = (watch.codes.noting waker, []) ∧
        ∀ other, ((watch.codes.noting waker).wakes.get? other).getD 0 =
          (watch.codes.wakes.get? other).getD 0

theorem Sound.noneLost {watch : Watch} (sound : watch.Sound) : watch.NoneLost where
  once := sound.registrations_le_one
  kept := sound.kept_le_one
  counted := sound.counted
  waits := fun future held found pending => by
    cases sound.stages future held found with
    | waits _ _ woken => exact woken
    | taken _ _ _ done => exact absurd pending done
    | woken _ _ done => exact absurd pending done
  last := fun future held found => by
    cases sound.stages future held found with
    | waits _ _ woken => exact .inl woken
    | taken _ _ _ _ _ woken => exact .inl woken
    | woken waker _ _ latest woken => exact .inr (by rw [woken, latest]; rfl)
  woken := fun _ _ found done settled => sound.wokenBy_eq found done settled
  ready := fun _ _ _ found done waker => Codes.poll_of_done found done waker
  silent := fun _ future held named found done waker => by
    obtain ⟨result, there⟩ := Codes.result?_of_done done
    have noted : (watch.codes.noting waker).futures[future]? = some held := found
    refine ⟨?_, watch.codes.wakes_noting waker⟩
    rw [watch.codes.step_poll named waker, Codes.poll_of_done noted there waker]

/-- Once every thread has had turns for all that remained to be done, no future has an action or a
waker left in the hands of a thread. -/
theorem Sound.settled_run {watch : Watch} (sound : watch.Sound) (schedule : List Nat)
    (turns : ∀ thread < watch.roster.threads.todo.length,
      watch.roster.threads.weight ≤ schedule.count thread) (future : FutureId) :
    (watch.run schedule).Settled future := by
  have threads : (watch.run schedule).roster.threads = watch.roster.threads.run schedule := by
    rw [roster_run, Roster.threads_run]
  have idle : ∀ thread < (watch.run schedule).roster.threads.todo.length,
      (watch.run schedule).roster.threads.next? thread = none := by
    rw [threads]
    intro thread reaches
    rw [Threads.length_todo_run] at reaches
    exact watch.roster.threads.idle_of_turns thread schedule (turns thread reaches)
  have later := sound.run schedule
  constructor
  · rw [Threads.tasks_eq_nil idle]
    exact List.forall_mem_nil _
  · intro thread waker holds
    cases stack : (watch.run schedule).roster.threads.todo[thread]? with
    | none => rw [later.resting thread stack] at holds; cases holds
    | some tasks =>
      have nothing := idle thread (List.getElem?_eq_some_iff.mp stack).1
      rw [Threads.next?, stack, Option.bind_some, List.head?_eq_none_iff] at nothing
      have hand := later.hands thread tasks stack
      rw [holds, nothing] at hand
      cases hand

/-- Whichever way polls and completing calls of threads interleave, no wake is lost: a future
registers at most one action; when its code is done and that action has run, the waker of the last
poll that found no result has been woken once by the future and no other has; and to poll it then
answers the result and wakes nobody. All actions have run once each thread has had its turns. -/
theorem no_wake_lost (programs : List (List Command)) (schedule : List Nat) :
    let watch := (start programs).run schedule
    watch.roster.threads = (Threads.start programs).run schedule ∧ watch.NoneLost ∧
      ∀ later : List Nat, (∀ thread < programs.length,
        watch.roster.threads.weight ≤ later.count thread) →
          (watch.run later).NoneLost ∧ ∀ future, (watch.run later).Settled future := by
  intro watch
  have sound : watch.Sound := (sound_start programs).run schedule
  have threads : watch.roster.threads = (Threads.start programs).run schedule := by
    change ((start programs).run schedule).roster.threads = _
    rw [roster_run, Roster.threads_run]
    rfl
  refine ⟨threads, sound.noneLost, fun later turns => ⟨(sound.run later).noneLost, ?_⟩⟩
  refine sound.settled_run later fun thread reaches => turns thread ?_
  rw [threads, Threads.length_todo_run] at reaches
  simpa [Threads.start] using reaches

/-- A future is polled with one waker, and with another one while a second thread is about to
complete the code: the second waker is woken, once. -/
theorem no_wake_lost_replaced :
    let programs : List (List Command) :=
      [[.create "code" .pending, .await "future" "code", .poll "future" "first",
          .poll "future" "second"],
        [.complete "code" .succeeded, .poll "future" "third"]]
    let watch := (start programs).run [0, 0, 0, 1, 0]
    let later := (watch.run (List.replicate 12 [0, 1]).flatten)
    later.latest? 0 = some "second" ∧ later.wokenBy 0 = ["second"] ∧
      later.registrations 0 = 1 ∧
      ["first", "second", "third"].map (later.codes.wakes.get? ·) = [some 0, some 1, some 0] := by
  intro programs watch later
  obtain ⟨_, _, goes_on⟩ := no_wake_lost programs [0, 0, 0, 1, 0]
  obtain ⟨lost, settled⟩ := goes_on (List.replicate 12 [0, 1]).flatten (by decide +kernel)
  have latest : later.latest? 0 = some "second" := by decide +kernel
  refine ⟨latest, ?_, by decide +kernel, by decide +kernel⟩
  have code : (later.codes.futures[0]?).map (·.code) = some 0 := by decide +kernel
  obtain ⟨held, found, same⟩ := Option.map_eq_some_iff.mp code
  have done : later.codes.outcome held.code ≠ .pending := by
    rw [same]
    decide +kernel
  exact (lost.woken 0 held found done (settled 0)).trans (congrArg Option.toList latest)

end Watch

end Metering.Completion
