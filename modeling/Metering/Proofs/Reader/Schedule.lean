import Mathlib.Data.List.Induction
import Mathlib.Tactic.SplitIfs
import Metering.Reader.Schedule

/-!
The schedule of exports over any turns of its thread. An export on schedule makes the next one due
an interval after it began; a flush makes it due an interval after the last export ended, or at once
if it runs past that. The two differ by the lag of a schedule, which is what the first flush puts
the next export off by.
-/

namespace Metering.Schedule

/-- One turn of an export thread: how long it waited, and how long what ended the wait took. -/
inductive Turn where
  | timer (waited took : Nat)
  | flush (waited took : Nat)
  deriving DecidableEq, Repr

namespace Turn

def waited : Turn → Nat
  | .timer waited _ | .flush waited _ => waited

def took : Turn → Nat
  | .timer _ took | .flush _ took => took

def isFlush : Turn → Bool
  | .timer _ _ => false
  | .flush _ _ => true

end Turn

/-- When an export or flush begins, and when it is over. -/
def begun (schedule : Schedule) (turn : Turn) : Nat := schedule.waitingSince + turn.waited

def ended (schedule : Schedule) (turn : Turn) : Nat := schedule.begun turn + turn.took

def turn (schedule : Schedule) (turn : Turn) : Schedule :=
  match turn with
  | .timer _ _ => schedule.afterExport (schedule.begun turn) (schedule.ended turn)
  | .flush _ _ => schedule.afterFlush (schedule.ended turn)

def run (schedule : Schedule) (turns : List Turn) : Schedule := turns.foldl turn schedule

/-- How long before a whole interval has passed the present wait ends. -/
def lag (schedule : Schedule) : Nat :=
  schedule.intervalStart + schedule.interval - schedule.due

section Checked

/-- The time between two moments, if it is not negative. -/
def minus? (later earlier : Nat) : Option Nat :=
  if earlier ≤ later then some (later - earlier) else none

theorem minus?_of_le {later earlier : Nat} (le : earlier ≤ later) :
    minus? later earlier = some (later - earlier) := if_pos le

/-- A turn whose every subtraction is checked. -/
def turn? (schedule : Schedule) (turn : Turn) : Option Schedule := do
  let now := schedule.ended turn
  match turn with
  | .timer _ _ =>
    let took ← minus? now (schedule.begun turn)
    let remaining ← if schedule.interval < took then some 0 else minus? schedule.interval took
    some { schedule with remaining, intervalStart := now, waitingSince := now }
  | .flush _ _ =>
    let elapsed ← minus? now schedule.intervalStart
    if elapsed < schedule.interval then
      let remaining ← minus? schedule.interval elapsed
      some { schedule with remaining, waitingSince := now }
    else some { schedule with intervalStart := now, remaining := 0, waitingSince := now }

def run? (schedule : Schedule) (turns : List Turn) : Option Schedule :=
  turns.foldlM turn? schedule

end Checked

/-- What holds of a schedule at any time: the wait ends when the interval does, or before. -/
structure Sound (schedule : Schedule) : Prop where
  since : schedule.intervalStart ≤ schedule.waitingSince
  remaining_le : schedule.remaining ≤ schedule.interval
  due_le : schedule.due ≤ schedule.intervalStart + schedule.interval

theorem sound_start (interval now : Nat) : (start interval now).Sound :=
  ⟨Nat.le_refl _, Nat.le_refl _, Nat.le_refl _⟩

section Turn

variable (schedule : Schedule)

@[simp] theorem interval_turn (turn : Turn) :
    (schedule.turn turn).interval = schedule.interval := by
  cases turn with
  | timer waited took => rfl
  | flush waited took =>
    simp only [Schedule.turn, afterFlush]
    split_ifs <;> rfl

@[simp] theorem waitingSince_turn (turn : Turn) :
    (schedule.turn turn).waitingSince = schedule.ended turn := by
  cases turn with
  | timer waited took => rfl
  | flush waited took =>
    simp only [Schedule.turn, afterFlush]
    split_ifs <;> rfl

theorem waitingSince_le_ended (turn : Turn) : schedule.waitingSince ≤ schedule.ended turn := by
  unfold ended begun
  omega

/-- An export that takes longer than an interval leaves nothing of it to wait for. -/
theorem remaining_afterExport (began now : Nat) :
    (schedule.afterExport began now).remaining = schedule.interval - (now - began) := by
  unfold afterExport
  cases late : schedule.overran began now with
  | true =>
    have longer : schedule.interval < now - began := of_decide_eq_true late
    show 0 = schedule.interval - (now - began)
    omega
  | false => rfl

/-- After an export on schedule the next one is due an interval after it began, or at once if it
took longer than that. -/
theorem due_timer (waited took : Nat) :
    (schedule.turn (.timer waited took)).due =
      max (schedule.begun (.timer waited took) + schedule.interval)
        (schedule.ended (.timer waited took)) := by
  have remaining : (schedule.turn (.timer waited took)).remaining = schedule.interval - _ :=
    schedule.remaining_afterExport _ _
  rw [due, remaining, waitingSince_turn]
  simp only [ended, Turn.took]
  omega

theorem intervalStart_timer (waited took : Nat) :
    (schedule.turn (.timer waited took)).intervalStart = schedule.ended (.timer waited took) := rfl

theorem sound_timer (waited took : Nat) : (schedule.turn (.timer waited took)).Sound := by
  have due := schedule.due_timer waited took
  constructor
  case since => exact Nat.le_refl _
  case remaining_le =>
    exact Nat.le_trans (Nat.le_of_eq (schedule.remaining_afterExport _ _)) (Nat.sub_le _ _)
  case due_le =>
    rw [due, interval_turn, intervalStart_timer]
    unfold ended
    omega

variable {schedule} (sound : schedule.Sound)

include sound

theorem due_add_lag : schedule.due + schedule.lag = schedule.intervalStart + schedule.interval := by
  have bound := sound.due_le
  unfold lag
  omega

/-- After a flush the next export is due when the interval ends, or at once if the flush ran past
that. -/
theorem due_flush (waited took : Nat) :
    (schedule.turn (.flush waited took)).due =
      max (schedule.intervalStart + schedule.interval) (schedule.ended (.flush waited took)) := by
  have since := Nat.le_trans sound.since (schedule.waitingSince_le_ended (.flush waited took))
  simp only [Schedule.turn, afterFlush]
  split_ifs <;> simp only [due] <;> omega

/-- A flush begins a new interval only if it runs past the old one. -/
theorem intervalStart_flush (waited took : Nat) :
    (schedule.turn (.flush waited took)).intervalStart =
      if schedule.ended (.flush waited took) < schedule.intervalStart + schedule.interval then
        schedule.intervalStart
      else schedule.ended (.flush waited took) := by
  have since := Nat.le_trans sound.since (schedule.waitingSince_le_ended (.flush waited took))
  simp only [Schedule.turn, afterFlush]
  split_ifs <;> first | rfl | omega

theorem sound_flush (waited took : Nat) : (schedule.turn (.flush waited took)).Sound := by
  have since := Nat.le_trans sound.since (schedule.waitingSince_le_ended (.flush waited took))
  have due := due_flush sound waited took
  have start := intervalStart_flush sound waited took
  constructor
  case since =>
    rw [start, waitingSince_turn]
    split_ifs
    · exact since
    · exact Nat.le_refl _
  case remaining_le =>
    simp only [Schedule.turn, afterFlush]
    split_ifs
    · exact Nat.sub_le _ _
    · exact Nat.zero_le _
  case due_le =>
    rw [due, start, interval_turn]
    split_ifs <;> omega

theorem sound_turn (turn : Turn) : (schedule.turn turn).Sound := by
  cases turn with
  | timer waited took => exact schedule.sound_timer waited took
  | flush waited took => exact sound_flush sound waited took

theorem sound_run (turns : List Turn) : (schedule.run turns).Sound := by
  induction turns generalizing schedule with
  | nil => exact sound
  | cons turn rest ih => exact ih (sound_turn sound turn)

/-- No subtraction of a turn goes below zero. -/
theorem turn?_eq (turn : Turn) : schedule.turn? turn = some (schedule.turn turn) := by
  have since := Nat.le_trans sound.since (schedule.waitingSince_le_ended turn)
  cases turn with
  | timer waited took =>
    have began : schedule.begun (.timer waited took) ≤ schedule.ended (.timer waited took) :=
      Nat.le_add_right _ _
    simp only [turn?, minus?_of_le began, Option.bind_eq_bind, Option.bind_some, Schedule.turn,
      afterExport, overran, decide_eq_true_eq]
    split_ifs with late
    · rfl
    · rw [minus?_of_le (Nat.le_of_not_lt late)]
      rfl
  | flush waited took =>
    simp only [turn?, minus?_of_le since, Option.bind_eq_bind, Option.bind_some, Schedule.turn,
      afterFlush]
    split_ifs with within
    · rw [minus?_of_le (Nat.le_of_lt within)]
      rfl
    · rfl

theorem run?_eq (turns : List Turn) : schedule.run? turns = some (schedule.run turns) := by
  induction turns generalizing schedule with
  | nil => rfl
  | cons turn rest ih =>
    have first := turn?_eq sound turn
    calc schedule.run? (turn :: rest)
      _ = (schedule.turn turn).run? rest := by
        rw [run?, List.foldlM_cons, first]
        rfl
      _ = some ((schedule.turn turn).run rest) := ih (sound_turn sound turn)

end Turn

theorem interval_run (schedule : Schedule) (turns : List Turn) :
    (schedule.run turns).interval = schedule.interval := by
  induction turns generalizing schedule with
  | nil => rfl
  | cons turn rest ih => exact (ih (schedule.turn turn)).trans (schedule.interval_turn turn)

theorem run_concat (schedule : Schedule) (turns : List Turn) (last : Turn) :
    schedule.run (turns ++ [last]) = (schedule.run turns).turn last := by
  rw [run, List.foldl_append]
  rfl

/-- Flushes that end within the interval leave it where it began. -/
theorem intervalStart_run {schedule : Schedule} (sound : schedule.Sound) (flushes : List Turn)
    (all : ∀ turn ∈ flushes, turn.isFlush = true)
    (within : (schedule.run flushes).waitingSince < schedule.intervalStart + schedule.interval) :
    (schedule.run flushes).intervalStart = schedule.intervalStart := by
  -- From the end: if the last flush ends within the interval, so do all before it.
  induction flushes using List.reverseRecOn with
  | nil => rfl
  | append_singleton earlier last ih =>
    rw [run_concat] at within ⊢
    rw [waitingSince_turn] at within
    have before := (schedule.run earlier).waitingSince_le_ended last
    have kept := ih (fun turn member => all turn (List.mem_append_left _ member))
      (Nat.lt_of_le_of_lt before within)
    cases last with
    | timer waited took =>
      have never := all (.timer waited took) (List.mem_append_right _ (List.mem_singleton_self _))
      cases never
    | flush waited took =>
      rw [intervalStart_flush (sound_run sound earlier), kept, interval_run, if_pos within]

section Lag

@[simp] theorem lag_start (interval now : Nat) : (start interval now).lag = 0 :=
  Nat.sub_self _

/-- An export leaves a lag of the time that it took, up to an interval. -/
theorem lag_timer (schedule : Schedule) (waited took : Nat) :
    (schedule.turn (.timer waited took)).lag = min took schedule.interval := by
  rw [lag, due_timer, intervalStart_timer, interval_turn]
  simp only [ended, Turn.took]
  omega

/-- A flush within the interval leaves no lag; one that ran past it leaves that of an interval. -/
theorem lag_flush {schedule : Schedule} (sound : schedule.Sound) (waited took : Nat) :
    (schedule.turn (.flush waited took)).lag =
      if schedule.ended (.flush waited took) < schedule.intervalStart + schedule.interval then 0
      else schedule.interval := by
  rw [lag, due_flush sound, intervalStart_flush sound, interval_turn]
  split_ifs <;> omega

end Lag

/-- Whether no export on schedule begins before it is due. -/
def Timely (schedule : Schedule) : List Turn → Prop
  | [] => True
  | turn :: rest =>
    (turn.isFlush = false → schedule.due ≤ schedule.begun turn) ∧ (schedule.turn turn).Timely rest

theorem timely_concat {schedule : Schedule} {turns : List Turn} (timely : schedule.Timely turns)
    {last : Turn}
    (due : last.isFlush = false → (schedule.run turns).due ≤ (schedule.run turns).begun last) :
    schedule.Timely (turns ++ [last]) := by
  induction turns generalizing schedule with
  | nil => exact ⟨due, trivial⟩
  | cons turn rest ih => exact ⟨timely.1, ih timely.2 due⟩

/-- When the next export is due after one more turn. -/
structure Exact (schedule : Schedule) : Prop where
  remaining_le : schedule.remaining ≤ schedule.interval
  /-- After an export the next one is due an interval after it began, or at once. -/
  timer : ∀ waited took, (schedule.turn (.timer waited took)).due =
    max (schedule.begun (.timer waited took) + schedule.interval)
      (schedule.ended (.timer waited took))
  /-- A flush puts the next export off by the lag, or makes it due at once. -/
  flush : ∀ waited took, (schedule.turn (.flush waited took)).due =
    max (schedule.due + schedule.lag) (schedule.ended (.flush waited took))
  /-- So the export is not put off if there is no lag, or the flush ends after it. -/
  kept_iff : ∀ waited took, (schedule.turn (.flush waited took)).due ≤
      max schedule.due (schedule.ended (.flush waited took)) ↔
    schedule.lag = 0 ∨ schedule.due + schedule.lag ≤ schedule.ended (.flush waited took)
  lag_timer : ∀ waited took,
    (schedule.turn (.timer waited took)).lag = min took schedule.interval
  lag_flush : ∀ waited took, (schedule.turn (.flush waited took)).lag =
    if schedule.ended (.flush waited took) < schedule.due + schedule.lag then 0
    else schedule.interval
  /-- Any number of flushes that end within an interval put the next export off by no more than
  the first of them. -/
  between : ∀ waited took flushes last took', (∀ turn ∈ flushes, turn.isFlush = true) →
    let exported := schedule.turn (.timer waited took)
    let later := exported.run flushes
    later.waitingSince < exported.waitingSince + schedule.interval →
      (later.turn (.flush last took')).due =
        max (exported.waitingSince + schedule.interval) (later.ended (.flush last took'))

theorem exact_of_sound {schedule : Schedule} (sound : schedule.Sound) : schedule.Exact where
  remaining_le := sound.remaining_le
  timer := schedule.due_timer
  flush := fun waited took => by rw [due_add_lag sound, due_flush sound]
  kept_iff := fun waited took => by
    rw [due_flush sound, ← due_add_lag sound]
    omega
  lag_timer := schedule.lag_timer
  lag_flush := fun waited took => by rw [due_add_lag sound, lag_flush sound]
  between := by
    intro waited took flushes last took' all exported later within
    have begins : exported.Sound := schedule.sound_timer waited took
    have same : exported.interval = schedule.interval := schedule.interval_turn _
    have start : later.intervalStart = exported.waitingSince :=
      intervalStart_run begins flushes all (same.symm ▸ within)
    have interval : later.interval = schedule.interval :=
      (exported.interval_run flushes).trans same
    rw [due_flush (sound_run begins flushes), start, interval]

end Metering.Schedule
