import Metering.Number

/-!
The schedule of a periodic reader's exports. The export thread waits for at most the remaining part
of an interval; each export and each flush then settles how long the next wait is. All times are
nanoseconds on one line.
-/

namespace Metering

structure Schedule where
  interval : Nat
  /-- When the current interval began. -/
  intervalStart : Nat
  /-- How long the current wait lasts at most. -/
  remaining : Nat
  /-- When the current wait began. -/
  waitingSince : Nat
  deriving DecidableEq, Repr

namespace Schedule

def start (interval now : Nat) : Schedule :=
  { interval, intervalStart := now, remaining := interval, waitingSince := now }

def due (schedule : Schedule) : Nat := schedule.waitingSince + schedule.remaining

/-- After a flush that ended at `now`: what is left of the interval, or nothing when the flush ran
past its end. -/
def afterFlush (schedule : Schedule) (now : Nat) : Schedule :=
  let elapsed := now - schedule.intervalStart
  if elapsed < schedule.interval then
    { schedule with remaining := schedule.interval - elapsed, waitingSince := now }
  else { schedule with intervalStart := now, remaining := 0, waitingSince := now }

/-- Whether an export that lasted from `began` to `now` took longer than the interval. -/
def overran (schedule : Schedule) (began now : Nat) : Bool := schedule.interval < now - began

/-- After an export on schedule that lasted from `began` to `now`: its time is taken off the next
wait. -/
def afterExport (schedule : Schedule) (began now : Nat) : Schedule :=
  { schedule with
    remaining := if schedule.overran began now then 0 else schedule.interval - (now - began)
    intervalStart := now
    waitingSince := now }

end Schedule

structure PeriodicConfig where
  interval : Span
  timeout : Span
  deriving DecidableEq, Repr

namespace PeriodicConfig

def defaultInterval : Span := .ofSeconds 60

def defaultTimeout : Span := .ofSeconds 30

/-- Reads a number of milliseconds: decimal digits behind an optional plus sign, below 2^64. -/
def millis? (text : String) : Option Nat :=
  let digits := match text.toList with
    | '+' :: rest => rest
    | all => all
  if digits.isEmpty || !digits.all (fun c => '0' ≤ c && c ≤ '9') then none
  else
    let value := digits.foldl (fun value c => 10 * value + (c.toNat - '0'.toNat)) 0
    if value < UInt64.size then some value else none

/-- A span set from outside the program; zero and what is no number count as not set. -/
def setting? (text : Option String) : Option Span :=
  (text.bind millis?).bind fun value => if value = 0 then none else some (.ofMillis value)

def ofSettings (interval timeout : Option String) : PeriodicConfig :=
  { interval := (setting? interval).getD defaultInterval
    timeout := (setting? timeout).getD defaultTimeout }

/-- Sets the interval, unless it is zero. -/
def withInterval (config : PeriodicConfig) (interval : Span) : PeriodicConfig :=
  if interval.isZero then config else { config with interval }

def withTimeout (config : PeriodicConfig) (timeout : Span) : PeriodicConfig :=
  if timeout.isZero then config else { config with timeout }

end PeriodicConfig

end Metering
