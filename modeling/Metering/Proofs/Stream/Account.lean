import Metering.Proofs.Quantity
import Metering.Stream.Basic

/-!
Runs of a stream, and the account of what went in and came out. The account is kept beside the
stream and does not influence it: which measurements were stored and under which set, which of them
each reader has not collected yet, which points each reader was given, and at which values series
were dropped.
-/

namespace Metering

/-- What can happen to a stream. -/
inductive Operation where
  /-- A measurement, at a time of the clock. -/
  | record (now : UInt64) (value : Quantity) (attributes : List Attribute)
  /-- A collection for the reader at a position, whose last one began at `since`. -/
  | collect (position : Nat) (since time : UInt64)
  | reset

/-- Whether an operation measures at most a quantity of a type. -/
def Operation.HasType (number : NumberType) : Operation → Prop
  | .record _ value _ => value.HasType number
  | _ => True

/-- A measurement as a stream keeps it: under its effective attribute set. -/
structure Entry where
  set : AttributeSet
  value : Quantity
  time : UInt64

/-- The values stored under a set, oldest first. -/
def valuesUnder (set : AttributeSet) (entries : List Entry) : List Quantity :=
  (entries.filter fun entry => entry.set = set).map (·.value)

theorem valuesUnder_append (set : AttributeSet) (entries : List Entry) (entry : Entry) :
    valuesUnder set (entries ++ [entry]) =
      if entry.set = set then valuesUnder set entries ++ [entry.value]
      else valuesUnder set entries := by
  by_cases same : entry.set = set <;> simp [valuesUnder, same]

namespace Stream

/-- The set under which a stream stores a measurement, unless it refuses the measurement. -/
def place? (stream : Stream) (value : Quantity) (attributes : List Attribute) :
    Option AttributeSet :=
  if stream.accepts value then
    some (stream.series.route stream.definition (stream.attributeSet attributes)).2.1
  else none

def live (stream : Stream) (set : AttributeSet) : Option Accumulation :=
  stream.series.accumulations.get? set

/-- What the reader at a position was last given for a set. -/
def last (stream : Stream) (position : Nat) (set : AttributeSet) : Option Reported :=
  (stream.slots[position]?).bind fun slot => slot.get? set

/-- The points that a collection answers. -/
def pointsFor (stream : Stream) (collector : Collector) (time : UInt64) : List DataPoint :=
  ((stream.collect collector time).2.map (·.points)).getD []

/-- Whether a series was there before a step and is gone behind it. -/
def droppedAt (before after : Stream) (set : AttributeSet) : Option Quantity :=
  if (after.live set).isSome then none else (before.live set).map (·.value)

end Stream

/-- A stream with the account of what happened to it since it was made or last reset. -/
structure Account where
  stream : Stream
  /-- What was stored. -/
  stored : List Entry := []
  /-- What was stored since the last collection of the reader at a position. -/
  unseen : Nat → List Entry := fun _ => []
  /-- The points that the reader at a position was given. -/
  given : Nat → List DataPoint := fun _ => []
  /-- The values at which the series of a set were dropped. -/
  dropped : AttributeSet → List Quantity := fun _ => []

namespace Account

/-- The account of a stream to which nothing has happened. -/
def create (definition : StreamDefinition) (filter : ExemplarFilter) (start : UInt64)
    (readers : List TemporalityChoice) : Account :=
  { stream := Stream.create definition filter start readers }

def enter (account : Account) (entry : Entry) : Account :=
  { account with
    stored := account.stored ++ [entry]
    unseen := fun position => account.unseen position ++ [entry] }

def record (account : Account) (now : UInt64) (value : Quantity) (attributes : List Attribute) :
    Account :=
  let next := { account with stream := (account.stream.record now value attributes).1 }
  match account.stream.place? value attributes with
  | none => next
  | some set => next.enter ⟨set, value, now⟩

def collect (account : Account) (collector : Collector) (time : UInt64) : Account :=
  let next := (account.stream.collect collector time).1
  { account with
    stream := next
    unseen := fun position =>
      if position = collector.position then [] else account.unseen position
    given := fun position =>
      if position = collector.position then
        account.given position ++ account.stream.pointsFor collector time
      else account.given position
    dropped := fun set => account.dropped set ++ (account.stream.droppedAt next set).toList }

/-- Does what an operation says, for readers that ask for the given temporalities; a position
without a reader collects nothing. -/
def step (readers : List TemporalityChoice) (account : Account) : Operation → Account
  | .record now value attributes => account.record now value attributes
  | .collect position since time =>
    match readers[position]? with
    | none => account
    | some temporality => account.collect ⟨position, temporality, since⟩ time
  | .reset => { stream := account.stream.reset }

def run (readers : List TemporalityChoice) (account : Account) (operations : List Operation) :
    Account :=
  operations.foldl (step readers) account

theorem run_append (readers : List TemporalityChoice) (account : Account)
    (first second : List Operation) :
    account.run readers (first ++ second) = (account.run readers first).run readers second :=
  List.foldl_append

end Account

end Metering
