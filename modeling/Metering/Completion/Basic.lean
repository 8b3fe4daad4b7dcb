import Metering.Failure
import Metering.Table

/-!
Completion codes: tokens for operations that end later. A code is pending until it is completed
for the first time, and keeps that outcome. Callbacks registered with a pending code are kept until
it completes. A set of codes holds the codes, the names they are known by, the futures that wait
for them, and what callbacks and wakers have done so far.
-/

namespace Metering

/-- Where a code stands. -/
inductive Outcome where
  | pending
  | succeeded
  | failed (reason : Option Failure)
  deriving DecidableEq, Repr

namespace Outcome

def isPending : Outcome → Bool
  | .pending => true
  | _ => false

def isSuccess : Outcome → Bool
  | .succeeded => true
  | _ => false

def ofResult : Except Failure Unit → Outcome
  | .ok _ => .succeeded
  | .error failure => .failed (some failure)

/-- The result of a completed code; a failure without a reason gets a general one. -/
def result? : Outcome → Option (Except Failure Unit)
  | .pending => none
  | .succeeded => some (.ok ())
  | .failed (some failure) => some (.error failure)
  | .failed none => some (.error .unexplained)

def outline : Outcome → String
  | .pending => "Pending"
  | .succeeded => "Succeeded"
  | .failed reason =>
    Text.Outline.applied "Failed" (Text.Outline.option (reason.map Failure.outline))

end Outcome

namespace Completion

/-- The place of a code among all codes, in the order of their creation. -/
abbrev CodeId := Nat

abbrev FutureId := Nat

/-- An instruction over named codes and futures, as callers and callbacks give them. -/
inductive Command where
  | create (name : String) (outcome : Outcome)
  /-- Names a new code that follows all of the named codes. -/
  | gather (name : String) (children : List String)
  | share (name code : String)
  | forget (name : String)
  | complete (code : String) (outcome : Outcome)
  /-- Passes the outcome of a code on to another one. -/
  | forward (code target : String)
  /-- Records a label and follows instructions when a code completes. -/
  | whenComplete (code label : String) (steps : List Command)
  | await (future code : String)
  /-- Asks a future for its result, leaving a waker with it while there is none. -/
  | poll (future waker : String)
  | forgetFuture (future : String)

/-- What is kept with a pending code and runs when it completes. -/
inductive Callback where
  /-- Tells an aggregate that one of its codes has completed. -/
  | settle (child aggregate : CodeId)
  | forward (source target : CodeId)
  /-- Wakes the waker that the future holds at that time. -/
  | wake (future : FutureId)
  | script (label : String) (steps : List Command)

/-- A code: its outcome, the callbacks kept with it, and for an aggregate how many of its codes
have not reported yet. -/
structure Cell where
  outcome : Outcome
  callbacks : List Callback := []
  awaiting : Nat := 0

/-- A future of a code. Once it is registered with the code it holds at most one waker. -/
structure Future where
  code : CodeId
  registered : Bool := false
  waker : Option String := none

structure Codes where
  cells : List Cell := []
  names : Table String CodeId := .empty
  futures : List Future := []
  futureNames : Table String FutureId := .empty
  /-- The labels of the callbacks that ran, the last one first. -/
  fired : List String := []
  wakes : Table String Nat := .empty

namespace Codes

def empty : Codes := {}

def cell? (codes : Codes) (code : CodeId) : Option Cell := codes.cells[code]?

def outcome (codes : Codes) (code : CodeId) : Outcome :=
  ((codes.cell? code).map (·.outcome)).getD .pending

def setCell (codes : Codes) (code : CodeId) (cell : Cell) : Codes :=
  { codes with cells := codes.cells.set code cell }

def push (codes : Codes) (cell : Cell) : Codes × CodeId :=
  ({ codes with cells := codes.cells ++ [cell] }, codes.cells.length)

def named? (codes : Codes) (name : String) : Option CodeId := codes.names.get? name

def bind (codes : Codes) (name : String) (code : CodeId) : Codes :=
  { codes with names := codes.names.insert name code }

def outline (codes : Codes) (code : CodeId) : String :=
  Text.Outline.fields "ResultCode" [("outcome", (codes.outcome code).outline)]

end Codes

end Completion

end Metering
