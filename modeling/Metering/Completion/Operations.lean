import Metering.Completion.Basic

/-!
How codes complete. A thread works on a stack of tasks, each of them one indivisible action: to set
the outcome of a pending code and take its callbacks, to register a callback, to read an outcome,
to count one report of an aggregate, to take or wake a waker. A task may put further tasks on top
of the stack. Every step makes the total weight of the tasks and of the callbacks still kept with
codes smaller, so every stack is worked off after finitely many steps; `drain` takes that many.

The operations on codes are those of a single thread: every callback that an operation sets free
has run when the operation returns.
-/

namespace Metering.Completion

/-- One indivisible action of a thread. -/
inductive Task where
  | complete (code : CodeId) (outcome : Outcome)
  | register (code : CodeId) (callback : Callback)
  | settle (child aggregate : CodeId)
  | discount (aggregate : CodeId)
  | forward (source target : CodeId)
  | takeWaker (future : FutureId)
  | wake (waker : String)
  | fire (label : String)
  | follow (command : Command)

def Callback.tasks : Callback → List Task
  | .settle child aggregate => [.settle child aggregate]
  | .forward source target => [.forward source target]
  | .wake future => [.takeWaker future]
  | .script label steps => .fire label :: steps.map .follow

mutual

/-- How many steps an instruction can take altogether. -/
def Command.weight : Command → Nat
  | .gather _ children => 1 + 5 * children.length
  | .complete _ _ => 2
  | .forward _ _ => 4
  | .whenComplete _ _ steps => 3 + Command.totalWeight steps
  | .poll _ _ => 3
  | _ => 1

def Command.totalWeight : List Command → Nat
  | [] => 0
  | command :: rest => command.weight + Command.totalWeight rest

end

def total {α : Type} (weight : α → Nat) : List α → Nat
  | [] => 0
  | item :: rest => weight item + total weight rest

def Callback.weight : Callback → Nat
  | .settle _ _ => 4
  | .forward _ _ => 2
  | .wake _ => 2
  | .script _ steps => 1 + Command.totalWeight steps

/-- How many steps a task can take, not counting the callbacks that it sets free. -/
def Task.weight : Task → Nat
  | .complete _ _ => 1
  | .register _ callback => 1 + callback.weight
  | .settle _ _ => 4
  | .discount _ => 2
  | .forward _ _ => 2
  | .takeWaker _ => 2
  | .wake _ => 1
  | .fire _ => 1
  | .follow command => command.weight

def Cell.weight (cell : Cell) : Nat := total Callback.weight cell.callbacks

def Codes.weight (codes : Codes) : Nat := total Cell.weight codes.cells

namespace Codes

/-- Sets the outcome of a pending code and takes its callbacks; a completed code stays as it is. -/
def complete (codes : Codes) (code : CodeId) (outcome : Outcome) : Codes × List Task :=
  match codes.cell? code with
  | none => (codes, [])
  | some cell =>
    if cell.outcome.isPending && !outcome.isPending then
      (codes.setCell code { cell with outcome, callbacks := [] },
        cell.callbacks.flatMap Callback.tasks)
    else (codes, [])

/-- Keeps a callback with a pending code; with a completed code it runs at once. -/
def register (codes : Codes) (code : CodeId) (callback : Callback) : Codes × List Task :=
  match codes.cell? code with
  | none => (codes, [])
  | some cell =>
    if cell.outcome.isPending then
      (codes.setCell code { cell with callbacks := cell.callbacks ++ [callback] }, [])
    else (codes, callback.tasks)

/-- Counts one report of an aggregate, which has succeeded when it was the last. -/
def discount (codes : Codes) (aggregate : CodeId) : Codes × List Task :=
  match codes.cell? aggregate with
  | none => (codes, [])
  | some cell =>
    (codes.setCell aggregate { cell with awaiting := cell.awaiting - 1 },
      if cell.awaiting = 1 then [.complete aggregate .succeeded] else [])

/-- Adds a code that follows all of the given codes, and answers the registrations this takes.
With no codes to follow it has succeeded from the start. -/
def gather (codes : Codes) (children : List CodeId) : Codes × CodeId × List Task :=
  let cell : Cell :=
    if children.isEmpty then { outcome := .succeeded }
    else { outcome := .pending, awaiting := children.length }
  let (codes, aggregate) := codes.push cell
  (codes, aggregate, children.map fun child => .register child (.settle child aggregate))

def takeWaker (codes : Codes) (future : FutureId) : Codes × List Task :=
  match codes.futures[future]? with
  | none => (codes, [])
  | some held =>
    ({ codes with futures := codes.futures.set future { held with waker := none } },
      match held.waker with
      | none => []
      | some waker => [.wake waker])

/-- Asks a future for the result of its code. While the code is pending the waker is left with the
future, which registers with the code the first time. -/
def poll (codes : Codes) (future : FutureId) (waker : String) :
    Codes × Option (Except Failure Unit) :=
  match codes.futures[future]? with
  | none => (codes, none)
  | some held =>
    match (codes.outcome held.code).result? with
    | some result => (codes, some result)
    | none =>
      let codes := { codes with
        futures := codes.futures.set future { held with registered := true, waker := some waker } }
      match held.registered, codes.cell? held.code with
      | false, some cell =>
        (codes.setCell held.code
          { cell with callbacks := cell.callbacks ++ [.wake future] }, none)
      | _, _ => (codes, none)

/-- Looks up what an instruction names, makes the changes that only concern names, and answers the
tasks that remain. -/
def follow (codes : Codes) : Command → Codes × List Task
  | .create name outcome =>
    let (codes, code) := codes.push { outcome }
    (codes.bind name code, [])
  | .gather name children =>
    let (codes, aggregate, tasks) := codes.gather (children.filterMap codes.named?)
    (codes.bind name aggregate, tasks)
  | .share name code =>
    match codes.named? code with
    | none => (codes, [])
    | some id => (codes.bind name id, [])
  | .forget name => ({ codes with names := codes.names.erase name }, [])
  | .complete code outcome => (codes, ((codes.named? code).map (.complete · outcome)).toList)
  | .forward code target =>
    match codes.named? code, codes.named? target with
    | some source, some target => (codes, [.register source (.forward source target)])
    | _, _ => (codes, [])
  | .whenComplete code label steps =>
    (codes, ((codes.named? code).map (.register · (.script label steps))).toList)
  | .await future code =>
    match codes.named? code with
    | none => (codes, [])
    | some code =>
      ({ codes with
          futures := codes.futures ++ [{ code }]
          futureNames := codes.futureNames.insert future codes.futures.length }, [])
  | .poll future waker =>
    let codes := { codes with
      wakes := codes.wakes.insert waker ((codes.wakes.get? waker).getD 0) }
    match codes.futureNames.get? future with
    | none => (codes, [])
    | some future => ((codes.poll future waker).1, [])
  | .forgetFuture future => ({ codes with futureNames := codes.futureNames.erase future }, [])

/-- Carries out one task and answers the tasks to carry out next. -/
def step (codes : Codes) : Task → Codes × List Task
  | .complete code outcome => codes.complete code outcome
  | .register code callback => codes.register code callback
  | .settle child aggregate =>
    match codes.outcome child with
    | .failed reason => (codes, [.complete aggregate (.failed reason), .discount aggregate])
    | _ => (codes, [.discount aggregate])
  | .discount aggregate => codes.discount aggregate
  | .forward source target => (codes, [.complete target (codes.outcome source)])
  | .takeWaker future => codes.takeWaker future
  | .wake waker =>
    ({ codes with wakes := codes.wakes.insert waker ((codes.wakes.get? waker).getD 0 + 1) }, [])
  | .fire label => ({ codes with fired := label :: codes.fired }, [])
  | .follow command => codes.follow command

/-- Works off a stack of tasks for at most `fuel` steps. -/
def drainFor : Nat → Codes → List Task → Codes × List Task
  | 0, codes, tasks => (codes, tasks)
  | _ + 1, codes, [] => (codes, [])
  | fuel + 1, codes, task :: rest =>
    let (codes, next) := codes.step task
    drainFor fuel codes (next ++ rest)

def drain (codes : Codes) (tasks : List Task) : Codes :=
  (drainFor (codes.weight + total Task.weight tasks) codes tasks).1

end Codes

/-- Several threads at work on the same codes, each with its stack of tasks. -/
structure Threads where
  codes : Codes
  todo : List (List Task)

def Threads.step (threads : Threads) (thread : Nat) : Threads :=
  match threads.todo[thread]? with
  | some (task :: rest) =>
    let (codes, next) := threads.codes.step task
    { codes, todo := threads.todo.set thread (next ++ rest) }
  | _ => threads

namespace Codes

def create (codes : Codes) (outcome : Outcome) : Codes × CodeId := codes.push { outcome }

/-- Completes a code, if it is still pending. -/
def settle (codes : Codes) (code : CodeId) (outcome : Outcome) : Codes :=
  codes.drain [.complete code outcome]

/-- Adds a code that fails as soon as one of the given codes fails, and succeeds once all of them
have succeeded. -/
def allOf (codes : Codes) (children : List CodeId) : Codes × CodeId :=
  let (codes, aggregate, tasks) := codes.gather children
  (codes.drain tasks, aggregate)

/-- Completes `target` with the outcome of `source` once `source` completes. -/
def forwardTo (codes : Codes) (source target : CodeId) : Codes :=
  codes.drain [.register source (.forward source target)]

def run (codes : Codes) (command : Command) : Codes := codes.drain [.follow command]

def pollNamed (codes : Codes) (future waker : String) : Codes × Option (Except Failure Unit) :=
  let answer := (codes.futureNames.get? future).bind fun id => (codes.poll id waker).2
  (codes.run (.poll future waker), answer)

/-- Waits for a named code while another thread follows an instruction after `delay`. Answers the
codes once both are done, and whether the code had succeeded when the wait of at most `limit`
ended. The name is looked up before the wait: the other thread may give it to another code. -/
def join (codes : Codes) (code : String) (limit : Span) (other : Option (Span × Command)) :
    Codes × Bool :=
  let awaited := codes.named? code
  let succeeded (codes : Codes) : Bool := (awaited.map codes.outcome).any Outcome.isSuccess
  match other with
  | none => (codes, succeeded codes)
  | some (delay, command) =>
    let later := codes.run command
    (later, if delay.nanos < limit.nanos then succeeded later else succeeded codes)

end Codes

end Metering.Completion
