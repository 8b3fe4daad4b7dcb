import Mathlib.Data.List.Perm.Basic
import Metering.Proofs.Provider.Isolation

/-!
Collections in flight. A collection reads the clock when it begins, then finds the meters there
are and takes them one after the other: the meter's callbacks run, and then the streams that it has
by then are read one by one. Nothing is locked in between, so between two of these steps there may
be measurements, new instruments and meters, changes of the clock, and steps of other collections,
also for the same reader. What callbacks do is among what happens in between.
-/

namespace Metering

/-- The orders in which a collection takes the meters that it finds, and the streams of a meter. -/
structure Order where
  scopes : List ScopeIdentity := []
  keys : List String := []
  deriving DecidableEq, Repr

/-- How far a collection is. -/
inductive Round.Phase where
  /-- It has read the clock. -/
  | begun
  /-- It is about to read the next meter, whose callbacks run first. -/
  | between
  /-- It has read some streams of a meter and has yet to read others. -/
  | reading (scope : ScopeIdentity) (keys : List String) (metrics : List Metric)
  | over

/-- A collection for the reader at a position. -/
structure Round where
  position : Nat
  /-- What the clock showed at its beginning. -/
  time : UInt64
  phase : Round.Phase := .begun
  /-- The meters that it has yet to read. -/
  ahead : List ScopeIdentity := []
  /-- What it has got of the meters that it has read. -/
  scopes : List ScopeReport := []

namespace Provider

/-- A measurement as it reaches one stream of a meter. -/
def measure (provider : Provider) (now : UInt64) (scope : ScopeIdentity) (key : String)
    (value : Quantity) (attributes : List Attribute) : Provider :=
  match provider.meter? scope with
  | none => provider
  | some meter => provider.setMeter scope (meter.recordInto now value attributes key).1

def streamKeys (provider : Provider) (scope : ScopeIdentity) : List String :=
  ((provider.meter? scope).map (·.streams.keys)).getD []

def stream? (provider : Provider) (scope : ScopeIdentity) (key : String) : Option Stream :=
  (provider.meter? scope).bind fun meter => meter.streams.get? key

/-- Reads one stream of a meter for the reader at a position. -/
def readStream (provider : Provider) (position : Nat) (time : UInt64) (scope : ScopeIdentity)
    (key : String) : Provider × Option Metric :=
  match provider.meter? scope, provider.stream? scope key, provider.collector? position with
  | some meter, some stream, some collector =>
    let (next, metric?) := stream.collect collector time
    (provider.setMeter scope { meter with streams := meter.streams.insert key next }, metric?)
  | _, _, _ => (provider, none)

/-- What is reported of a meter; a meter without metrics is left out. -/
def report? (provider : Provider) (scope : ScopeIdentity) (metrics : List Metric) :
    Option ScopeReport :=
  if metrics.isEmpty then none
  else (provider.meter? scope).map fun meter =>
    { scope := meter.scope, metrics := Metric.sortByName metrics }

theorem of_report? {provider : Provider} {scope : ScopeIdentity} {metrics : List Metric}
    {report : ScopeReport} (made : provider.report? scope metrics = some report) :
    metrics ≠ [] ∧ ∃ meter, provider.meter? scope = some meter ∧
      report = { scope := meter.scope, metrics := Metric.sortByName metrics } := by
  unfold report? at made
  split at made
  next => cases made
  next some_metric =>
    obtain ⟨meter, found, rfl⟩ := Option.map_eq_some_iff.mp made
    exact ⟨fun nothing => some_metric (List.isEmpty_iff.mpr nothing), meter, found, rfl⟩

end Provider

namespace Round

def isOver (round : Round) : Bool :=
  match round.phase with
  | .over => true
  | _ => false

/-- Takes a collection one step further. The orders must be ones of all that is there. -/
def advance (round : Round) (order : Order) (provider : Provider) : Provider × Round :=
  match round.phase, round.ahead with
  | .begun, _ =>
    if order.scopes.Perm provider.registry.components.keys then
      (provider, { round with phase := .between, ahead := order.scopes })
    else (provider, round)
  | .between, [] => (provider.finish round.position round.time, { round with phase := .over })
  | .between, scope :: rest =>
    if order.keys.Perm (provider.streamKeys scope) then
      (provider, { round with phase := .reading scope order.keys [], ahead := rest })
    else (provider, round)
  | .reading scope (key :: rest) metrics, _ =>
    let (provider, metric?) := provider.readStream round.position round.time scope key
    (provider, { round with phase := .reading scope rest (metrics ++ metric?.toList) })
  | .reading scope [] metrics, _ =>
    (provider, { round with
      phase := .between, scopes := round.scopes ++ (provider.report? scope metrics).toList })
  | .over, _ => (provider, round)

/-- What one step does to a collection and the provider. -/
inductive Advanced (provider : Provider) (round : Round) : Provider → Round → Prop where
  | idle : Advanced provider round provider round
  | found (scopes : List ScopeIdentity) (phase : round.phase = .begun)
      (all : scopes.Perm provider.registry.components.keys) :
      Advanced provider round provider { round with phase := .between, ahead := scopes }
  | ended (phase : round.phase = .between) (ahead : round.ahead = []) :
      Advanced provider round (provider.finish round.position round.time)
        { round with phase := .over }
  | entered (scope : ScopeIdentity) (rest : List ScopeIdentity) (keys : List String)
      (phase : round.phase = .between) (ahead : round.ahead = scope :: rest)
      (all : keys.Perm (provider.streamKeys scope)) :
      Advanced provider round provider
        { round with phase := .reading scope keys [], ahead := rest }
  | read (scope : ScopeIdentity) (key : String) (rest : List String) (metrics : List Metric)
      (phase : round.phase = .reading scope (key :: rest) metrics) :
      Advanced provider round
        (provider.readStream round.position round.time scope key).1
        { round with phase := .reading scope rest (metrics ++
            (provider.readStream round.position round.time scope key).2.toList) }
  | left (scope : ScopeIdentity) (metrics : List Metric)
      (phase : round.phase = .reading scope [] metrics) :
      Advanced provider round provider { round with
        phase := .between, scopes := round.scopes ++ (provider.report? scope metrics).toList }

theorem advanced (round : Round) (order : Order) (provider : Provider) :
    Advanced provider round (round.advance order provider).1 (round.advance order provider).2 := by
  unfold advance
  split
  next _ phase =>
    split
    next all => exact .found order.scopes phase all
    next => exact .idle
  next phase ahead => exact .ended phase ahead
  next scope rest phase ahead =>
    split
    next all => exact .entered scope rest order.keys phase ahead all
    next => exact .idle
  next _ scope key rest metrics phase => exact .read scope key rest metrics phase
  next _ scope metrics phase => exact .left scope metrics phase
  next => exact .idle

end Round

/-- A provider with the collections that were begun, oldest first. -/
structure Interleaving where
  provider : Provider
  clock : UInt64
  rounds : List Round := []

/-- What can happen next. -/
inductive Turn where
  | tick (now : UInt64)
  /-- A meter is requested, with the name of its scope settled either first or when needed. -/
  | request (scope : Scope) (named : Bool)
  | create (handle : MeterHandle) (config : InstrumentConfig) (cells : List String)
  | measure (scope : ScopeIdentity) (key : String) (value : Quantity)
      (attributes : List Attribute)
  | reset
  | shutDown
  /-- So many handles of the provider are left. -/
  | hold (handles : Nat)
  /-- A collection begins for the reader at a position. -/
  | begin (position : Nat)
  /-- The collection at an index goes one step further. -/
  | advance (index : Nat) (order : Order)

namespace Interleaving

/-- A provider that is built at a time of the clock. -/
def start (config : ProviderConfig) (built : UInt64)
    (readers : List (Nat × TemporalityChoice × Bool)) : Interleaving :=
  { provider := .build config built readers, clock := built }

/-- Begins a collection, unless the provider or the reader is gone. -/
def begin (state : Interleaving) (position : Nat) : Interleaving :=
  if state.provider.isDropped || (state.provider.collector? position).isNone then state
  else { state with rounds := state.rounds ++ [{ position, time := state.clock }] }

def advance (state : Interleaving) (index : Nat) (order : Order) : Interleaving :=
  match state.rounds[index]? with
  | none => state
  | some round =>
    let (provider, round) := round.advance order state.provider
    { state with provider, rounds := state.rounds.set index round }

def step (state : Interleaving) : Turn → Interleaving
  | .tick now => { state with clock := now }
  | .request scope named =>
    { state with provider :=
        if named then (state.provider.namedMeter scope).1 else (state.provider.meter scope).1 }
  | .create handle config cells =>
    { state with provider := (state.provider.instrument handle config cells).1 }
  | .measure scope key value attributes =>
    { state with provider := state.provider.measure state.clock scope key value attributes }
  | .reset => { state with provider := state.provider.reset }
  | .shutDown => { state with provider := { state.provider with isShutdown := true } }
  | .hold handles => { state with provider := { state.provider with handles } }
  | .begin position => state.begin position
  | .advance index order => state.advance index order

def run (state : Interleaving) (turns : List Turn) : Interleaving := turns.foldl step state

theorem run_append (state : Interleaving) (first second : List Turn) :
    state.run (first ++ second) = (state.run first).run second := List.foldl_append

/-- What every turn keeps holds behind every run. -/
theorem run_keeps (holds : Interleaving → Prop)
    (step : ∀ state turn, holds state → holds (state.step turn)) (state : Interleaving)
    (here : holds state) (turns : List Turn) : holds (state.run turns) := by
  induction turns generalizing state with
  | nil => exact here
  | cons turn rest ih => exact ih (state.step turn) (step state turn here)

/-- Whether a rule allows every turn of a run at its moment. -/
def obeys (rule : Interleaving → Turn → Bool) (state : Interleaving) : List Turn → Bool
  | [] => true
  | turn :: rest => rule state turn && (state.step turn).obeys rule rest

theorem obeys_append (rule : Interleaving → Turn → Bool) (state : Interleaving)
    (first second : List Turn) :
    state.obeys rule (first ++ second) = (state.obeys rule first &&
      (state.run first).obeys rule second) := by
  induction first generalizing state with
  | nil => rfl
  | cons turn rest ih =>
    change (_ && (state.step turn).obeys rule (rest ++ second)) = _
    rw [ih, ← Bool.and_assoc]
    rfl

theorem obeys_left {rule : Interleaving → Turn → Bool} {state : Interleaving}
    {first second : List Turn} (obeyed : state.obeys rule (first ++ second) = true) :
    state.obeys rule first = true := by
  rw [obeys_append, Bool.and_eq_true] at obeyed
  exact obeyed.1

/-- What every turn keeps that a rule allows holds behind every run that obeys the rule. -/
theorem obeys_keeps {rule : Interleaving → Turn → Bool} (holds : Interleaving → Prop)
    (step : ∀ state turn, holds state → state.obeys rule [turn] = true → holds (state.step turn))
    (state : Interleaving) (here : holds state) (turns : List Turn)
    (obeyed : state.obeys rule turns = true) : holds (state.run turns) := by
  induction turns generalizing state with
  | nil => exact here
  | cons turn rest ih =>
    have split := (state.obeys_append rule [turn] rest).symm.trans obeyed
    rw [Bool.and_eq_true] at split
    exact ih (state.step turn) (step state turn here split.1) split.2

/-- Whether the clock never goes back. -/
def steady : Interleaving → List Turn → Bool :=
  obeys fun state turn =>
    match turn with
    | .tick now => state.clock ≤ now
    | _ => true

/-- Whether no two collections of one reader overlap. -/
def serial : Interleaving → List Turn → Bool :=
  obeys fun state turn =>
    match turn with
    | .begin position => state.rounds.all fun round => round.position ≠ position || round.isOver
    | _ => true

/-- When the reader at a position last collected. -/
def stamp? (state : Interleaving) (position : Nat) : Option UInt64 :=
  (state.provider.collector? position).map (·.lastCollect)

end Interleaving

end Metering
