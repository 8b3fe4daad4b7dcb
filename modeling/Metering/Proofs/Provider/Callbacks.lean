import Metering.Proofs.Provider.Owed
import Metering.Proofs.Provider.Registrations

/-!
What callbacks do. A callback measures, creates instruments of its meter and requests meters; all
that it does is a list of turns, each of which may happen at any other time as well. Such turns
leave every stream with what it had and what they measure into it, and a stream that they make with
what they measure into it from then on.
-/

namespace Metering

namespace Event

/-- What is noted of items that change a state one after the other. -/
def journal {σ α β : Type} (change : σ → α → σ × List Event) (noted : σ → α → List β) :
    σ → List α → List β
  | _, [] => []
  | state, item :: rest =>
    noted state item ++ journal change noted (change state item).1 rest

section Journal

variable {σ α β : Type} (change : σ → α → σ × List Event)

theorem forall_journal {noted : σ → α → List β} {holds : β → Prop}
    (each : ∀ state item, ∀ note ∈ noted state item, holds note) (state : σ) (items : List α) :
    ∀ note ∈ journal change noted state items, holds note := by
  induction items generalizing state with
  | nil => nofun
  | cons item rest ih =>
    intro note member
    rcases List.mem_append.mp member with here | later
    · exact each state item note here
    · exact ih _ note later

theorem gather_append (state : σ) (first second : List α) :
    gather change state (first ++ second) =
      let early := gather change state first
      let late := gather change early.1 second
      (late.1, early.2 ++ late.2) := by
  induction first generalizing state with
  | nil => rfl
  | cons item rest ih => simp only [List.cons_append, gather, ih, List.append_assoc]

theorem gather_map (made : β → α) (state : σ) (items : List β) :
    gather change state (items.map made) =
      gather (fun state item => change state (made item)) state items := by
  induction items generalizing state with
  | nil => rfl
  | cons item rest ih => simp only [List.map_cons, gather, ih]

theorem gather_flatMap (parts : β → List α) (state : σ) (items : List β) :
    gather change state (items.flatMap parts) =
      gather (fun state item => gather change state (parts item)) state items := by
  induction items generalizing state with
  | nil => rfl
  | cons item rest ih => simp only [List.flatMap_cons, gather_append, gather, ih]

end Journal

end Event

/-- Whether a turn is one that the callbacks of a scope's meter can bring about. -/
def Turn.ByCallback (scope : ScopeIdentity) : Turn → Prop
  | .create handle _ _ => handle = some scope
  | .measure _ _ _ _ | .request _ _ => True
  | _ => False

/-- What a turn measures into a stream. -/
def Turn.measured? (scope : ScopeIdentity) (key : String) :
    Turn → Option (Quantity × List Attribute)
  | .measure other name value attributes =>
    if other = scope ∧ name = key then some (value, attributes) else none
  | _ => none

namespace Provider

/-- The turns that come of measuring with an instrument. -/
def recordTurns (provider : Provider) (handle : MeterHandle) (instrument : Instrument)
    (reading : Reading) (attributes : List Attribute) : List Turn :=
  (provider.measures handle instrument reading).map fun (scope, key, value) =>
    .measure scope key value attributes

def actTurns (provider : Provider) (scope : ScopeIdentity) (observer : Observer) :
    Action → List Turn
  | .observe reading attributes =>
    provider.recordTurns (some scope) observer.instrument reading attributes
  | .create config reading attributes =>
    let (next, instrument, _) := provider.instrument (some scope) config []
    .create (some scope) config [] ::
      next.recordTurns (some scope) instrument reading attributes
  | .register config cells => [.create (some scope) config cells]
  | .record handle instrument reading attributes =>
    provider.recordTurns handle instrument reading attributes
  | .request asked => [.request asked true]

section Calls

variable (now : UInt64) (cells : Cells) (scope : ScopeIdentity)

def call (provider : Provider) (callback : Callback) : Provider × List Event :=
  provider.runCell now cells scope callback.1 callback.2

/-- What a callback does. -/
def callTurns (provider : Provider) (callback : Callback) : List Turn :=
  Event.journal (fun provider action => provider.act now scope callback.1 action)
    (fun provider action => provider.actTurns scope callback.1 action) provider
    ((cells.get? callback.2).getD [])

/-- What callbacks do that are called one after the other. -/
def callsTurns (provider : Provider) (callbacks : List Callback) : List Turn :=
  Event.journal (call now cells scope) (callTurns now cells scope) provider callbacks

variable (provider : Provider)

/-- The callbacks of a meter are called one after the other. -/
theorem runObservers_eq : provider.runObservers now cells scope =
    Event.gather (call now cells scope) provider (provider.callbacks scope) := by
  have listed : provider.callbacks scope =
      (provider.observers scope).flatMap Observer.callbacks := by
    unfold callbacks observers
    cases provider.meter? scope <;> rfl
  have each : ∀ (provider : Provider) observer, provider.runObserver now cells scope observer =
      Event.gather (call now cells scope) provider observer.callbacks := by
    intro provider observer
    rw [Observer.callbacks, Event.gather_map]
    rfl
  rw [listed, Event.gather_flatMap]
  simp only [runObservers, each]

theorem byCallback_recordTurns (handle : MeterHandle) (instrument : Instrument)
    (reading : Reading) (attributes : List Attribute) :
    ∀ turn ∈ provider.recordTurns handle instrument reading attributes,
      turn.ByCallback scope := by
  intro turn member
  obtain ⟨_, _, rfl⟩ := List.mem_map.mp member
  trivial

theorem byCallback_actTurns (observer : Observer) (action : Action) :
    ∀ turn ∈ provider.actTurns scope observer action, turn.ByCallback scope := by
  cases action with
  | observe reading attributes => exact byCallback_recordTurns scope provider _ _ _ _
  | create config reading attributes =>
    exact List.forall_mem_cons.mpr ⟨rfl, byCallback_recordTurns scope _ _ _ _ _⟩
  | register config cells => exact List.forall_mem_singleton.mpr rfl
  | record handle instrument reading attributes =>
    exact byCallback_recordTurns scope provider _ _ _ _
  | request asked => exact List.forall_mem_singleton.mpr trivial

theorem byCallback_callsTurns (callbacks : List Callback) :
    ∀ turn ∈ provider.callsTurns now cells scope callbacks, turn.ByCallback scope := by
  refine Event.forall_journal _ (fun provider callback => ?_) provider callbacks
  refine Event.forall_journal _ (fun provider action => ?_) provider _
  exact byCallback_actTurns scope provider callback.1 action

end Calls

end Provider

namespace Interleaving

section Journal

variable {now : UInt64} {rounds : List Round}

/-- If the turns that are noted of every item do what the item does, those that are noted of all
items do what all items do. -/
theorem run_journal {α : Type} {change : Provider → α → Provider × List Event}
    {noted : Provider → α → List Turn} (each : ∀ provider item,
      run ⟨provider, now, rounds⟩ (noted provider item) = ⟨(change provider item).1, now, rounds⟩)
    (provider : Provider) (items : List α) :
    run ⟨provider, now, rounds⟩ (Event.journal change noted provider items) =
      ⟨(Event.gather change provider items).1, now, rounds⟩ := by
  induction items generalizing provider with
  | nil => rfl
  | cons item rest ih =>
    rw [Event.journal, run_append, each, ih]
    rfl

variable (provider : Provider)

theorem run_measures (scope : ScopeIdentity) (value : Quantity) (attributes : List Attribute)
    (keys : List String) {meter : Meter} (found : provider.meter? scope = some meter) :
    run ⟨provider, now, rounds⟩ (keys.map fun key => .measure scope key value attributes) =
      ⟨provider.setMeter scope (Event.gather (fun meter key =>
        meter.recordInto now value attributes key) meter keys).1, now, rounds⟩ := by
  induction keys generalizing provider meter with
  | nil => exact congrArg (Interleaving.mk · now rounds) (provider.setMeter_found found).symm
  | cons key rest ih =>
    let measured := (meter.recordInto now value attributes key).1
    have first : step ⟨provider, now, rounds⟩ (.measure scope key value attributes) =
        ⟨provider.setMeter scope measured, now, rounds⟩ := by
      rw [step, Provider.measure, found]
    have later := ih (provider.setMeter scope measured) (provider.meter?_setMeter scope measured)
    rw [provider.setMeter_setMeter] at later
    change run (step _ _) _ = _
    rw [first]
    exact later

theorem run_recordTurns (handle : MeterHandle) (instrument : Instrument) (reading : Reading)
    (attributes : List Attribute) :
    run ⟨provider, now, rounds⟩ (provider.recordTurns handle instrument reading attributes) =
      ⟨(provider.record now handle instrument reading attributes).1, now, rounds⟩ := by
  unfold Provider.recordTurns Provider.measures Provider.record
  cases found : handle.bind fun scope => (provider.meter? scope).map (scope, ·) with
  | none => rfl
  | some pair =>
    obtain ⟨scope, meter⟩ := pair
    have there := (Provider.of_found found).2
    simp only [List.map_map]
    exact run_measures provider scope _ attributes instrument.streams there

theorem run_actTurns (scope : ScopeIdentity) (observer : Observer) (action : Action) :
    run ⟨provider, now, rounds⟩ (provider.actTurns scope observer action) =
      ⟨(provider.act now scope observer action).1, now, rounds⟩ := by
  cases action with
  | observe reading attributes => exact run_recordTurns provider ..
  | create config reading attributes => exact run_recordTurns _ _ _ _ _
  | register config cells => rfl
  | record handle instrument reading attributes => exact run_recordTurns provider ..
  | request asked => rfl

/-- What is noted of callbacks is all that they do. -/
theorem run_callsTurns (cells : Cells) (scope : ScopeIdentity) (callbacks : List Callback) :
    run ⟨provider, now, rounds⟩ (provider.callsTurns now cells scope callbacks) =
      ⟨(Event.gather (Provider.call now cells scope) provider callbacks).1, now, rounds⟩ := by
  refine run_journal (fun provider callback => ?_) provider callbacks
  refine run_journal (fun provider action => ?_) provider _
  exact run_actTurns provider scope callback.1 action

end Journal

end Interleaving

/-- Takes measurements at one time, one after the other. -/
def Stream.recordEach (now : UInt64) (stream : Stream)
    (measured : List (Quantity × List Attribute)) : Stream :=
  measured.foldl (fun stream given => (stream.record now given.1 given.2).1) stream

theorem Stream.recordEach_append (now : UInt64) (stream : Stream)
    (first second : List (Quantity × List Attribute)) :
    stream.recordEach now (first ++ second) =
      (stream.recordEach now first).recordEach now second :=
  List.foldl_append

/-- What turns measure into a stream, one after the other. -/
def Turn.measuredInto (scope : ScopeIdentity) (key : String) (turns : List Turn) :
    List (Quantity × List Attribute) :=
  turns.filterMap (Turn.measured? scope key)

theorem Turn.measuredInto_cons (scope : ScopeIdentity) (key : String) (turn : Turn)
    (rest : List Turn) : measuredInto scope key (turn :: rest) =
      (turn.measured? scope key).toList ++ measuredInto scope key rest := by
  unfold measuredInto
  cases measured : turn.measured? scope key with
  | none => rw [List.filterMap_cons_none measured]; rfl
  | some given => rw [List.filterMap_cons_some measured]; rfl

namespace Provider

variable (provider : Provider) (scope : ScopeIdentity) (key : String)

theorem stream?_setMeter (other : ScopeIdentity) (meter : Meter) :
    (provider.setMeter other meter).stream? scope key =
      if scope = other then meter.streams.get? key else provider.stream? scope key := by
  have found : (provider.setMeter other meter).meter? scope =
      if scope = other then some meter else provider.meter? scope := Table.get?_insert ..
  rw [stream?, found]
  split <;> rfl

theorem stream?_meter (asked : Scope) :
    (provider.meter asked).1.stream? scope key = provider.stream? scope key := by
  rcases provider.meter_cases asked with same | ⟨absent, next⟩
  · rw [same]
  · rw [next, stream?_setMeter]
    split
    next same =>
      rw [stream?, same, absent]
      rfl
    next => rfl

theorem stream?_measure (now : UInt64) (other : ScopeIdentity) (name : String)
    (value : Quantity) (attributes : List Attribute) :
    (provider.measure now other name value attributes).stream? scope key =
      if other = scope ∧ name = key then
        (provider.stream? scope key).map fun stream => (stream.record now value attributes).1
      else provider.stream? scope key := by
  cases found : provider.meter? other with
  | none =>
    simp only [measure, found]
    split
    next same =>
      have missing : provider.stream? scope key = none := by
        rw [stream?, ← same.1, found]
        rfl
      rw [missing]
      rfl
    next => rfl
  | some meter =>
    simp only [measure, found]
    rw [stream?_setMeter]
    by_cases own : scope = other
    · subst own
      have here : provider.stream? scope key = meter.streams.get? key := by
        rw [stream?, found]
        rfl
      rw [if_pos rfl, Meter.get?_recordInto, here]
      by_cases same : key = name <;> simp [same, Ne.symm]
    · simp [own, Ne.symm own]

/-- The stream that creating an instrument makes, unless there is one of its name. -/
def makes? (handle : MeterHandle) (config : InstrumentConfig) : Option Stream :=
  if handle = some scope then
    (provider.meter? scope).bind fun meter =>
      ((meter.asked provider.shared config).find? fun definition => definition.key = key).map
        provider.shared.create
  else none

theorem stream?_instrument (handle : MeterHandle) (config : InstrumentConfig)
    (cells : List String) : (provider.instrument handle config cells).1.stream? scope key =
      (provider.stream? scope key).or (provider.makes? scope key handle config) := by
  unfold instrument makes?
  cases handle with
  | none => simp
  | some other =>
    cases found : provider.meter? other with
    | none =>
      by_cases own : other = scope
      · subst own
        simp [found]
      · simp [found, own]
    | some meter =>
      have streams : (meter.instrument provider.shared config cells).1.streams =
          (meter.resolve provider.shared config).1.streams := by
        unfold Meter.instrument
        dsimp only
        split <;> rfl
      simp only [Option.bind_some, found, Option.map_some]
      rw [stream?_setMeter]
      by_cases own : scope = other
      · subst own
        rw [if_pos rfl, if_pos rfl, streams, Meter.get?_resolve, stream?, found]
        rfl
      · simp [own, Ne.symm own]

end Provider

namespace Interleaving

/-- The stream that a turn makes, unless there is one of its name. -/
def makes? (state : Interleaving) (scope : ScopeIdentity) (key : String) : Turn → Option Stream
  | .create handle config _ => state.provider.makes? scope key handle config
  | _ => none

section Streams

variable {own : ScopeIdentity} (state : Interleaving) (scope : ScopeIdentity) (key : String)

/-- What callbacks do leaves every stream with what it measures into it, and may make a stream. -/
theorem stream?_step {turn : Turn} (inside : turn.ByCallback own) :
    (state.step turn).provider.stream? scope key =
      ((state.provider.stream? scope key).map fun stream =>
        stream.recordEach state.clock (turn.measured? scope key).toList).or
          (state.makes? scope key turn) := by
  have unmeasured : ((state.provider.stream? scope key).map fun stream : Stream =>
      stream.recordEach state.clock []) = state.provider.stream? scope key := Option.map_id'
  cases turn with
  | create handle config cells =>
    refine (state.provider.stream?_instrument scope key handle config cells).trans ?_
    exact congrArg (Option.or · _) unmeasured.symm
  | request asked named =>
    refine Eq.trans ?_ ((Option.or_none).trans unmeasured).symm
    cases named with
    | true => exact state.provider.stream?_meter scope key (Provider.nameScope asked).1
    | false => exact state.provider.stream?_meter scope key asked
  | measure other name value attributes =>
    refine (state.provider.stream?_measure scope key state.clock other name value
      attributes).trans ?_
    refine Eq.trans ?_ Option.or_none.symm
    by_cases here : other = scope ∧ name = key
    · simp only [Turn.measured?, if_pos here]
      rfl
    · simp only [Turn.measured?, if_neg here]
      exact unmeasured.symm
  | _ => cases inside

theorem clock_step {turn : Turn} (inside : turn.ByCallback own) :
    (state.step turn).clock = state.clock := by
  cases turn <;> first | rfl | cases inside

variable {turns : List Turn} (inside : ∀ turn ∈ turns, turn.ByCallback own)
include inside

/-- A stream gets all that callbacks measure into it. -/
theorem stream?_run {stream : Stream} (found : state.provider.stream? scope key = some stream) :
    (state.run turns).provider.stream? scope key =
      some (stream.recordEach state.clock (Turn.measuredInto scope key turns)) := by
  induction turns generalizing state stream with
  | nil => exact found
  | cons turn rest ih =>
    rw [List.forall_mem_cons] at inside
    have next := state.stream?_step scope key inside.1
    rw [found, Option.map_some, Option.some_or] at next
    have later := ih (state.step turn) inside.2 next
    rw [state.clock_step inside.1, ← Stream.recordEach_append, ← Turn.measuredInto_cons] at later
    exact later

/-- A stream that callbacks make gets all that they measure into it from then on. -/
theorem made_of_stream?_run (absent : state.provider.stream? scope key = none) {stream : Stream}
    (found : (state.run turns).provider.stream? scope key = some stream) :
    ∃ before turn after made, turns = before ++ turn :: after ∧
      (state.run before).makes? scope key turn = some made ∧
      stream = made.recordEach state.clock (Turn.measuredInto scope key after) := by
  induction turns generalizing state with
  | nil =>
    change state.provider.stream? scope key = some stream at found
    rw [absent] at found
    cases found
  | cons turn rest ih =>
    rw [List.forall_mem_cons] at inside
    have next := state.stream?_step scope key inside.1
    rw [absent, Option.map_none, Option.none_or] at next
    cases made : state.makes? scope key turn with
    | some new =>
      have later := stream?_run (state.step turn) scope key inside.2 (next.trans made)
      rw [state.clock_step inside.1] at later
      exact ⟨[], turn, rest, new, rfl, made, Option.some.inj (found.symm.trans later)⟩
    | none =>
      obtain ⟨before, last, after, new, rfl, made, content⟩ :=
        ih (state.step turn) inside.2 (next.trans made) found
      rw [state.clock_step inside.1] at content
      exact ⟨turn :: before, last, after, new, rfl, made, content⟩

end Streams

/-- Callbacks register others with their own meter only. -/
theorem scope_of_mem_registered {own : ScopeIdentity} (state : Interleaving) {turns : List Turn}
    (inside : ∀ turn ∈ turns, turn.ByCallback own) {pair : ScopeIdentity × Callback}
    (member : pair ∈ state.registered turns) : pair.1 = own := by
  induction turns generalizing state with
  | nil => cases member
  | cons turn rest ih =>
    rw [List.forall_mem_cons] at inside
    rcases List.mem_append.mp member with here | later
    · cases turn with
      | create handle config cells =>
        change pair ∈ state.provider.registers handle config cells at here
        unfold Provider.registers at here
        split at here
        next => cases here
        next scope meter found =>
          obtain ⟨_, _, rfl⟩ := List.mem_map.mp here
          exact Option.some.inj ((Provider.of_found found).1.symm.trans inside.1)
      | _ => cases here
    · exact ih (state.step turn) inside.2 later

end Interleaving

end Metering
