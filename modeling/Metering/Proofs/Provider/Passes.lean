import Metering.Proofs.Meter.Names
import Metering.Proofs.Provider.Callbacks

/-!
The course of a meter's collection. The callbacks that the meter has at the beginning are called,
each once and in the order of their registration, and no others; after the last of them the streams
that the meter has by then are read. So what callbacks measure is reported by the very collection
that has called them, and the callbacks that they register are first called by the next one.
-/

namespace Metering

/-- A collection of one meter, for the reader at a position. -/
structure Pass where
  cells : Cells
  position : Nat
  time : UInt64
  scope : ScopeIdentity

/-- One thing that a collection of a meter does. -/
inductive Moment where
  | call (callback : Callback)
  | read (key : String)

namespace Provider

theorem Amended.collector? {provider next : Provider} (amended : provider.Amended next)
    (position : Nat) : next.collector? position = provider.collector? position := by
  rw [Provider.collector?, amended.bindings]
  rfl

section Reading

variable {provider : Provider} {scope : ScopeIdentity} {meter : Meter} {position : Nat}
  {collector : Collector} (time : UInt64)

/-- Reading a stream puts what it leaves in its place. -/
theorem readStream_middle (before rest : List (String × Stream)) (key : String) (stream : Stream)
    (apart : ((before ++ (key, stream) :: rest).map (·.1)).Nodup)
    (found : provider.meter? scope =
      some { meter with streams := ⟨before ++ (key, stream) :: rest⟩ })
    (reader : provider.collector? position = some collector) :
    provider.readStream position time scope key =
      (provider.setMeter scope { meter with streams :=
        ⟨before ++ (key, (stream.collect collector time).1) :: rest⟩ },
        (stream.collect collector time).2) := by
  have absent : key ∉ before.map (·.1) := by
    rw [List.map_append, List.map_cons, List.nodup_append] at apart
    exact fun member => apart.2.2 key member key List.mem_cons_self rfl
  have listed : provider.stream? scope key = some stream := by
    rw [stream?, found, Option.bind_some]
    exact (Table.get?_eq_some_iff _ apart key stream).mpr
      (List.mem_append_right _ List.mem_cons_self)
  unfold readStream
  rw [found, listed, reader]
  dsimp only
  rw [Table.insert_middle before key stream _ rest absent]

/-- What reading a meter comes to. -/
theorem readMeter_found (found : provider.meter? scope = some meter)
    (reader : provider.collector? position = some collector) :
    let later := provider.setMeter scope { meter with streams :=
      ⟨meter.streams.entries.map fun entry => (entry.1, (entry.2.collect collector time).1)⟩ }
    provider.readMeter position time scope = (later, later.report? scope
      (meter.streams.entries.filterMap fun entry => (entry.2.collect collector time).2)) := by
  intro later
  let metrics := meter.streams.entries.filterMap fun entry => (entry.2.collect collector time).2
  have streams : provider.setMeter scope (meter.read collector time).1 = later := by
    simp only [later, Meter.read, List.map_map]
    rfl
  have sorted : (meter.read collector time).2 = Metric.sortByName metrics :=
    meter.metrics_read collector time
  have empty : (Metric.sortByName metrics).isEmpty = metrics.isEmpty :=
    (Metric.perm_sortByName metrics).isEmpty_eq
  have there : later.meter? scope = some _ := provider.meter?_setMeter scope _
  rw [readMeter, found, reader, report?, there]
  dsimp only
  rw [streams, sorted, empty]
  rfl

end Reading

section Moments

variable (pass : Pass) (provider : Provider)

/-- What one moment of a collection does, gets and logs. -/
def enact (provider : Provider) : Moment → Provider × List Metric × List Event
  | .call callback =>
    let (next, events) := provider.call pass.time pass.cells pass.scope callback
    (next, [], events)
  | .read key =>
    let (next, metric?) := provider.readStream pass.position pass.time pass.scope key
    (next, metric?.toList, [])

/-- What moments do one after the other. -/
def enactAll (provider : Provider) : List Moment → Provider × List Metric × List Event
  | [] => (provider, [], [])
  | moment :: rest =>
    let (next, metrics, events) := provider.enact pass moment
    let (last, others, later) := next.enactAll rest
    (last, metrics ++ others, events ++ later)

theorem enactAll_append (first second : List Moment) :
    provider.enactAll pass (first ++ second) =
      let early := provider.enactAll pass first
      let late := early.1.enactAll pass second
      (late.1, early.2.1 ++ late.2.1, early.2.2 ++ late.2.2) := by
  induction first generalizing provider with
  | nil => rfl
  | cons moment rest ih => simp only [List.cons_append, enactAll, ih, List.append_assoc]

theorem enactAll_calls (callbacks : List Callback) :
    provider.enactAll pass (callbacks.map .call) =
      let called := Event.gather (call pass.time pass.cells pass.scope) provider callbacks
      (called.1, [], called.2) := by
  induction callbacks generalizing provider with
  | nil => rfl
  | cons callback rest ih =>
    simp only [List.map_cons, enactAll, enact, ih, Event.gather, List.append_nil]

section Reading

variable {provider} {meter : Meter} {collector : Collector}

/-- Streams are read one by one until none is left. -/
theorem enactAll_entries (before rest : List (String × Stream))
    (apart : ((before ++ rest).map (·.1)).Nodup)
    (found : provider.meter? pass.scope = some { meter with streams := ⟨before ++ rest⟩ })
    (reader : provider.collector? pass.position = some collector) :
    provider.enactAll pass ((rest.map (·.1)).map .read) =
      (provider.setMeter pass.scope { meter with streams := ⟨before ++ rest.map fun entry =>
          (entry.1, (entry.2.collect collector pass.time).1)⟩ },
        rest.filterMap fun entry => (entry.2.collect collector pass.time).2, []) := by
  induction rest generalizing provider before with
  | nil => exact congrArg (·, [], []) (provider.setMeter_found found).symm
  | cons entry rest ih =>
    obtain ⟨key, stream⟩ := entry
    let next := (stream.collect collector pass.time).1
    let later := provider.setMeter pass.scope
      { meter with streams := ⟨before ++ (key, next) :: rest⟩ }
    have split : before ++ (key, next) :: rest = before ++ [(key, next)] ++ rest :=
      List.append_cons before (key, next) rest
    have same_keys : (before ++ (key, next) :: rest).map (·.1) =
        (before ++ (key, stream) :: rest).map (·.1) := by simp
    have there : later.meter? pass.scope = some { meter with streams := ⟨before ++ _ :: rest⟩ } :=
      provider.meter?_setMeter pass.scope _
    have second := @ih later (before ++ [(key, next)]) (by rw [← split, same_keys]; exact apart)
      (by rw [← split]; exact there) reader
    rw [provider.setMeter_setMeter, List.append_assoc before] at second
    rw [List.map_cons, List.map_cons, enactAll, enact,
      readStream_middle pass.time before rest key stream apart found reader]
    dsimp only
    rw [second, List.filterMap_cons]
    cases (stream.collect collector pass.time).2 <;> rfl

theorem enactAll_unread (nobody : provider.collector? pass.position = none)
    (keys : List String) : provider.enactAll pass (keys.map .read) = (provider, [], []) := by
  have unread : ∀ key,
      provider.readStream pass.position pass.time pass.scope key = (provider, none) := by
    intro key
    unfold readStream
    rw [nobody]
    cases provider.meter? pass.scope <;> cases provider.stream? pass.scope key <;> rfl
  induction keys with
  | nil => rfl
  | cons key rest ih =>
    rw [List.map_cons, enactAll, enact, unread]
    dsimp only
    rw [ih]
    rfl

/-- Reading a meter is reading its streams one after the other. -/
theorem readMeter_eq {meets : Stream → Prop} (sound : provider.Sound meets) :
    let read := provider.enactAll pass ((provider.streamKeys pass.scope).map .read)
    provider.readMeter pass.position pass.time pass.scope =
        (read.1, read.1.report? pass.scope read.2.1) ∧ read.2.2 = [] := by
  cases found : provider.meter? pass.scope with
  | none =>
    have keys : provider.streamKeys pass.scope = [] := by
      rw [streamKeys, found]
      rfl
    rw [keys, readMeter, found]
    exact ⟨rfl, rfl⟩
  | some meter =>
    cases reader : provider.collector? pass.position with
    | none =>
      rw [enactAll_unread pass reader, readMeter, found, reader]
      exact ⟨rfl, rfl⟩
    | some collector =>
      have keys : provider.streamKeys pass.scope = meter.streams.entries.map (·.1) := by
        rw [streamKeys, found]
        rfl
      have entries := enactAll_entries pass [] meter.streams.entries
        (sound.found found).streams.distinct found reader
      rw [keys, entries, readMeter_found pass.time found reader]
      exact ⟨rfl, rfl⟩

/-- What reading gets of a meter are the metrics of its streams as they are at the beginning. -/
theorem metrics_enactAll {meets : Stream → Prop} (sound : provider.Sound meets)
    (reader : provider.collector? pass.position = some collector) :
    (provider.enactAll pass ((provider.streamKeys pass.scope).map .read)).2.1 =
      (provider.streamKeys pass.scope).filterMap fun key =>
        (provider.stream? pass.scope key).bind fun stream =>
          (stream.collect collector pass.time).2 := by
  cases found : provider.meter? pass.scope with
  | none =>
    have keys : provider.streamKeys pass.scope = [] := by
      rw [streamKeys, found]
      rfl
    rw [keys]
    rfl
  | some meter =>
    have distinct := (sound.found found).streams.distinct
    have keys : provider.streamKeys pass.scope = meter.streams.entries.map (·.1) := by
      rw [streamKeys, found]
      rfl
    have entries := enactAll_entries pass [] meter.streams.entries distinct found reader
    rw [keys, entries, List.filterMap_map]
    refine List.filterMap_congr fun entry member => ?_
    have listed := (Table.get?_eq_some_iff meter.streams distinct entry.1 entry.2).mpr member
    rw [Function.comp_apply, stream?, found, Option.bind_some, listed, Option.bind_some]

end Reading

end Moments

section Passes

variable (provider : Provider) (pass : Pass) (calls : List Callback)

/-- The provider behind the calls of callbacks. -/
def called : Provider := (provider.enactAll pass (calls.map .call)).1

/-- What callbacks do when they are called one after the other. -/
def doings : List Turn := provider.callsTurns pass.time pass.cells pass.scope calls

theorem byCallback_doings : ∀ turn ∈ provider.doings pass calls, turn.ByCallback pass.scope :=
  byCallback_callsTurns pass.time pass.cells pass.scope provider calls

/-- The callbacks that callbacks register when they are called, with the scope of the meter. -/
def registeredBy : List (ScopeIdentity × Callback) :=
  Interleaving.registered ⟨provider, pass.time, []⟩ (provider.doings pass calls)

/-- The provider behind a collection of a meter. -/
def passed : Provider :=
  (provider.collectMeter pass.cells pass.position pass.time pass.scope).1

/-- The course of a collection of a meter in which some callbacks are called. -/
structure CallsInTurn : Prop where
  /-- All calls come before all reads, and there are no other calls. -/
  course : provider.collectMeter pass.cells pass.position pass.time pass.scope =
    let keys := (provider.called pass calls).streamKeys pass.scope
    let all := provider.enactAll pass (calls.map .call ++ keys.map .read)
    (all.1, all.1.report? pass.scope all.2.1, all.2.2)
  /-- Every stream that there is behind the last call is reported as it is then. -/
  reported : ∀ collector, provider.collector? pass.position = some collector →
    let keys := (provider.called pass calls).streamKeys pass.scope
    (provider.enactAll pass (calls.map .call ++ keys.map .read)).2.1 = keys.filterMap fun key =>
      ((provider.called pass calls).stream? pass.scope key).bind fun stream =>
        (stream.collect collector pass.time).2
  done : Interleaving.run ⟨provider, pass.time, []⟩ (provider.doings pass calls) =
    ⟨provider.called pass calls, pass.time, []⟩
  /-- A stream has got all that the callbacks measure into it. -/
  measured : ∀ scope key stream, provider.stream? scope key = some stream →
    (provider.called pass calls).stream? scope key = some
      (stream.recordEach pass.time (Turn.measuredInto scope key (provider.doings pass calls)))
  /-- A stream that the callbacks make has got all that they measure into it from then on. -/
  made : ∀ scope key stream, provider.stream? scope key = none →
    (provider.called pass calls).stream? scope key = some stream →
      ∃ before turn after new, provider.doings pass calls = before ++ turn :: after ∧
        (Interleaving.run ⟨provider, pass.time, []⟩ before).makes? scope key turn = some new ∧
        stream = new.recordEach pass.time (Turn.measuredInto scope key after)
  /-- Only callbacks of instruments that record into a stream are called. -/
  resolved : ∀ callback ∈ calls,
    callback.1.instrument.records = true ∧ callback.2 ∈ callback.1.cells
  /-- Callbacks register others with their own meter. -/
  own : ∀ pair ∈ provider.registeredBy pass calls, pair.1 = pass.scope
  /-- What is registered meanwhile comes behind what was there. -/
  later : ∀ scope, (provider.passed pass).callbacks scope =
    provider.callbacks scope ++ Table.under scope (provider.registeredBy pass calls)

variable {provider}

theorem called_eq : provider.called pass calls =
    (Event.gather (call pass.time pass.cells pass.scope) provider calls).1 := by
  rw [called, enactAll_calls]

theorem run_doings : Interleaving.run ⟨provider, pass.time, []⟩ (provider.doings pass calls) =
    ⟨provider.called pass calls, pass.time, []⟩ := by
  rw [doings, Interleaving.run_callsTurns, called_eq]

theorem Sound.called (sound : provider.Sound fun _ => True) :
    (provider.called pass calls).Sound fun _ => True := by
  have reached := Interleaving.sound_run ⟨provider, pass.time, []⟩
    (Stream.rule_true provider.shared) sound (provider.doings pass calls)
  rwa [run_doings] at reached

theorem Sound.read (sound : provider.Sound fun _ => True) (keys : List String) :
    (provider.enactAll pass (keys.map .read)).1.Sound fun _ => True := by
  induction keys generalizing provider with
  | nil => exact sound
  | cons key rest ih =>
    exact ih (sound.readStream (Stream.rule_true provider.shared) pass.position pass.time
      pass.scope key)

section All

variable {pass calls} (all : provider.callbacks pass.scope = calls)
include all

theorem runObservers_all : provider.runObservers pass.time pass.cells pass.scope =
    (provider.called pass calls, (provider.enactAll pass (calls.map .call)).2.2) := by
  rw [runObservers_eq, all, called_eq, enactAll_calls]

theorem Sound.collectMeter_eq (sound : provider.Sound fun _ => True) :
    provider.collectMeter pass.cells pass.position pass.time pass.scope =
      let keys := (provider.called pass calls).streamKeys pass.scope
      let moments := provider.enactAll pass (calls.map .call ++ keys.map .read)
      (moments.1, moments.1.report? pass.scope moments.2.1, moments.2.2) := by
  obtain ⟨read, silent⟩ := readMeter_eq pass (sound.called pass calls)
  rw [collectMeter, runObservers_all all]
  simp only [enactAll_append, enactAll_calls, ← called_eq, List.nil_append, read, silent,
    List.append_nil]

theorem callbacks_passed (scope : ScopeIdentity) : (provider.passed pass).callbacks scope =
    provider.callbacks scope ++ Table.under scope (provider.registeredBy pass calls) := by
  have run := Interleaving.callbacks_run ⟨provider, pass.time, []⟩ (provider.doings pass calls)
    scope
  rw [run_doings] at run
  rw [passed, collectMeter, runObservers_all all]
  exact (callbacks_readMeter ..).trans run

theorem Sound.passed (sound : provider.Sound fun _ => True) :
    (provider.passed pass).Sound fun _ => True := by
  have called := sound.called pass calls
  rw [Provider.passed, collectMeter, runObservers_all all]
  dsimp only
  rw [(readMeter_eq pass called).1]
  exact called.read pass _

/-- The callbacks of a meter are called in turn when it is collected. -/
theorem Sound.callsInTurn (sound : provider.Sound fun _ => True)
    (resolved : ∀ callback ∈ calls,
      callback.1.instrument.records = true ∧ callback.2 ∈ callback.1.cells) :
    provider.CallsInTurn pass calls := by
  constructor
  case course => exact sound.collectMeter_eq all
  case reported =>
    intro collector reader
    have amended := stable_amended.runObservers provider pass.time pass.cells pass.scope
    rw [runObservers_all all] at amended
    have seat := (amended.collector? pass.position).trans reader
    have metrics := metrics_enactAll pass (sound.called pass calls) seat
    simp only [enactAll_append, enactAll_calls, ← called_eq, List.nil_append]
    exact metrics
  case done => exact run_doings pass calls
  case measured =>
    intro scope key stream found
    have content := Interleaving.stream?_run ⟨provider, pass.time, []⟩ scope key
      (provider.byCallback_doings pass calls) found
    rwa [run_doings] at content
  case made =>
    intro scope key stream absent found
    refine Interleaving.made_of_stream?_run ⟨provider, pass.time, []⟩ scope key
      (provider.byCallback_doings pass calls) absent ?_
    rwa [run_doings]
  case resolved => exact resolved
  case own =>
    intro pair member
    exact Interleaving.scope_of_mem_registered _ (provider.byCallback_doings pass calls) member
  case later => exact callbacks_passed all

end All

/-- The provider behind collections that come one after the other. -/
def passedAll (passes : List Pass) : Provider := passes.foldl passed provider

/-- The callbacks that callbacks register in the course of collections. -/
def registeredByAll (provider : Provider) : List Pass → List (ScopeIdentity × Callback)
  | [] => []
  | pass :: rest => provider.registeredBy pass (provider.callbacks pass.scope) ++
    (provider.passed pass).registeredByAll rest

end Passes

section Run

variable {provider : Provider} (passes : List Pass)

theorem callbacks_passedAll (scope : ScopeIdentity) :
    (provider.passedAll passes).callbacks scope =
      provider.callbacks scope ++ Table.under scope (provider.registeredByAll passes) := by
  induction passes generalizing provider with
  | nil => exact (List.append_nil _).symm
  | cons pass rest ih =>
    change ((provider.passed pass).passedAll rest).callbacks scope = _
    rw [ih, callbacks_passed rfl, registeredByAll, Table.under_append, List.append_assoc]

/-- The meters of a collection for a reader are collected one after the other. -/
theorem collectMeters_passedAll (cells : Cells) (position : Nat) (time : UInt64)
    (scopes : List ScopeIdentity) :
    (collectMeters cells position time provider scopes).1 =
      provider.passedAll (scopes.map (Pass.mk cells position time)) := by
  induction scopes generalizing provider with
  | nil => rfl
  | cons scope rest ih => exact ih

theorem Sound.passedAll (sound : provider.Sound fun _ => True) :
    (provider.passedAll passes).Sound fun _ => True := by
  induction passes generalizing provider with
  | nil => exact sound
  | cons pass rest ih => exact ih (sound.passed rfl)

theorem mem_registeredByAll {scope : ScopeIdentity} {callback : Callback}
    (member : (scope, callback) ∈ provider.registeredByAll passes) :
    callback.1.instrument.records = true ∧ callback.2 ∈ callback.1.cells := by
  induction passes generalizing provider with
  | nil => cases member
  | cons pass rest ih =>
    rcases List.mem_append.mp member with here | later
    · exact Interleaving.mem_registered here
    · exact ih later

end Run

end Provider

namespace Interleaving

/-- Whatever happened to a provider, and however many of its meters have been collected since, the
next collection of a meter calls the callbacks that were registered before it, each once and in
the order of their registration. -/
theorem callbacks_run_in_turn (config : ProviderConfig) (built : UInt64)
    (readers : List (Nat × TemporalityChoice × Bool)) (history : List Turn) (passes : List Pass)
    (pass : Pass) :
    let begun := start config built readers
    let before := (begun.run history).provider
    let provider := before.passedAll passes
    let calls := Table.under pass.scope
      (begun.registered history ++ before.registeredByAll passes)
    provider.callbacks pass.scope = calls ∧ provider.CallsInTurn pass calls ∧
      ∀ (meter : Meter) config, meter.RegistersResolved provider.shared config := by
  intro begun before provider calls
  have all : provider.callbacks pass.scope = calls := by
    have none : begun.provider.callbacks pass.scope = [] := rfl
    have early := begun.callbacks_run history pass.scope
    rw [none, List.nil_append] at early
    exact (before.callbacks_passedAll passes pass.scope).trans
      ((congrArg (· ++ _) early).trans (Table.under_append ..).symm)
  have sound : before.Sound fun _ => True :=
    begun.sound_run (Stream.rule_true _) (Provider.sound_build config built readers) history
  refine ⟨all, (sound.passedAll passes).callsInTurn all fun callback member => ?_,
    fun meter config => meter.registersResolved _ config⟩
  obtain ⟨⟨scope, found⟩, listed, rfl⟩ := List.mem_map.mp member
  rcases List.mem_append.mp (List.mem_filter.mp listed).1 with early | late
  · exact mem_registered early
  · exact Provider.mem_registeredByAll passes late

/-- A callback that registers another one at each collection is called once by each of them, and
the others follow from the next one on. -/
example :
    let scope : ScopeIdentity := ⟨"test", none, none⟩
    let gauge (name : String) : InstrumentConfig :=
      { kind := .observableGauge, number := .signed, name }
    let cells : Cells := ⟨[("outer", [.register (gauge "b") ["inner"]]),
      ("inner", [.observe (.integer 2) []])]⟩
    let begun := (start {} 10 [(0, fun _ => .delta, false)]).run
      [.request { name := "test" } true, .create (some scope) (gauge "a") ["outer", "inner"]]
    let passed (count : Nat) := begun.provider.passedAll
      (List.replicate count ⟨cells, 0, 20, scope⟩)
    ((passed 0).callbacks scope).map (·.2) = ["outer", "inner"] ∧
      ((passed 2).callbacks scope).map (·.2) = ["outer", "inner", "inner", "inner"] := by
  decide +kernel

end Interleaving

end Metering
