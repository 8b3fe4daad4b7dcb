import Metering.Proofs.Provider.Session

/-!
Isolation of readers. A session is compared with the one in which the collections of all readers
but one are left out. Whatever the readers ask for, the reader's last collection time is the same in
both. It is also given the same reports, unless in the second session a stream whose series can be
dropped had no room for an attribute set: readers share the room, and what the others have not
collected keeps it from this one.
-/

namespace Metering

/-- Whether two reports of a scope differ at most in the order of points. -/
structure ScopeReport.Same (left right : ScopeReport) : Prop where
  scope : left.scope = right.scope
  metrics : List.Forall₂ Metric.Same left.metrics right.metrics

structure Report.Same (left right : Report) : Prop where
  resource : left.resource = right.resource
  scopes : List.Forall₂ ScopeReport.Same left.scopes right.scopes

/-- Whether two answers to a collection are the same error, or differ at most in the order of
points. -/
inductive SameAnswer : Except MetricError Report → Except MetricError Report → Prop where
  | error (error : MetricError) : SameAnswer (.error error) (.error error)
  | report {left right : Report} (same : left.Same right) : SameAnswer (.ok left) (.ok right)

/-- Whether an answer has a point with given attributes. -/
def Report.shows (attributes : List Attribute) : Except MetricError Report → Bool
  | .error _ => false
  | .ok report => report.scopes.any fun scope => scope.metrics.any fun metric =>
      metric.points.any fun point => point.attributes = attributes

/-- Answers that are the same have points with the same attributes. -/
theorem SameAnswer.shows {left right : Except MetricError Report} (same : SameAnswer left right)
    (attributes : List Attribute) :
    Report.shows attributes left = Report.shows attributes right := by
  have any : ∀ {α : Type} {related : α → α → Prop} {holds : α → Bool} {first second : List α},
      List.Forall₂ related first second →
        (∀ one other, related one other → holds one = holds other) →
          first.any holds = second.any holds := by
    intro α related holds first second pairs each
    induction pairs with
    | nil => rfl
    | cons here _ ih => rw [List.any_cons, List.any_cons, each _ _ here, ih]
  cases same with
  | error => rfl
  | report reports =>
    exact any reports.scopes fun _ _ scopes => any scopes.metrics fun _ _ metrics =>
      metrics.points.any_eq

namespace Provider

/-- Whether the readers of a provider are where their positions say, and ask for what the meters
were told. -/
structure Seated (provider : Provider) : Prop where
  count : provider.bindings.length = provider.shared.readers.length
  place : ∀ position collector, provider.collector? position = some collector →
    collector.position = position ∧
      provider.shared.readers[position]? = some collector.temporality

theorem seated_build (config : ProviderConfig) (now : UInt64)
    (readers : List (Nat × TemporalityChoice × Bool)) : (build config now readers).Seated := by
  constructor
  case count => simp [build]
  case place =>
    intro position collector found
    simp only [collector?, build, List.getElem?_map, List.getElem?_zipIdx, Option.map_map,
      Option.map_eq_some_iff] at found
    obtain ⟨reader, there, rfl⟩ := found
    simp [build, there]

theorem Seated.lt_length {provider : Provider} (seated : provider.Seated) {position : Nat}
    {collector : Collector} (found : provider.collector? position = some collector) :
    position < provider.shared.readers.length :=
  (List.getElem?_eq_some_iff.mp (seated.place position collector found).2).1

theorem Amended.shared {provider next : Provider} (amended : provider.Amended next) :
    next.shared = provider.shared := by
  obtain ⟨_, rfl⟩ := amended
  rfl

/-- A collection that ends raises the last collection time of its own reader. -/
theorem collector_finish (provider : Provider) (position other : Nat) (time : UInt64) :
    (provider.finish position time).collector? other =
      (provider.collector? other).map fun collector =>
        if position = other then { collector with lastCollect := max collector.lastCollect time }
        else collector := by
  simp only [collector?, finish, List.getElem?_modify]
  cases provider.bindings[other]? with
  | none => rfl
  | some binding => by_cases same : position = other <;> simp [same]

theorem Seated.finish {provider : Provider} (seated : provider.Seated) (position : Nat)
    (time : UInt64) : (provider.finish position time).Seated := by
  constructor
  case count => exact (List.length_modify ..).trans seated.count
  case place =>
    intro other collector found
    rw [collector_finish] at found
    obtain ⟨before, there, rfl⟩ := Option.map_eq_some_iff.mp found
    have place := seated.place other before there
    split <;> exact place

/-- Whether two providers are one provider in two sessions. -/
structure Mirrors (position : Nat) (full alone : Provider) : Prop where
  shared : full.shared = alone.shared
  shutdown : full.isShutdown = alone.isShutdown
  handles : full.handles = alone.handles
  meters : Table.Alike (Meter.Mirrors alone.shared.readers position) full.registry.components
    alone.registry.components
  busy : full.Seated
  calm : alone.Seated
  own : full.collector? position = alone.collector? position

section Mirrors

variable {position : Nat} {full alone : Provider}

theorem mirrors_build (config : ProviderConfig) (now : UInt64)
    (readers : List (Nat × TemporalityChoice × Bool)) (position : Nat) :
    Mirrors position (build config now readers) (build config now readers) :=
  have seated := seated_build config now readers
  ⟨rfl, rfl, rfl, Table.alike_empty, seated, seated, rfl⟩

theorem Mirrors.amended (mirrors : Mirrors position full alone) {full' alone' : Provider}
    (left : full.Amended full') (right : alone.Amended alone')
    (meters : Table.Alike (Meter.Mirrors alone.shared.readers position) full'.registry.components
      alone'.registry.components) : Mirrors position full' alone' := by
  obtain ⟨_, rfl⟩ := left
  obtain ⟨_, rfl⟩ := right
  exact ⟨mirrors.shared, mirrors.shutdown, mirrors.handles, meters, ⟨mirrors.busy.count,
    mirrors.busy.place⟩, ⟨mirrors.calm.count, mirrors.calm.place⟩, mirrors.own⟩

/-- A scope has a meter in both sessions or in neither. -/
inductive Paired (readers : List TemporalityChoice) (position : Nat) (full alone : Provider)
    (scope : ScopeIdentity) : Prop where
  | absent (left : full.meter? scope = none) (right : alone.meter? scope = none)
  | present (meter other : Meter) (left : full.meter? scope = some meter)
      (right : alone.meter? scope = some other)
      (mirrors : Meter.Mirrors readers position meter other)

theorem Mirrors.paired (mirrors : Mirrors position full alone) (scope : ScopeIdentity) :
    Paired alone.shared.readers position full alone scope := by
  have found := mirrors.meters.get? scope
  cases left : full.meter? scope with
  | none =>
    rw [← meter?, left] at found
    cases right : alone.meter? scope with
    | none => exact .absent left right
    | some other =>
      rw [← meter?, right] at found
      cases found
  | some meter =>
    rw [← meter?, left] at found
    cases right : alone.meter? scope with
    | none =>
      rw [← meter?, right] at found
      cases found
    | some other =>
      rw [← meter?, right] at found
      cases found with
      | some same => exact .present meter other left right same

theorem Mirrors.setMeter (mirrors : Mirrors position full alone) (scope : ScopeIdentity)
    {meter other : Meter} (same : Meter.Mirrors alone.shared.readers position meter other) :
    Mirrors position (full.setMeter scope meter) (alone.setMeter scope other) :=
  mirrors.amended (full.amended_setMeter scope meter) (alone.amended_setMeter scope other)
    (mirrors.meters.insert scope same)

theorem Mirrors.meter (mirrors : Mirrors position full alone) (scope : Scope) :
    Mirrors position (full.meter scope).1 (alone.meter scope).1 ∧
      (full.meter scope).2.1 = (alone.meter scope).2.1 := by
  have unbound : full.bindings.isEmpty = alone.bindings.isEmpty := by
    rw [Bool.eq_iff_iff, List.isEmpty_iff_length_eq_zero, List.isEmpty_iff_length_eq_zero,
      mirrors.busy.count, mirrors.calm.count, mirrors.shared]
  cases bound : alone.bindings.isEmpty with
  | true => simpa [Provider.meter, unbound, bound] using mirrors
  | false =>
    cases running : alone.isShutdown with
    | true =>
      simpa [Provider.meter, unbound, bound, mirrors.shutdown, running] using mirrors
    | false =>
      have left := full.meter_open (unbound.trans bound) (mirrors.shutdown.trans running) scope
      have right := alone.meter_open bound running scope
      rw [left.1, left.2, right.1, right.2]
      refine ⟨?_, rfl⟩
      cases mirrors.paired (nameScope scope).1.identity with
      | absent here there =>
        rw [here, there]
        exact mirrors.setMeter _ (Meter.mirrors_create _ _ _)
      | present _ _ here there _ =>
        rw [here, there]
        exact mirrors

theorem Mirrors.instrument (mirrors : Mirrors position full alone) (handle : MeterHandle)
    (config : InstrumentConfig) (cells : List String)
    (synchronous : config.kind.isObservable = false) :
    Mirrors position (full.instrument handle config cells).1
        (alone.instrument handle config cells).1 ∧
      (full.instrument handle config cells).2.1 = (alone.instrument handle config cells).2.1 := by
  cases handle with
  | none => exact ⟨mirrors, rfl⟩
  | some scope =>
    unfold Provider.instrument
    rw [Option.bind_some, Option.bind_some]
    cases mirrors.paired scope with
    | absent left right =>
      rw [left, right]
      exact ⟨mirrors, rfl⟩
    | present meter other left right same =>
      rw [left, right, mirrors.shared]
      obtain ⟨made, instruments⟩ := same.instrument config cells synchronous
      exact ⟨mirrors.setMeter scope made, instruments⟩

theorem Mirrors.record (mirrors : Mirrors position full alone) (now : UInt64)
    (handle : MeterHandle) (instrument : Instrument) (suits : alone.Suits handle instrument)
    (value : Int) (attributes : List Attribute) :
    Mirrors position (full.record now handle instrument (.integer value) attributes).1
      (alone.record now handle instrument (.integer value) attributes).1 := by
  cases handle with
  | none => exact mirrors
  | some scope =>
    unfold Provider.record
    rw [Option.bind_some, Option.bind_some]
    cases mirrors.paired scope with
    | absent left right =>
      rw [left, right]
      exact mirrors
    | present meter other left right same =>
      rw [left, right]
      exact mirrors.setMeter scope
        (same.record now instrument (suits.meter rfl right) value attributes)

/-- Without observable instruments there are no callbacks to run before a meter is read. -/
theorem collectMeter_calm (provider : Provider) (cells : Cells) (position : Nat) (time : UInt64)
    (scope : ScopeIdentity) (calm : provider.observers scope = []) :
    provider.collectMeter cells position time scope =
      ((provider.readMeter position time scope).1, (provider.readMeter position time scope).2,
        []) := by
  have quiet : provider.runObservers time cells scope = (provider, []) := by
    rw [runObservers, calm]
    rfl
  rw [collectMeter, quiet]

theorem Paired.observers {readers : List TemporalityChoice} {scope : ScopeIdentity}
    (paired : Paired readers position full alone scope) :
    full.observers scope = [] ∧ alone.observers scope = [] := by
  unfold Provider.observers
  cases paired with
  | absent left right =>
    rw [left, right]
    exact ⟨rfl, rfl⟩
  | present meter other left right same =>
    rw [left, right]
    exact ⟨same.busy, same.calm⟩

theorem Mirrors.collectMeter_other (mirrors : Mirrors position full alone) (cells : Cells)
    (other : Nat) (time : UInt64) (scope : ScopeIdentity)
    (reader : position < alone.shared.readers.length) (different : position ≠ other) :
    Mirrors position (full.collectMeter cells other time scope).1 alone := by
  have paired := mirrors.paired scope
  rw [full.collectMeter_calm cells other time scope paired.observers.1]
  dsimp only
  unfold readMeter
  cases paired with
  | absent left _ =>
    rw [left]
    exact mirrors
  | present meter twin left right same =>
    rw [left]
    cases found : full.collector? other with
    | none => exact mirrors
    | some collector =>
      have place := (mirrors.busy.place other collector found).1
      have inside := mirrors.shared ▸ mirrors.busy.lt_length found
      have read := same.read_other collector time (place ▸ inside) reader (place ▸ different)
      have kept := mirrors.setMeter scope read
      have unchanged : alone.setMeter scope twin = alone := by
        unfold Provider.setMeter
        rw [Table.insert_self _ _ _ right]
      rw [unchanged] at kept
      exact kept

/-- What a reader is given of one meter is the same in both sessions. -/
theorem Mirrors.collectMeter_own (mirrors : Mirrors position full alone) (cells : Cells)
    (time : UInt64) (scope : ScopeIdentity) :
    Mirrors position (full.collectMeter cells position time scope).1
        (alone.collectMeter cells position time scope).1 ∧
      ((alone.collectMeter cells position time scope).1.overflows = false →
        Option.Rel ScopeReport.Same (full.collectMeter cells position time scope).2.1
          (alone.collectMeter cells position time scope).2.1) := by
  have paired := mirrors.paired scope
  rw [full.collectMeter_calm cells position time scope paired.observers.1,
    alone.collectMeter_calm cells position time scope paired.observers.2]
  dsimp only
  unfold readMeter
  rw [mirrors.own]
  cases paired with
  | absent left right =>
    rw [left, right]
    exact ⟨mirrors, fun _ => .none⟩
  | present meter other left right same =>
    rw [left, right]
    cases found : alone.collector? position with
    | none => exact ⟨mirrors, fun _ => .none⟩
    | some collector =>
      obtain ⟨place, reader⟩ := mirrors.calm.place position collector found
      obtain ⟨read, metrics⟩ := same.read_own collector place reader time
      refine ⟨mirrors.setMeter scope read, fun room => ?_⟩
      have spare : ∀ key stream, (other.read collector time).1.streams.get? key = some stream →
          stream.overflows = false := by
        intro key stream there
        rw [← Bool.not_eq_true]
        intro spilled
        have meters := (Table.anyFound_iff _ _).mpr ⟨key, stream, there, spilled⟩
        have all : (alone.setMeter scope (other.read collector time).1).overflows = true :=
          (Table.anyFound_iff _ _).mpr
            ⟨scope, _, (Table.get?_insert _ _ _ _).trans (if_pos rfl), meters⟩
        dsimp only at room
        rw [all] at room
        cases room
      have pairs := metrics spare
      have empty : (meter.read collector time).2.isEmpty =
          (other.read collector time).2.isEmpty := by
        rw [Bool.eq_iff_iff, List.isEmpty_iff_length_eq_zero, List.isEmpty_iff_length_eq_zero,
          pairs.length_eq]
      dsimp only
      rw [empty]
      split
      next => exact .none
      next => exact .some ⟨same.scope, pairs⟩

theorem Mirrors.collectMeters_other (mirrors : Mirrors position full alone) (cells : Cells)
    (other : Nat) (time : UInt64) (scopes : List ScopeIdentity)
    (reader : position < alone.shared.readers.length) (different : position ≠ other) :
    Mirrors position (collectMeters cells other time full scopes).1 alone := by
  induction scopes generalizing full with
  | nil => exact mirrors
  | cons scope rest ih =>
    exact ih (mirrors.collectMeter_other cells other time scope reader different)

theorem Mirrors.collectMeters_own (mirrors : Mirrors position full alone) (cells : Cells)
    (time : UInt64) (scopes : List ScopeIdentity) :
    Mirrors position (collectMeters cells position time full scopes).1
        (collectMeters cells position time alone scopes).1 ∧
      ((collectMeters cells position time alone scopes).1.overflows = false →
        List.Forall₂ ScopeReport.Same (collectMeters cells position time full scopes).2.1
          (collectMeters cells position time alone scopes).2.1) := by
  induction scopes generalizing full alone with
  | nil => exact ⟨mirrors, fun _ => .nil⟩
  | cons scope rest ih =>
    obtain ⟨here, report⟩ := mirrors.collectMeter_own cells time scope
    obtain ⟨there, reports⟩ := ih here
    refine ⟨there, fun room => ?_⟩
    have before : (alone.collectMeter cells position time scope).1.overflows = false := by
      rw [← Bool.not_eq_true]
      intro spilled
      have later := (stable_follows.collectMeters _ cells position time rest).overflows spilled
      exact Bool.false_ne_true (room.symm.trans later)
    have first : ∀ {left right}, Option.Rel ScopeReport.Same left right →
        List.Forall₂ ScopeReport.Same left.toList right.toList := by
      intro left right pair
      cases pair with
      | none => exact .nil
      | some same => exact .cons same .nil
    exact List.rel_append (first (report before)) (reports room)

theorem Mirrors.finish_other (mirrors : Mirrors position full alone) (other : Nat)
    (time : UInt64) (different : position ≠ other) :
    Mirrors position (full.finish other time) alone := by
  refine ⟨mirrors.shared, mirrors.shutdown, mirrors.handles, mirrors.meters,
    mirrors.busy.finish other time, mirrors.calm, ?_⟩
  rw [collector_finish, mirrors.own]
  simp [Ne.symm different]

theorem Mirrors.finish_own (mirrors : Mirrors position full alone) (time : UInt64) :
    Mirrors position (full.finish position time) (alone.finish position time) := by
  refine ⟨mirrors.shared, mirrors.shutdown, mirrors.handles, mirrors.meters,
    mirrors.busy.finish position time, mirrors.calm.finish position time, ?_⟩
  rw [collector_finish, collector_finish, mirrors.own]

theorem Mirrors.collect_other (mirrors : Mirrors position full alone) (cells : Cells)
    (now : UInt64) (other : Nat) (reader : position < alone.shared.readers.length)
    (different : position ≠ other) :
    Mirrors position (full.collect cells now other).1 alone := by
  unfold collect
  split
  next => exact mirrors
  next =>
    split
    next => exact mirrors
    next =>
      exact (mirrors.collectMeters_other cells other now _ reader different).finish_other other
        now different

/-- A collection for the reader itself gives the same answer in both sessions. -/
theorem Mirrors.collect_own (mirrors : Mirrors position full alone) (cells : Cells)
    (now : UInt64) :
    Mirrors position (full.collect cells now position).1 (alone.collect cells now position).1 ∧
      ((alone.collect cells now position).1.overflows = false →
        SameAnswer (full.collect cells now position).2.1
          (alone.collect cells now position).2.1) := by
  have dropped : full.isDropped = alone.isDropped := by
    rw [isDropped, mirrors.handles, isDropped]
  unfold collect
  rw [dropped, mirrors.own, mirrors.meters.keys]
  split
  next => exact ⟨mirrors, fun _ => .error _⟩
  next =>
    split
    next => exact ⟨mirrors, fun _ => .error _⟩
    next =>
      obtain ⟨collected, reports⟩ := mirrors.collectMeters_own cells now
        alone.registry.components.keys
      refine ⟨collected.finish_own now, fun room => ?_⟩
      exact .report ⟨congrArg Shared.resource collected.shared, reports room⟩

end Mirrors

/-- Only a stream of which every reader takes changes can have had no room. -/
theorem Mirrors.deltas {position : Nat} {full alone : Provider}
    (mirrors : Mirrors position full alone) (spilled : alone.overflows = true) :
    ∃ kind : InstrumentKind, ∀ temporality ∈ alone.shared.readers,
      temporality kind = .delta := by
  obtain ⟨scope, meter, found, inside⟩ := (Table.anyFound_iff _ _).mp spilled
  obtain ⟨key, stream, there, spill⟩ := (Table.anyFound_iff _ _).mp inside
  cases mirrors.paired scope with
  | absent _ right =>
    rw [meter?, found] at right
    cases right
  | present _ other _ right same =>
    cases found.symm.trans right
    have pair := same.streams.get? key
    rw [there] at pair
    generalize Table.get? _ key = left at pair
    cases pair with
    | some twins =>
      rw [Stream.overflows, Bool.and_eq_true] at spill
      exact ⟨stream.definition.kind, twins.serves.deltas spill.1⟩

theorem follows_collect (provider : Provider) (cells : Cells) (now : UInt64) (position : Nat) :
    provider.Follows (provider.collect cells now position).1 := by
  unfold collect
  split
  next => exact .refl provider
  next =>
    split
    next => exact .refl provider
    next => exact stable_follows.collectMeters provider cells position now _

theorem shared_collect (provider : Provider) (cells : Cells) (now : UInt64) (position : Nat) :
    (provider.collect cells now position).1.shared = provider.shared := by
  unfold collect
  split
  next => rfl
  next =>
    split
    next => rfl
    next => exact (stable_amended.collectMeters provider cells position now _).shared

end Provider

namespace Session

/-- Whether two sessions are one session with and without the collections of all readers but one.
The answers to this reader are the same as long as there was room for every attribute set. -/
structure Mirrors (readers : List TemporalityChoice) (position : Nat) (full alone : Session) :
    Prop where
  provider : Provider.Mirrors position full.provider alone.provider
  readers : alone.provider.shared.readers = readers
  clock : full.clock = alone.clock
  meters : full.meters = alone.meters
  instruments : full.instruments = alone.instruments
  suits : ∀ pair ∈ alone.instruments, alone.provider.Suits pair.1 pair.2
  answers : alone.provider.overflows = false →
    List.Forall₂ SameAnswer (full.answersFor position) (alone.answersFor position)

section Mirrors

variable {readers : List TemporalityChoice} {position : Nat} {full alone : Session}

theorem mirrors_start (config : ProviderConfig) (now : UInt64)
    (readers : List (Nat × TemporalityChoice × Bool)) (position : Nat) :
    Mirrors (readers.map fun reader => reader.2.1) position (start config now readers)
      (start config now readers) :=
  ⟨Provider.mirrors_build config now readers position, rfl, rfl, rfl, rfl, nofun, fun _ => .nil⟩

/-- The answers given so far stay the same across a change that keeps the streams. -/
theorem Mirrors.answered (mirrors : Mirrors readers position full alone) {next : Provider}
    (follows : alone.provider.Follows next) (room : next.overflows = false) :
    List.Forall₂ SameAnswer (full.answersFor position) (alone.answersFor position) := by
  apply mirrors.answers
  rw [← Bool.not_eq_true]
  intro spilled
  exact Bool.false_ne_true (room.symm.trans (follows.overflows spilled))

theorem Mirrors.suited (mirrors : Mirrors readers position full alone) {next : Provider}
    (follows : alone.provider.Follows next) :
    ∀ pair ∈ alone.instruments, next.Suits pair.1 pair.2 :=
  fun pair member => (mirrors.suits pair member).follows follows

theorem Mirrors.request (mirrors : Mirrors readers position full alone) (scope : Scope)
    (named : Bool) :
    Mirrors readers position (full.request scope named) (alone.request scope named) := by
  have asked : ∀ scope, Mirrors readers position
      { full with
        provider := (full.provider.meter scope).1
        meters := full.meters ++ [(full.provider.meter scope).2.1] }
      { alone with
        provider := (alone.provider.meter scope).1
        meters := alone.meters ++ [(alone.provider.meter scope).2.1] } := by
    intro scope
    obtain ⟨made, handles⟩ := mirrors.provider.meter scope
    have follows := alone.provider.follows_meter scope
    refine ⟨made, (alone.provider.amended_meter scope).shared ▸ mirrors.readers, mirrors.clock, ?_,
      mirrors.instruments, mirrors.suited follows, mirrors.answered follows⟩
    dsimp only
    rw [mirrors.meters, handles]
  cases named with
  | false => exact asked scope
  | true => exact asked (Provider.nameScope scope).1

theorem Mirrors.create (mirrors : Mirrors readers position full alone) (handle : MeterHandle)
    (made : IntegerInstrument) (name : String) (description unit : Option String) :
    Mirrors readers position (full.create handle (made.config name description unit))
      (alone.create handle (made.config name description unit)) := by
  obtain ⟨created, instruments⟩ := mirrors.provider.instrument handle
    (made.config name description unit) [] made.synchronous
  have follows := alone.provider.follows_instrument handle (made.config name description unit) []
  have amended := alone.provider.amended_instrument handle (made.config name description unit) []
  have suits := alone.provider.suits_instrument handle (made.config name description unit) []
    made.integer made.increments
  refine ⟨created, amended.shared ▸ mirrors.readers, mirrors.clock, mirrors.meters, ?_, ?_,
    mirrors.answered follows⟩
  · dsimp only [Session.create]
    rw [mirrors.instruments, instruments]
  · intro pair member
    rcases List.mem_append.mp member with before | new
    · exact mirrors.suited follows pair before
    · exact List.mem_singleton.mp new ▸ suits

theorem Mirrors.record (mirrors : Mirrors readers position full alone) (handle : MeterHandle)
    (instrument : Instrument) (made : (handle, instrument) ∈ alone.instruments) (value : Int)
    (attributes : List Attribute) :
    Mirrors readers position (full.record handle instrument value attributes)
      (alone.record handle instrument value attributes) := by
  have suits := mirrors.suits _ made
  have recorded := mirrors.provider.record alone.clock handle instrument suits value attributes
  have follows := alone.provider.follows_record alone.clock handle instrument (.integer value)
    attributes
  have amended := alone.provider.amended_record alone.clock handle instrument (.integer value)
    attributes
  unfold Session.record
  rw [mirrors.clock]
  exact ⟨recorded, amended.shared ▸ mirrors.readers, rfl, mirrors.meters, mirrors.instruments,
    mirrors.suited follows, mirrors.answered follows⟩

/-- A collection for another reader leaves a session the mirror of the one without it. -/
theorem Mirrors.collect_other (mirrors : Mirrors readers position full alone) (cells : Cells)
    (other : Nat) (reader : position < readers.length) (different : position ≠ other) :
    Mirrors readers position (full.collect cells other) alone := by
  refine ⟨mirrors.provider.collect_other cells full.clock other (mirrors.readers ▸ reader)
    different, mirrors.readers, mirrors.clock, mirrors.meters, mirrors.instruments, mirrors.suits,
    fun room => ?_⟩
  have answers := full.answersFor_append position other
    (full.provider.collect cells full.clock other).2.1
  rw [if_neg (Ne.symm different)] at answers
  exact answers.symm ▸ mirrors.answers room

theorem Mirrors.collect_own (mirrors : Mirrors readers position full alone) (cells : Cells) :
    Mirrors readers position (full.collect cells position) (alone.collect cells position) := by
  obtain ⟨collected, same⟩ := mirrors.provider.collect_own cells alone.clock
  have follows := alone.provider.follows_collect cells alone.clock position
  have shared := alone.provider.shared_collect cells alone.clock position
  unfold Session.collect
  rw [mirrors.clock]
  refine ⟨collected, shared ▸ mirrors.readers, rfl, mirrors.meters, mirrors.instruments,
    mirrors.suited follows, fun room => ?_⟩
  have left := full.answersFor_append position position
    (full.provider.collect cells alone.clock position).2.1
  have right := alone.answersFor_append position position
    (alone.provider.collect cells alone.clock position).2.1
  rw [if_pos rfl] at left right
  rw [answersFor, answersFor] at left right
  dsimp only [answersFor] at left right ⊢
  rw [left, right]
  exact List.rel_append (mirrors.answered follows room) (.cons (same room) .nil)

/-- What is done in both sessions keeps them mirrors of each other. -/
theorem Mirrors.step (mirrors : Mirrors readers position full alone) (cells : Cells) (act : Act)
    (kept : act.concerns position = true) :
    Mirrors readers position (full.step cells act) (alone.step cells act) := by
  cases act with
  | tick now =>
    exact ⟨mirrors.provider, mirrors.readers, rfl, mirrors.meters, mirrors.instruments,
      mirrors.suits, mirrors.answers⟩
  | request scope named => exact mirrors.request scope named
  | create meter made name description unit =>
    unfold Session.step
    rw [mirrors.meters]
    dsimp only
    split
    next => exact mirrors
    next handle _ => exact mirrors.create handle made name description unit
  | record place value attributes =>
    unfold Session.step
    rw [mirrors.instruments]
    dsimp only
    split
    next => exact mirrors
    next handle instrument made =>
      exact mirrors.record handle instrument (List.mem_of_getElem? made) value attributes
  | collect other =>
    have own : other = position := of_decide_eq_true kept
    exact own ▸ mirrors.collect_own cells

/-- Leaving out the collections of the other readers keeps the sessions mirrors of each other. -/
theorem Mirrors.run (mirrors : Mirrors readers position full alone) (cells : Cells)
    (reader : position < readers.length) (acts : List Act) :
    Mirrors readers position (full.run cells acts)
      (alone.run cells (acts.filter (Act.concerns position))) := by
  -- Both sessions make the acts that are kept; a collection left out moves the full one alone.
  induction acts generalizing full alone with
  | nil => exact mirrors
  | cons act rest ih =>
    cases kept : act.concerns position with
    | true =>
      rw [List.filter_cons_of_pos kept]
      exact ih (mirrors.step cells act kept)
    | false =>
      rw [List.filter_cons_of_neg (Bool.eq_false_iff.mp kept)]
      cases act with
      | collect other =>
        have different : position ≠ other := fun same => of_decide_eq_false kept same.symm
        exact ih (mirrors.collect_other cells other reader different)
      | tick | request | create | record => cases kept

end Mirrors

/-- Leaving the collections of all other readers out of a session does not change when a reader
last collected. It does not change what the reader is given either, provided that then no stream
whose series can be dropped runs out of room for attribute sets; where a reader asks for running
totals no series can be dropped. -/
theorem collections_isolated (config : ProviderConfig) (built : UInt64)
    (readers : List (Nat × TemporalityChoice × Bool)) (cells : Cells) (acts : List Act)
    (position : Nat) (reader : position < readers.length) :
    let full := (start config built readers).run cells acts
    let alone := (start config built readers).run cells (acts.filter (Act.concerns position))
    full.lastCollect? position = alone.lastCollect? position ∧
      (alone.provider.overflows = false →
        List.Forall₂ SameAnswer (full.answersFor position) (alone.answersFor position)) ∧
      (alone.provider.overflows = true →
        ∃ kind : InstrumentKind, ∀ reader ∈ readers, reader.2.1 kind = .delta) := by
  intro full alone
  have mirrors := (mirrors_start config built readers position).run cells
    (by rw [List.length_map]; exact reader) acts
  refine ⟨?_, mirrors.answers, fun spilled => ?_⟩
  · exact congrArg (Option.map Collector.lastCollect) mirrors.provider.own
  · obtain ⟨kind, deltas⟩ := mirrors.provider.deltas spilled
    refine ⟨kind, fun choice member => deltas _ ?_⟩
    rw [mirrors.readers]
    exact List.mem_map.mpr ⟨choice, member, rfl⟩

/-- The second reader's collection drops the series of the first measurement, and the first reader
is due 7 whether the second one has been given the series or not. -/
theorem collections_isolated_dropped :
    let config : ProviderConfig := { resource := some .empty }
    let readers : List (Nat × TemporalityChoice × Bool) :=
      [(0, fun _ => .delta, false), (1, fun _ => .delta, false)]
    let acts : List Act :=
      [.request ⟨"test", none, none, []⟩ true, .create 0 .counter "requests" none none,
        .record 0 5 [], .collect 0, .collect 1, .tick 2, .record 0 7 [], .collect 0]
    let full := (start config 1 readers).run .empty acts
    let alone := (start config 1 readers).run .empty (acts.filter (Act.concerns 0))
    alone.provider.overflows = false ∧ (full.answersFor 0).length = 2 ∧
      full.lastCollect? 0 = alone.lastCollect? 0 ∧
      List.Forall₂ SameAnswer (full.answersFor 0) (alone.answersFor 0) := by
  intro config readers acts full alone
  have room : alone.provider.overflows = false := by decide +kernel
  have asked : (full.answersFor 0).length = 2 := by decide +kernel
  have isolated := collections_isolated config 1 readers .empty acts 0 (by decide)
  exact ⟨room, asked, isolated.1, isolated.2.1 room⟩

/-- With room for one attribute set, the second reader's collection makes room for the set that
the first reader is otherwise shown as overflow. -/
theorem collections_interfere :
    let view : View := ⟨some (.ofString "requests"), none, none, none, none, none, some 1, false⟩
    let config : ProviderConfig := { resource := some .empty, views := [view] }
    let readers : List (Nat × TemporalityChoice × Bool) :=
      [(0, fun _ => .delta, false), (1, fun _ => .delta, false)]
    let acts : List Act :=
      [.request ⟨"test", none, none, []⟩ true, .create 0 .counter "requests" none none,
        .record 0 5 [⟨"route", .string "/a"⟩], .collect 0, .collect 1,
        .record 0 7 [⟨"route", .string "/b"⟩], .collect 0]
    let full := (start config 1 readers).run .empty acts
    let alone := (start config 1 readers).run .empty (acts.filter (Act.concerns 0))
    ¬List.Forall₂ SameAnswer (full.answersFor 0) (alone.answersFor 0) := by
  intro view config readers acts full alone same
  have shown : (full.answersFor 0).map (Report.shows AttributeSet.overflow.toList) =
      (alone.answersFor 0).map (Report.shows AttributeSet.overflow.toList) := by
    rw [← List.forall₂_eq_eq_eq, List.forall₂_map_left_iff, List.forall₂_map_right_iff]
    exact same.imp fun _ _ pair => pair.shows _
  have given : (full.answersFor 0).map (Report.shows AttributeSet.overflow.toList) =
      [false, false] := by decide +kernel
  have otherwise : (alone.answersFor 0).map (Report.shows AttributeSet.overflow.toList) =
      [false, true] := by decide +kernel
  rw [given, otherwise] at shown
  cases shown

end Session

end Metering
